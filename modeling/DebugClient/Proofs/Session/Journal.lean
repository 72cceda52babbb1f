import DebugClient.Session.State
/-!
# Journals — what was said since

The journal of a session only grows. What a session has said since it was
in another state, and the commands it has sent.
-/

namespace DebugClient

/-- The command a signal sends. -/
def Signal.command? : Signal → Option Wire.Command
  | .request _ command => some command
  | _ => none

/-- The commands signals send. -/
def commandsOf (signals : List Signal) : List Wire.Command := signals.filterMap Signal.command?

theorem commandsOf_append (new said : List Signal) :
    commandsOf (new ++ said) = commandsOf new ++ commandsOf said :=
  List.filterMap_append

/-- The global object is gone. -/
def Signal.clears : Signal → Bool
  | .debugger .globalObjectCleared => true
  | _ => false

/-- The request a signal is. -/
def Signal.request? : Signal → Option (Ticket × Wire.Command)
  | .request ticket command => some (ticket, command)
  | _ => none

/-- The requests among signals. -/
def requestsOf (signals : List Signal) : List (Ticket × Wire.Command) :=
  signals.filterMap Signal.request?

theorem mem_requestsOf {ticket : Ticket} {command : Wire.Command} {said : List Signal} :
    (ticket, command) ∈ requestsOf said ↔ .request ticket command ∈ said := by
  rw [requestsOf, List.mem_filterMap]
  constructor
  · rintro ⟨signal, there, is⟩
    cases signal <;> cases is
    exact there
  · exact fun there => ⟨_, there, rfl⟩

theorem requestsOf_append (new said : List Signal) :
    requestsOf (new ++ said) = requestsOf new ++ requestsOf said :=
  List.filterMap_append

namespace Session

/-- What one change leaves as it is, many leave as it is. -/
theorem foldl_same {α β : Type} {view : Session → β} {change : Session → α → Session}
    (same : ∀ s a, view (change s a) = view s) (l : List α) (s : Session) :
    view (l.foldl change s) = view s := by
  induction l generalizing s with
  | nil => rfl
  | cons a rest ih => exact (ih _).trans (same s a)

/-- What a session has said since its journal had a length, newest first. -/
def saidSince (mark : Nat) (s : Session) : List Signal := s.journal.take (s.journal.length - mark)

theorem saidSince_eq {s t : Session} {new : List Signal} (h : t.journal = new ++ s.journal) :
    t.saidSince s.journal.length = new := by
  simp [saidSince, h]

end Session

end DebugClient
