import DebugClient.Proofs.Session.Scopes
import Mathlib.Data.List.Find
/-!
# Variables — the values a backend holds

A backend that applies requests in the order they are sent gives every
variable of a scope a value as of each request (`Backend.valueAsOf`): that of
the last write before it that was accepted. Later requests do not change it.
-/

namespace DebugClient

/-- What a listing has: names, and values if there are any. -/
def Wire.Reply.Properties.entries (r : Wire.Reply.Properties) :
    List (String × Option Wire.RemoteObject) :=
  r.result.map (fun p => (p.name, p.value)) ++ (r.privates.getD []).map fun p => (p.name, p.value)

/-- The listing that an answer is, unless listing threw. -/
def listed? : Reply → Option Wire.Reply.Properties
  | .ok j => (Wire.Reply.properties j).filter (·.exceptionDetails.isNone)
  | .error _ => none

/-- A backend that holds the variables of a scope. -/
structure Backend (V : Type) where
  /-- What it answers to the request of a ticket. -/
  answers : Ticket → Reply
  /-- The value an argument stands for. -/
  denotes : Wire.CallArgument → V
  /-- The values of the variables at first. -/
  original : String → V

namespace Backend

variable {V : Type} (b : Backend V)

/-- The value of a variable once writes were made, newest first. -/
def valueAfter (writes : List (Ticket × String × Wire.CallArgument)) (name : String) : V :=
  (writes.find? (·.2.1 = name)).elim (b.original name) fun w => b.denotes w.2.2

/-- The value of a variable as of the request of a ticket. -/
def valueAsOf (said : List Signal) (ticket : Ticket) (name : String) : V :=
  b.valueAfter ((acceptedIn b.answers said).filter (·.1 ≤ ticket)) name

/-- The value of a variable after all requests. -/
def valueNow (said : List Signal) (name : String) : V :=
  b.valueAfter (acceptedIn b.answers said) name

/-- **Requests are applied in the order they are sent**: a listing has the
values as of its request. -/
def AppliesInOrder (said : List Signal) : Prop :=
  ∀ ticket question r name o, .request ticket (.getProperties question) ∈ said →
    listed? (b.answers ticket) = some r → (name, some o) ∈ r.entries →
    b.denotes (Primitive.argumentOfRemote o) = b.valueAsOf said ticket name

/-- Whether a value shows what the backend holds: it is made of an object
that stands for that. -/
def Shows (v : Value) (x : V) : Prop :=
  ∃ o key, v = (Value.ofRemote o key).1 ∧ b.denotes (Primitive.argumentOfRemote o) = x

variable {b}

/-- A write is a request. -/
theorem request_of_accepted {answers : Ticket → Reply} {said : List Signal}
    {w : Ticket × String × Wire.CallArgument} (accepted : w ∈ acceptedIn answers said) :
    ∃ scope frame, (w.1, .setVariableValue scope w.2.1 w.2.2 frame) ∈ requestsOf said := by
  obtain ⟨signal, there, is⟩ := List.mem_filterMap.1 (List.mem_of_mem_filter accepted)
  cases signal with
  | request ticket command =>
    cases command <;> cases is
    exact ⟨_, _, mem_requestsOf.2 there⟩
  | _ => cases is

/-- **Later requests do not change** what a variable was. -/
theorem valueAsOf_append {new said : List Signal} {ticket : Ticket} (name : String)
    (later : ∀ r ∈ requestsOf new, ticket < r.1) :
    b.valueAsOf (new ++ said) ticket name = b.valueAsOf said ticket name := by
  -- A write has the ticket of its request, so no later one is left.
  have none : (acceptedIn b.answers new).filter (·.1 ≤ ticket) = [] := by
    refine List.filter_eq_nil_iff.2 fun w hw => ?_
    obtain ⟨_, _, request⟩ := request_of_accepted hw
    simpa using later _ request
  rw [valueAsOf, acceptedIn_append, List.filter_append, none]
  rfl

theorem AppliesInOrder.of_append {new said : List Signal}
    (later : ∀ r ∈ requestsOf new, ∀ q ∈ requestsOf said, q.1 < r.1)
    (h : b.AppliesInOrder (new ++ said)) : b.AppliesInOrder said := by
  intro ticket question r name o there listed entry
  rw [h ticket question r name o (List.mem_append_right _ there) listed entry]
  exact valueAsOf_append name fun r hr => later r hr _ (mem_requestsOf.2 there)

/-- If every write of a variable was sent before a request, it is as of that
request what it is now. -/
theorem valueAsOf_eq_valueNow {said : List Signal} {ticket : Ticket} {name : String}
    (last : ∀ w ∈ acceptedIn b.answers said, w.2.1 = name → w.1 ≤ ticket) :
    b.valueAsOf said ticket name = b.valueNow said name := by
  have same : ((acceptedIn b.answers said).filter (·.1 ≤ ticket)).find? (·.2.1 = name) =
      (acceptedIn b.answers said).find? (·.2.1 = name) := by
    rw [List.find?_filter]
    refine List.find?_congr fun w hw => ?_
    by_cases named : w.2.1 = name
    · simp [named, last w hw named]
    · simp [named]
  rw [valueAsOf, valueNow, valueAfter, valueAfter, same]

/-- As of its own request, a write that was accepted is what a variable is. -/
theorem valueAsOf_write {said : List Signal} {ticket : Ticket} {scope : Nat} {name : String}
    {value : Wire.CallArgument} {frame : CallFrameId}
    (apart : (requestsOf said).Pairwise fun r q => q.1 < r.1)
    (there : (ticket, .setVariableValue scope name value frame) ∈ requestsOf said)
    (accepted : accepts (b.answers ticket) = true) :
    b.valueAsOf said ticket name = b.denotes value := by
  obtain ⟨new, old, rfl⟩ := List.append_of_mem (mem_requestsOf.1 there)
  rw [requestsOf_append] at apart
  have later := (List.pairwise_append.1 apart).2.2
  -- The requests after the write do not matter, and then the write is the newest.
  rw [valueAsOf_append name fun r hr => later r hr (ticket, _) (.head _), valueAsOf,
    acceptedIn_write, if_pos accepted, List.filter_cons_of_pos (by simp), valueAfter,
    List.find?_cons_of_pos (by simp)]
  rfl

end Backend

end DebugClient
