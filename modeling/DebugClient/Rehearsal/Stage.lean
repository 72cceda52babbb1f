import DebugClient.Hub.Evaluation
import DebugClient.Rehearsal.Peer
/-!
# Stages — sessions among surroundings that follow a script

A `Stage` is a hub with everything its sessions deal with: a `Peer` for
each backend, the answers of the policies, the timers that run, and a log
of what left the sessions. Whenever a session has written into its
journal, the surroundings take the journal and act on it at once
(`Stage.act`).
-/

namespace DebugClient

/-- What an expansion shows at one place. -/
inductive Shown where
  /-- The frame of an index. -/
  | frame (index : Nat)
  /-- A virtual frame on the frame of an index. -/
  | virtual (index inline : Nat) (name : String)

namespace Shown

/-- The frames that are shown in the place of some; indices without a
frame are left out. -/
def frames (given : List CallFrame) : List Shown → Fresh (List CallFrame)
  | [] => return []
  | .frame i :: rest => do
    match given[i]? with
    | some f => return f :: (← frames given rest)
    | none => frames given rest
  | .virtual i inline name :: rest => do
    match given[i]? with
    | some f => return (← f.virtual inline name) :: (← frames given rest)
    | none => frames given rest

end Shown

/-- What stands around the session of one target. -/
structure Surroundings where
  /-- The backend. -/
  peer : Peer := {}
  /-- Timers that run: the delay and the token of each, oldest first. -/
  timers : List (Nat × Nat) := []
  /-- Whether there are source maps to take orders. -/
  hasMaps : Bool := true
  /-- Whether the target was let go. -/
  isGone : Bool := false
  /-- What an expansion shows. -/
  expansion : List Shown := []
  /-- The ranges a step skips. -/
  ranges : StepMode → List (Location × Location) := fun _ => []
  /-- How an expression ends without the backend: in a text, or as the
  answer says. -/
  outcome : String → Option (Except String Wire.EvaluateReply) := fun _ => none

/-- A line of the log. -/
structure Entry where
  /-- Place of the session. -/
  seat : Nat
  /-- What left it. -/
  signal : Signal
  /-- The number of a request that was held back. -/
  held : Option Nat := none

/-- Sessions and what stands around them. -/
structure Stage where
  /-- The sessions. -/
  hub : Hub := {}
  /-- What stands around each. -/
  surroundings : List Surroundings := []
  /-- Requests that were held back, in order: the place of the session,
  and the ticket of the request. -/
  held : List (Nat × Ticket) := []
  /-- What left the sessions, newest first. -/
  log : List Entry := []

namespace Stage

/-- What stands around the session at a place. -/
def around (st : Stage) (seat : Nat) : Surroundings := (st.surroundings[seat]?).getD {}

/-- Changes what stands around the session at a place. -/
def adjust (st : Stage) (seat : Nat) (f : Surroundings → Surroundings) : Stage :=
  { st with surroundings := st.surroundings.modify seat f }

/-- The session at a place. -/
def session (st : Stage) (seat : Nat) : Session := (st.hub.session? seat).getD Hub.absent

/-- Puts a session in its place. -/
def put (st : Stage) (seat : Nat) (s : Session) : Stage := { st with hub := st.hub.put seat s }

/-- Changes the session at a place. -/
def change (st : Stage) (seat : Nat) (f : Session → Session) : Stage :=
  st.put seat (f (st.session seat))

/-- Writes a line of the log. -/
def note (st : Stage) (entry : Entry) : Stage := { st with log := entry :: st.log }

/-! ## What the surroundings do -/

/-- Takes a request: it is answered or held back. -/
def request (st : Stage) (seat : Nat) (ticket : Ticket) (command : Wire.Command) : Stage :=
  let (reply, peer) := (st.around seat).peer.serve seat command.method
  let st := st.adjust seat ({ · with peer })
  match reply with
  | some reply =>
    (st.note ⟨seat, .request ticket command, none⟩).change seat (·.answer ticket reply)
  | none =>
    let st := st.note ⟨seat, .request ticket command, some st.held.length⟩
    { st with held := st.held ++ [(seat, ticket)] }

/-- The answer of a policy, with the session it was made in. -/
def advise (around : Surroundings) (s : Session) : Inquiry → Advice × Session
  | .expand frames =>
    let (shown, s) := s.mint (Shown.frames frames around.expansion)
    (.frames shown, s)
  | .skipRanges mode _ => (.ranges (around.ranges mode), s)
  | .evaluate _ options =>
    match around.outcome options.expression with
    | none => (.outcome none, s)
    | some (.error text) => (.outcome (some (.failed text)), s)
    | some (.ok reply) =>
      let (object, s) := s.mint (Value.ofRemote reply.result)
      (.outcome (some (.ran object reply.exceptionDetails)), s)
  | .synchronize _ => (.synchronized, s)

/-- Acts on what left a session. -/
def perform (seat : Nat) (st : Stage) (signal : Signal) : Stage :=
  match signal with
  | .request ticket command => st.request seat ticket command
  | .inquiry ticket question =>
    let (advice, s) := advise (st.around seat) (st.session seat) question
    (st.note ⟨seat, signal, none⟩).put seat (s.advise ticket advice)
  | .maps _ => if (st.around seat).hasMaps then st.note ⟨seat, signal, none⟩ else st
  | .timer delay token =>
    st.adjust seat fun a => { a with timers := a.timers ++ [(delay, token)] }
  | _ => st.note ⟨seat, signal, none⟩

/-- Takes the journal of a session and acts on it. -/
def drain (st : Stage) (seat : Nat) : Stage :=
  let s := st.session seat
  s.journal.reverse.foldl (perform seat) (st.put seat { s with journal := [] })

/-- Acts on what the sessions have written into their journals. -/
def act (st : Stage) : Stage :=
  (List.range st.surroundings.length).foldl
    (fun st seat =>
      if (st.hub.sessions[seat]?).any (!·.journal.isEmpty) then st.drain seat else st) st

/-! ## What is done to the sessions -/

/-- Adds a session. -/
def connect (st : Stage) (target : Target) (settings : Settings) (hasMaps : Bool) : Stage :=
  let joined : Stage :=
    { st with
      hub := st.hub.connect target settings
      surroundings := st.surroundings ++ [{ hasMaps }] }
  joined.drain st.surroundings.length

/-- Answers the request that was held back under a number. -/
def reply? (st : Stage) (number : Nat) (reply : Reply) : Option Stage :=
  (st.held[number]?).map fun (seat, ticket) => st.change seat (·.answer ticket reply)

/-- Work of the sessions. -/
def onHub {α : Type} (work : Flow Hub α) : Flow Stage α :=
  work.within (·.hub) fun hub st => { st with hub }

/-- Work of the session at a place. -/
def within {α : Type} (seat : Nat) (work : Work α) : Flow Stage α := onHub (Hub.within seat work)

/-- Lets every timer of a session run out, one after another. -/
def fireAll (seat : Nat) : Flow Stage Nat := do
  let timers ← Flow.look fun st => (st.around seat).timers
  Flow.modify (·.adjust seat ({ · with timers := [] }))
  Flow.forEach (fun timer => within seat (Session.timerExpired timer.2)) timers
  return timers.length

/-- Lets one timer of a session run out; there is none if no timer has
that index. -/
def fire? (seat index : Nat) : Flow Stage (Option Nat) := do
  let timers ← Flow.look fun st => (st.around seat).timers
  match timers[index]? with
  | none => return none
  | some timer =>
    Flow.modify (·.adjust seat ({ · with timers := timers.eraseIdx index }))
    within seat (Session.timerExpired timer.2)
    return some 1

/-- Lets a target go, unless it was before. -/
def release (st : Stage) (seat : Nat) : Stage :=
  if (st.around seat).isGone then st
  else { st with hub := st.hub.letGo seat }.adjust seat ({ · with isGone := true })

end Stage

/-! ## Logs -/

namespace Entry

/-- The script whose map the line drops. -/
def detached? (e : Entry) : Option Script :=
  match e.signal with
  | .maps (.detach script) => some script
  | _ => none

/-- Whether the line registers a script. -/
def isParsed (e : Entry) : Bool :=
  match e.signal with
  | .debugger (.scriptParsed _) => true
  | _ => false

/-- Puts a line that drops the map of a script into the run of such lines
a log begins with, by the identifier of the script. -/
def putDetached (e : Entry) (id : String) : List Entry → List Entry
  | [] => [e]
  | other :: rest =>
    match other.detached? with
    | some script =>
      if script.scriptId < id then other :: putDetached e id rest else e :: other :: rest
    | none => e :: other :: rest

/-- The log with every run of lines that drop maps in the order of the
scripts: maps that go together go in no particular order. -/
def arrange : List Entry → List Entry
  | [] => []
  | e :: rest =>
    match e.detached? with
    | some script => putDetached e script.scriptId (arrange rest)
    | none => e :: arrange rest

/-- The log with the lines of each session together. -/
def gather (log : List Entry) : List Entry := log.mergeSort fun a b => decide (a.seat ≤ b.seat)

end Entry

end DebugClient
