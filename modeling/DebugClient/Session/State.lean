import DebugClient.Flow
import DebugClient.Listener.Router
import DebugClient.Registry
import DebugClient.Script.Catalog
import DebugClient.Session.Signal
import DebugClient.Settings
/-!
# Sessions — the state of the debugger of one target

A `Session` is what the client knows of one target and its debugger. What
it does outside of itself it writes into its `journal`, newest first;
answers come in under the tickets of the requests. Work that needs no
answer is a function on sessions, and work that does is a `Flow`.

The registry is shared by the sessions of a process; the session holds
the one there is while it works.

A session exists as long as someone holds it (`Session.live`). Its target
does until it is let go, and so does work that is done on the debugger
itself, until it ends (`Session.holding`). Values and frames only know
their session.
-/

namespace DebugClient

/-- Whether the debugger agent is enabled. -/
inductive Enablement where
  /-- It is not. -/
  | disabled
  /-- It has been asked to be. -/
  | enabling
  /-- It is. -/
  | enabled
  deriving DecidableEq

/-- Whether the source of a script is there. -/
inductive SourceState where
  /-- It has been asked for. -/
  | fetching
  /-- It is: the text, and the bytecode if there is one. -/
  | loaded (text : String) (bytecode : Option String)

/-- A run to a location that tells when it has arrived. -/
structure Destination where
  /-- Where the run ends. -/
  location : Location
  /-- Who is told. -/
  listener : String

/-- The policies the user has installed. -/
structure Policies where
  /-- Whether a pause is shown: the verdict on the one that is shown to
  the policy for the n-th time. -/
  beforePaused : Option (Nat → PauseDetails → Bool) := none
  /-- How often that policy has been asked. -/
  judged : Nat := 0
  /-- Frames are shown as a policy says. -/
  expandsFrames : Bool := false
  /-- Steps skip the ranges a policy says. -/
  skipsRanges : Bool := false
  /-- A policy may answer evaluations in frames. -/
  evaluates : Bool := false
  /-- A policy sets the breakpoints of a script before it runs. -/
  synchronizes : Bool := false

/-- What the client knows of one target. -/
structure Session where
  /-- Place of the session among those that share the registry. -/
  seat : Nat
  /-- The target. -/
  target : Target
  /-- Settings. -/
  settings : Settings
  /-- How many hold the session: its target, and work under way. -/
  holders : Nat := 1
  /-- The next free key. -/
  nextKey : Key := ⟨seat, 0⟩
  /-- The next free ticket. -/
  nextTicket : Ticket := 0
  /-- What has left the session, newest first. -/
  journal : List Signal := []
  /-- Answers of the backend that have not been taken. -/
  replies : List (Ticket × Reply) := []
  /-- Answers of policies that have not been taken. -/
  advice : List (Ticket × Advice) := []
  /-- Sessions by identity. -/
  registry : Registry := {}
  /-- Whether the debugger agent is enabled. -/
  enablement : Enablement := .disabled
  /-- Identity of the agent. -/
  debuggerId : Option DebuggerId := none
  /-- Scripts. -/
  catalog : Catalog := {}
  /-- Source map URLs that replace the reported ones. -/
  mapUrls : List (Key × Option String) := []
  /-- Sources of scripts. -/
  sources : List (Key × SourceState) := []
  /-- Whether a pause was asked for and has not been reported. -/
  isPausing : Bool := false
  /-- The current pause. -/
  pause : Option PauseDetails := none
  /-- The frame evaluations run in. -/
  selected : Option CallFrame := none
  /-- Whether a vetoed pause steps over. -/
  autoStepOver : Bool := false
  /-- The timer that ends skipping every pause. -/
  skipTimer : Option Nat := none
  /-- How many such timers were set. -/
  timersSet : Nat := 0
  /-- The run to a location that is under way. -/
  destination : Option Destination := none
  /-- Policies. -/
  policies : Policies := {}
  /-- Listeners to the locations of breakpoints. -/
  breakpointListeners : Router String := {}
  /-- Contexts, in the order they were created. -/
  contexts : List ExecutionContext := []
  /-- The order contexts are shown in. -/
  contextOrder : ExecutionContext → ExecutionContext → Ordering := ExecutionContext.order
  /-- Whether the backend can end evaluations at a side effect, once it is
  known. -/
  sideEffectSupport : Option Bool := none
  /-- Values that frames are about to return, where they were replaced. -/
  returnValues : List (Key × Value) := []
  /-- Handles that have been released. -/
  released : List Key := []
  /-- What scopes have listed. -/
  scopeListings : List (Key × List Property) := []

/-- Work of a session. -/
abbrev Work := Flow Session

namespace Session

/-! ## Out of the session -/

/-- Writes a signal into the journal. -/
def emit (s : Session) (signal : Signal) : Session := { s with journal := signal :: s.journal }

/-- Reports an event of the debugger. -/
def report (s : Session) (event : DebuggerEvent) : Session := s.emit (.debugger event)

/-- Reports an event of the runtime. -/
def tell (s : Session) (event : RuntimeEvent) : Session := s.emit (.runtime event)

/-- Gives an order to the source maps. -/
def order (s : Session) (order : MapOrder) : Session := s.emit (.maps order)

/-- Sends a request; the ticket names its answer. -/
def issue (command : Wire.Command) (s : Session) : Ticket × Session :=
  (s.nextTicket,
    { s with nextTicket := s.nextTicket + 1, journal := .request s.nextTicket command :: s.journal })

/-- Asks a policy; the ticket names its answer. -/
def inquire (question : Inquiry) (s : Session) : Ticket × Session :=
  (s.nextTicket,
    { s with nextTicket := s.nextTicket + 1, journal := .inquiry s.nextTicket question :: s.journal })

/-! ## Into the session -/

/-- Brings in the answer to a request. -/
def answer (s : Session) (ticket : Ticket) (reply : Reply) : Session :=
  { s with replies := (ticket, reply) :: s.replies }

/-- Brings in the answer of a policy. -/
def advise (s : Session) (ticket : Ticket) (advice : Advice) : Session :=
  { s with advice := (ticket, advice) :: s.advice }

/-- Whether a request has its answer. -/
def isAnswered (ticket : Ticket) (s : Session) : Bool := s.replies.any (·.1 == ticket)

/-- Whether a question has its answer. -/
def isAdvised (ticket : Ticket) (s : Session) : Bool := s.advice.any (·.1 == ticket)

/-- Takes the answer to a request. -/
def takeReply (ticket : Ticket) (s : Session) : Reply × Session :=
  ((s.replies.lookup ticket).getD (.error .closed),
    { s with replies := s.replies.filter (·.1 != ticket) })

/-- Takes the answer of a policy. -/
def takeAdvice (ticket : Ticket) (s : Session) : Option Advice × Session :=
  (s.advice.lookup ticket, { s with advice := s.advice.filter (·.1 != ticket) })

/-! ## Holders -/

/-- Whether the session still exists. -/
def live (s : Session) : Bool := decide (0 < s.holders)

/-- One more holds the session. -/
def acquire (s : Session) : Session := { s with holders := s.holders + 1 }

/-- One less holds the session. -/
def letGo (s : Session) : Session := { s with holders := s.holders - 1 }

/-- Holds the session as long as the work lasts. -/
def holding {α : Type} (work : Work α) : Work α := work.between acquire letGo

/-! ## Keys -/

/-- Makes what holds keys. -/
def mint {α : Type} (making : Fresh α) (s : Session) : α × Session :=
  let (a, next) := making s.nextKey
  (a, { s with nextKey := next })

end Session

namespace Work

variable {α : Type}

/-- Makes what holds keys. -/
def mint (making : Fresh α) : Work α := Flow.act (Session.mint making)

/-- Sends a request. -/
def issue (command : Wire.Command) : Work Ticket := Flow.act (Session.issue command)

/-- Reads the answer to a command, if it has the right shape. -/
def decode (command : Wire.Command) (read : Json → Option α) : Reply → Except LinkError α
  | .error e => .error e
  | .ok j =>
    match read j with
    | some a => .ok a
    | none => .error (.malformed command.method "*")

/-- Waits for the answer to a command that was sent. -/
def reply (ticket : Ticket) (command : Wire.Command) (read : Json → Option α) :
    Work (Except LinkError α) := do
  Flow.await (Session.isAnswered ticket)
  return decode command read (← Flow.act (Session.takeReply ticket))

/-- Sends a command and waits for the answer. -/
def call (command : Wire.Command) (read : Json → Option α) : Work (Except LinkError α) := do
  let ticket ← issue command
  reply ticket command read

/-- Sends a command that is only acknowledged. -/
def command (command : Wire.Command) : Work (Except LinkError Unit) :=
  call command Wire.Reply.acknowledged

/-- Waits for an answer that changes nothing. -/
def settle (ticket : Ticket) : Work Unit := do
  Flow.await (Session.isAnswered ticket)
  let _ ← Flow.act (Session.takeReply ticket)

/-- Sends a command whose answer changes nothing, and waits for it. -/
def send (command : Wire.Command) : Work Unit := do
  settle (← issue command)

/-- Asks a policy and waits for its answer. -/
def consult (question : Inquiry) : Work (Option Advice) := do
  let ticket ← Flow.act (Session.inquire question)
  Flow.await (Session.isAdvised ticket)
  Flow.act (Session.takeAdvice ticket)

end Work

end DebugClient
