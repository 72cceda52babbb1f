import DebugClient.Session.State
/-!
# Stepping — pausing, resuming and skipping pauses

Steps carry the ranges they must not stop inside, as a policy says them
for the top frame, sorted and merged.

Every pause can be skipped for a while. A timer ends that, unless pauses
are no longer skipped by then or another timer was set meanwhile: each
timer has a token, and only the token of the last one counts
(`Session.timerExpired`).
-/

namespace DebugClient

namespace Session

/-- The ranges a step must not stop inside. -/
def skipList (mode : StepMode) : Work (List Range) := do
  let s ← Flow.read
  match s.policies.skipsRanges, s.pause.bind (·.frames.head?) with
  | true, some top =>
    match ← Work.consult (.skipRanges mode top) with
    | some (.ranges ranges) => return Range.merge (ranges.map fun r => .between r.1 r.2)
    | _ => return []
  | _, _ => return []

/-- Steps into the next call. -/
def stepInto : Work Unit := do
  Work.send (.stepInto false (← skipList .into))

/-- Steps into the next asynchronous call. -/
def stepIntoAsync : Work Unit := do
  Work.send (.stepInto true (← skipList .into))

/-- Notes that a vetoed pause steps over. -/
def setAutoStepOver (s : Session) : Session := { s with autoStepOver := true }

/-- Steps over the next statement. A vetoed pause after it steps over
again. -/
def stepOver : Work Unit := do
  Flow.modify setAutoStepOver
  Work.send (.stepOver (← skipList .over))

/-- Steps out of the function, or over the skipped ranges if there are
any. -/
def stepOut : Work Unit := do
  let ranges ← skipList .out
  Work.send (if ranges.isEmpty then .stepOut else .stepOver ranges)

/-- Sets whether a pause was asked for. -/
def setPausing (pausing : Bool) (s : Session) : Session := { s with isPausing := pausing }

/-- Cancels the timer that ends skipping pauses. -/
def cancelTimer (s : Session) : Session := { s with skipTimer := none }

/-- Skips every pause from now on, or none. -/
def skipAllPauses (skip : Bool) : Work Unit := do
  Flow.modify cancelTimer
  Work.send (.setSkipAllPauses skip)

/-- Asks the target to pause. Pauses are no longer skipped. -/
def pauseTarget : Work Unit := do
  Flow.modify (setPausing true)
  skipAllPauses false
  Work.send .pause

/-- Lets the target go on. -/
def resume : Work Unit := do
  let ticket ← Work.issue .resume
  Flow.modify (setPausing false)
  Work.settle ticket

/-- Takes the next token for the timer that ends skipping pauses. -/
def armTimer (s : Session) : Nat × Session :=
  (s.timersSet + 1,
    { s with timersSet := s.timersSet + 1, skipTimer := some (s.timersSet + 1) })

/-- Skips every pause until a navigation, or for so many milliseconds. -/
def skipAllPausesFor (delay : Nat) : Work Unit := do
  let token ← Flow.act armTimer
  let ticket ← Work.issue (.setSkipAllPauses true)
  Flow.modify (·.emit (.timer delay token))
  Work.settle ticket

/-- Whether a timer still counts. -/
def timerCounts (token : Nat) (s : Session) : Bool := s.live && s.skipTimer == some token

/-- A timer has run out. It holds the session while pauses are unskipped. -/
def timerExpired (token : Nat) : Work Unit := do
  if ← Flow.look (timerCounts token) then holding (skipAllPauses false)

/-- Sets where the run under way ends. -/
def setDestination (destination : Destination) (s : Session) : Session :=
  { s with destination := some destination }

/-- Runs to a location within the current frames. The listener, if there is
one, is told in the place of the next pause, if that is exactly there. -/
def continueTo (location : Location) (listener : Option String) : Work Unit := do
  match listener with
  | some listener => Flow.modify (setDestination ⟨location, listener⟩)
  | none => pure ()
  Work.send (.continueToLocation location.toWire)

/-- The target has navigated: identities may have changed, and pauses are
no longer skipped for a time. -/
def navigated : Work Unit := do
  Flow.modify fun s => { s with registry := s.registry.markStale }
  if ← Flow.look (·.skipTimer.isSome) then skipAllPauses false

end Session

end DebugClient
