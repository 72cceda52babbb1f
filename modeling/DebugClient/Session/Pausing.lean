import DebugClient.Session.State
/-!
# The current pause

A session holds at most one pause, and selects a frame of it. A pause is
taken in by `Session.present`: a policy may veto it, and then it is held
but neither reported nor selected from, and whoever presented it steps
on.
-/

namespace DebugClient

namespace Session

/-- Whether execution is paused. -/
def isPaused (s : Session) : Bool := s.pause.isSome

/-- What the target is doing. -/
inductive Execution where
  /-- It runs. -/
  | running
  /-- A pause was asked for and has not been reported. -/
  | pausing
  /-- It is paused. -/
  | paused
  deriving DecidableEq

/-- What the target is doing, as far as the session knows. -/
def execution (s : Session) : Execution :=
  if s.isPaused then .paused else if s.isPausing then .pausing else .running

/-- Selects a frame, or none. Selecting what is selected does nothing. -/
def select (s : Session) (frame : Option CallFrame) : Session :=
  if s.selected.map (·.key) = frame.map (·.key) then s
  else { s with selected := frame }.report (.frameSelected frame)

/-- Forgets the pause. -/
def clearPause (s : Session) : Session :=
  { s with isPausing := false, pause := none }.select none

/-- Holds a pause, shown or not. -/
def hold (s : Session) (d : PauseDetails) : Session :=
  { s with isPausing := false, pause := some d }

/-- Shows a pause. Its first frame is selected. -/
def display (s : Session) (d : PauseDetails) : Session :=
  ({ s with autoStepOver := false }.report (.paused d)).select d.frames.head?

/-- The verdict of the policy on a pause; without one it is shown. -/
def verdict (s : Session) (d : PauseDetails) : Bool :=
  match s.policies.beforePaused with
  | none => true
  | some policy => policy s.policies.judged d

/-- Counts that the policy was asked. -/
def countVerdict (s : Session) : Session :=
  { s with policies := { s.policies with judged := s.policies.judged + 1 } }

/-- Notes the verdict of the policy, if there is one. -/
def noteVerdict (s : Session) (d : PauseDetails) : Session :=
  if s.policies.beforePaused.isSome then s.countVerdict.emit (.judged d (s.verdict d)) else s

/-- Takes in a pause; tells whether it is shown. -/
def present (d : PauseDetails) (s : Session) : Bool × Session :=
  let held := s.hold d
  (held.verdict d,
    if held.verdict d then (held.noteVerdict d).display d else held.noteVerdict d)

/-- Takes in that execution goes on. -/
def resumed (s : Session) : Session := s.clearPause.report .resumed

/-- What was thrown, if the pause is for an exception. -/
def thrown (d : PauseDetails) : Work (Option Value) := Work.mint (Value.ofRemote? d.thrown?)

@[simp] theorem select_pause (s : Session) (f : Option CallFrame) : (s.select f).pause = s.pause := by
  unfold select
  split <;> rfl

@[simp] theorem clearPause_pause (s : Session) : s.clearPause.pause = none := by
  simp [clearPause]

@[simp] theorem display_pause (s : Session) (d : PauseDetails) :
    (s.display d).pause = s.pause := by
  simp [display, report, emit]

@[simp] theorem noteVerdict_pause (s : Session) (d : PauseDetails) :
    (s.noteVerdict d).pause = s.pause := by
  unfold noteVerdict
  split <;> rfl

/-- A pause that was taken in is held, shown or not. -/
theorem present_pause (d : PauseDetails) (s : Session) : (s.present d).2.pause = some d := by
  simp only [present]
  split <;> simp [hold]

end Session

end DebugClient
