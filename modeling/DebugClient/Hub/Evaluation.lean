import DebugClient.Hub
import DebugClient.Session.Assignment
import DebugClient.Session.Evaluation
import DebugClient.Session.Views
/-!
# Evaluation across sessions

A value or a frame belongs to the session that made it, which its key
names, and what is done with it runs there, whoever asks for it. So an
evaluation in a frame runs in the session of the frame, even if another
session has selected it; that other session is held meanwhile.

While a frame is selected, evaluations in a context of the session run in
that frame.
-/

namespace DebugClient
namespace Hub

/-- Work on a value, in its own session. A value without an object needs
none, and the work is then done at the place of who asks for it. -/
def onValue {α : Type} (seat : Nat) (v : Value) (work : Value → Work α) : Flow Hub α :=
  within (v.seat?.getD seat) (work v)

/-- Work on a frame, in its own session. -/
def onFrame {α : Type} (f : CallFrame) (work : CallFrame → Work α) : Flow Hub α :=
  within f.seat (work f)

/-- The frame that is selected in the session at a place, if the session
exists. -/
def selected? (seat : Nat) (h : Hub) : Option CallFrame :=
  ((h.session? seat).filter (·.live)).bind (·.selected)

/-- Evaluates in the frame that is selected in a session. -/
def evaluateSelected (seat : Nat) (options : EvaluationOptions) :
    Flow Hub (Except Misuse Outcome) := do
  match ← Flow.look (selected? seat) with
  | none => return .error .noFrameSelected
  | some frame => return .ok (← holding seat (onFrame frame (·.evaluate options)))

/-- Evaluates in a context of a session, or in the selected frame if there
is one. -/
def evaluateIn (seat : Nat) (c : ExecutionContext) (options : EvaluationOptions)
    (userGesture awaitPromise : Bool) : Flow Hub Outcome := do
  match ← Flow.look (selected? seat) with
  | none => within seat (Session.evaluateIn c options userGesture awaitPromise)
  | some frame => holding seat (onFrame frame (·.evaluate options))

/-- Releases what came of an evaluation: the object in its own session, and
then what was thrown. -/
def releaseOutcome (seat : Nat) : Outcome → Flow Hub Unit
  | .failed _ => return ()
  | .ran object details => do
    onValue seat object (·.release)
    within seat (Session.releaseThrown details)

/-- Where a function is defined, as a session has it asked, which is held
meanwhile. -/
def functionDetails (seat : Nat) (v : Value) : Flow Hub (Option FunctionDetails) :=
  holding seat (onValue seat v (·.functionDetails))

end Hub
end DebugClient
