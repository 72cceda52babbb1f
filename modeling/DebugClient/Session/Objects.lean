import DebugClient.Session.State
/-!
# Objects — calls on values and their release

A handle keeps its object alive on the backend until it is released, and
is released once (`Handle.release`). Functions are called with a value as
their receiver; a value held on this side has no object to call them on,
and the outcome is then empty.
-/

namespace DebugClient

namespace Session

/-- Notes that a handle is released; tells whether it was not before. -/
def markReleased (key : Key) (s : Session) : Bool × Session :=
  (!s.released.contains key,
    if s.released.contains key then s else { s with released := key :: s.released })

end Session

/-- Releases a handle. Only the first time reaches the backend. -/
def Handle.release (h : Handle) : Work Unit := do
  if ← Flow.act (Session.markReleased h.key) then
    Work.send (.releaseObject h.objectId)

namespace Value

/-- Releases the handle of a value, if it has one. -/
def release (v : Value) : Work Unit :=
  match v.handle? with
  | some h => h.release
  | none => return ()

/-- Calls a function with the value as its receiver. -/
def call (v : Value) (declaration : String) (arguments : List Wire.CallArgument) :
    Work CallOutcome :=
  match v.handle? with
  | none => return {}
  | some h => do
    match ← Work.call (.callFunctionOn { declaration, objectId := h.objectId, arguments })
        Wire.Reply.evaluation with
    | .error _ => return {}
    | .ok r =>
      let object ← Work.mint (ofRemote r.result)
      return { object := some object, threw := r.exceptionDetails.isSome }

/-- The JSON result of a call that came back by value: none if it threw or
has no value. -/
def jsonResult? (r : Wire.EvaluateReply) : Option Json :=
  if r.exceptionDetails.isSome ∨ r.result.type = .undefined then none
  else some (r.result.value.getD .null)

/-- Calls a function with the value as its receiver, for JSON. -/
def callJson (v : Value) (declaration : String) (arguments : List Wire.CallArgument) :
    Work (Option Json) :=
  match v.handle? with
  | none => return none
  | some h => do
    match ← Work.call
        (.callFunctionOn { declaration, objectId := h.objectId, arguments, returnByValue := true })
        Wire.Reply.evaluation with
    | .error _ => return none
    | .ok r => return jsonResult? r

end Value

end DebugClient
