import DebugClient.Misuse
import DebugClient.Session.Contexts
import DebugClient.Session.Objects
/-!
# Evaluation — in contexts and in frames

An evaluation that must be ended at its first side effect or after a
time goes only to a backend that can do so. Whether it can is found out
by a probe: a harmless expression that only such a backend refuses. The
answer is kept; as long as there is none, an evaluation that needs it
probes first.
-/

namespace DebugClient

namespace Session

/-! ## Side effects -/

/-- The expression of the probe: it waits, which counts as a side effect. -/
def probe : String := "(async function()\x7b await 1; \x7d)()"

/-- Keeps whether the backend can end evaluations at a side effect. -/
def keepSupport (supported : Bool) (s : Session) : Session :=
  { s with sideEffectSupport := some supported }

/-- Whether a probe was ended as it should be. -/
def probeSupports : Except LinkError Wire.EvaluateReply → Bool
  | .ok r => r.endedBySideEffect
  | .error _ => false

/-- Finds out whether the backend can end evaluations at a side effect.
Without a context it cannot be found out, and the answer is not kept. -/
def checkSideEffects : Work Bool := do
  let s ← Flow.read
  match s.sideEffectSupport, s.contexts.getLast? with
  | some supported, _ => return supported
  | none, none => return false
  | none, some context =>
    let reply ← Work.call
      (.evaluate { expression := probe, contextId := some context.id, throwOnSideEffect := true })
      Wire.Reply.evaluation
    Flow.modify (keepSupport (probeSupports reply))
    return probeSupports reply

/-- Whether an evaluation may be sent to the backend. -/
def allows (options : EvaluationOptions) : Work Bool :=
  if options.endsEarly then checkSideEffects else return true

/-- What is said of an evaluation the backend could not end. -/
def unsupported : String := "Side-effect checks not supported by backend."

/-- The outcome of an evaluation the backend has answered. -/
def outcome : Except LinkError Wire.EvaluateReply → Work Outcome
  | .error e => return .failed e.message
  | .ok r => do return .ran (← Work.mint (Value.ofRemote r.result)) r.exceptionDetails

end Session

/-! ## Frames -/

namespace CallFrame

/-- The request that evaluates in a frame. -/
def evaluation (f : CallFrame) (o : EvaluationOptions) : Wire.EvaluateOnFrame where
  callFrameId := f.id
  expression := o.expression
  objectGroup := o.objectGroup
  includeCommandLineApi := o.includeCommandLineApi
  silent := o.silent
  returnByValue := o.returnByValue
  generatePreview := o.generatePreview
  throwOnSideEffect := o.throwOnSideEffect
  timeout := o.timeout

/-- The outcome of an evaluation in a frame as a policy has it, if there is
such a policy and it has one. -/
def override (f : CallFrame) (options : EvaluationOptions) : Work (Option Outcome) := do
  if ← Flow.look (fun s => s.live && s.policies.evaluates) then
    match ← Work.consult (.evaluate f options) with
    | some (.outcome outcome) => return outcome
    | _ => return none
  else return none

/-- Evaluates in a frame. -/
def evaluate (f : CallFrame) (options : EvaluationOptions) : Work Outcome := do
  if ← Session.allows options then
    match ← f.override options with
    | some outcome => return outcome
    | none =>
      Session.outcome
        (← Work.call (.evaluateOnCallFrame (f.evaluation options)) Wire.Reply.evaluation)
  else return .failed Session.unsupported

end CallFrame

namespace Session

/-- The value a frame is about to return. -/
def returnValue (s : Session) (f : CallFrame) : Option Value :=
  (s.returnValues.lookup f.key).or f.returned

/-- Replaces the value a frame is about to return. -/
def putReturnValue (f : CallFrame) (v : Value) (s : Session) : Session :=
  { s with returnValues := (f.key, v) :: s.returnValues.filter (·.1 != f.key) }

end Session

namespace CallFrame

/-- The request that evaluates what a frame is to return. -/
def returning (f : CallFrame) (expression : String) : Wire.EvaluateOnFrame where
  callFrameId := f.id
  expression := expression
  objectGroup := some "backtrace"
  silent := true

/-- Evaluates an expression in a frame that is about to return, and makes it
return the result. Gives the new value if both went well. -/
def setReturnValue (f : CallFrame) (expression : String) : Work (Option Value) := do
  if (← Flow.look (·.returnValue f)).isNone then return none
  else
    match ← Work.call (.evaluateOnCallFrame (f.returning expression)) Wire.Reply.evaluation with
    | .error _ => return none
    | .ok r =>
      if r.exceptionDetails.isSome then return none
      else
        match ← Work.command (.setReturnValue (Primitive.argumentOfRemote r.result)) with
        | .error _ => return none
        | .ok _ =>
          let value ← Work.mint (Value.ofRemote r.result)
          Flow.modify (Session.putReturnValue f value)
          return some value

/-- Starts a frame again and stops in it. -/
def restart (f : CallFrame) : Work (Except Misuse Unit) := do
  if f.canBeRestarted then
    Work.send (.restartFrame f.id)
    return .ok ()
  else return .error .frameNotRestartable

end CallFrame

namespace Session

/-! ## Contexts -/

/-- The request that evaluates in a context. The unique identifier goes
before the other. -/
def evaluation (c : ExecutionContext) (o : EvaluationOptions) (userGesture awaitPromise : Bool) :
    Wire.Evaluate where
  expression := if o.expression = "" then "this" else o.expression
  objectGroup := o.objectGroup
  includeCommandLineApi := o.includeCommandLineApi
  silent := o.silent
  contextId := if c.uniqueId.isNone then some c.id else none
  uniqueContextId := c.uniqueId
  returnByValue := o.returnByValue
  generatePreview := o.generatePreview
  userGesture := userGesture
  awaitPromise := awaitPromise
  throwOnSideEffect := o.throwOnSideEffect
  timeout := o.timeout
  disableBreaks := o.disableBreaks
  replMode := o.replMode
  allowUnsafeEvalBlockedByCsp := o.allowUnsafeEvalBlockedByCsp

/-- Evaluates in a context. -/
def evaluateIn (c : ExecutionContext) (options : EvaluationOptions)
    (userGesture awaitPromise : Bool) : Work Outcome := do
  if ← allows options then
    outcome
      (← Work.call (.evaluate (evaluation c options userGesture awaitPromise))
        Wire.Reply.evaluation)
  else return .failed unsupported

/-- Calls a function on an object. -/
def callOn (object : ObjectId) (declaration : String) (arguments : List Wire.CallArgument)
    (returnByValue : Bool) : Work Outcome := do
  outcome
    (← Work.call (.callFunctionOn { declaration, objectId := object, arguments, returnByValue })
      Wire.Reply.evaluation)

/-- Runs a compiled script. -/
def runScript (run : Wire.ScriptRun) : Work Outcome := do
  outcome (← Work.call (.runScript run) Wire.Reply.evaluation)

/-- Collects the objects a value is a prototype of. -/
def queryObjects (prototype : Value) : Work Outcome :=
  match prototype.objectId with
  | none => return .failed "Prototype should be an Object."
  | some id => do
    match ← Work.call (.queryObjects id "console") Wire.Reply.objects with
    | .error e => return .failed e.message
    | .ok objects => return .ran (← Work.mint (Value.ofRemote objects)) none

/-- The thrown object of an outcome, if it is to be released. -/
def thrownObject? (details : Option Wire.ExceptionDetails) : Option Wire.RemoteObject :=
  (details.bind (·.exception)).filter (·.objectId.isSome)

/-- Releases what an evaluation has thrown, if it has. -/
def releaseThrown (details : Option Wire.ExceptionDetails) : Work Unit := do
  match thrownObject? details with
  | some thrown => (← Work.mint (Value.ofRemote thrown)).release
  | none => return ()

/-- Compiles an expression without running it. -/
def compile (expression sourceUrl : String) (persist : Bool) (context : ContextId) :
    Work (Option Wire.Reply.Compilation) := do
  return (← Work.call (.compileScript expression sourceUrl persist context)
    Wire.Reply.compilation).toOption

/-- The names declared in the global scope. -/
def globalNames (context : Option ContextId) : Work (Option (List String)) := do
  return (← Work.call (.globalLexicalScopeNames context) Wire.Reply.names).toOption

/-- What is known of an error object. -/
def exceptionDetails (error : ObjectId) : Work (Option Wire.ExceptionDetails) := do
  return (← Work.call (.getExceptionDetails error) Wire.Reply.exceptionDetails).toOption.join

end Session

end DebugClient
