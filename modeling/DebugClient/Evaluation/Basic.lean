import DebugClient.Value.Basic
/-!
# Evaluations — what to run and what came of it
-/

namespace DebugClient

/-- What to evaluate, in a context or in a frame. -/
structure EvaluationOptions where
  /-- Source text; an empty one stands for the receiver. -/
  expression : String
  /-- Group the result belongs to. -/
  objectGroup : Option String := none
  /-- Whether the command line functions are in scope. -/
  includeCommandLineApi : Bool := false
  /-- Whether exceptions are neither reported nor paused on. -/
  silent : Bool := false
  /-- Whether the result comes as JSON. -/
  returnByValue : Bool := false
  /-- Whether the result has a preview. -/
  generatePreview : Bool := false
  /-- Whether a side effect ends it. -/
  throwOnSideEffect : Bool := false
  /-- Milliseconds after which it is ended. -/
  timeout : Option Double := none
  /-- Whether breakpoints are ignored. -/
  disableBreaks : Bool := false
  /-- Whether it is interactive input. -/
  replMode : Bool := false
  /-- Whether a content security policy is ignored. -/
  allowUnsafeEvalBlockedByCsp : Bool := false

/-- Whether the backend has to be able to end the evaluation. -/
def EvaluationOptions.endsEarly (o : EvaluationOptions) : Bool :=
  o.throwOnSideEffect || o.timeout.isSome

/-- What came of an evaluation. -/
inductive Outcome where
  /-- It ran. The object is the result, or what was thrown if there are
  details. -/
  | ran (object : Value) (details : Option Wire.ExceptionDetails)
  /-- It could not run. -/
  | failed (text : String)

namespace Outcome

/-- The result or what was thrown. -/
def object? : Outcome → Option Value
  | .ran object _ => some object
  | .failed _ => none

end Outcome

/-- How the message of an exception begins that ended an evaluation before
its first side effect. -/
def sideEffectMessage : String := "EvalError: Possible side-effect in debug-evaluate"

/-- Whether an evaluation was ended before its first side effect. -/
def Wire.EvaluateReply.endedBySideEffect (r : Wire.EvaluateReply) : Bool :=
  (((r.exceptionDetails.bind (·.exception)).bind (·.description)).map fun d =>
    sideEffectMessage.toList.isPrefixOf d.toList).getD false

end DebugClient
