import DebugClient.Wire.Pause
/-!
# Wire — commands

A `Command` is what the client asks of the backend; it has a method and
parameters. Optional parameters that are not given are not written.
-/

namespace DebugClient

/-- Which exceptions stop execution. -/
inductive ExceptionStops where
  /-- None. -/
  | none
  /-- Those nobody handles. -/
  | uncaught
  /-- All. -/
  | all
  deriving DecidableEq

namespace ExceptionStops

/-- The word of a choice. -/
def spelling : ExceptionStops → String
  | .none => "none"
  | .uncaught => "uncaught"
  | .all => "all"

end ExceptionStops

namespace Wire

/-- Parameters of a breakpoint for every script of a URL, pattern or
hash. -/
structure BreakpointByUrl where
  /-- Line. -/
  lineNumber : Nat
  /-- URL of the scripts. -/
  url : Option String := none
  /-- Pattern of their URLs. -/
  urlRegex : Option String := none
  /-- Hash of their content. -/
  scriptHash : Option String := none
  /-- Column. -/
  columnNumber : Option Nat := none
  /-- Expression that has to hold. -/
  condition : Option String := none

/-- Parameters of an evaluation in a context. -/
structure Evaluate where
  /-- Source text. -/
  expression : String
  /-- Group the result belongs to. -/
  objectGroup : Option String := none
  /-- Whether the command line functions are in scope. -/
  includeCommandLineApi : Bool := false
  /-- Whether exceptions are neither reported nor paused on. -/
  silent : Bool := false
  /-- The context. -/
  contextId : Option ContextId := none
  /-- The context, by its unique identifier. -/
  uniqueContextId : Option String := none
  /-- Whether the result comes as JSON. -/
  returnByValue : Bool := false
  /-- Whether the result has a preview. -/
  generatePreview : Bool := false
  /-- Whether it counts as an action of the user. -/
  userGesture : Bool := false
  /-- Whether a promise is waited for. -/
  awaitPromise : Bool := false
  /-- Whether a side effect ends it. -/
  throwOnSideEffect : Bool := false
  /-- Milliseconds after which it is ended. -/
  timeout : Option Double := none
  /-- Whether breakpoints are ignored. -/
  disableBreaks : Bool := false
  /-- Whether it is interactive input. -/
  replMode : Bool := false
  /-- Whether a content security policy is ignored. -/
  allowUnsafeEvalBlockedByCsp : Bool := false

/-- Parameters of an evaluation in a paused frame. -/
structure EvaluateOnFrame where
  /-- The frame. -/
  callFrameId : CallFrameId
  /-- Source text. -/
  expression : String
  /-- Group the result belongs to. -/
  objectGroup : Option String := none
  /-- Whether the command line functions are in scope. -/
  includeCommandLineApi : Bool := false
  /-- Whether exceptions are neither reported nor paused on. -/
  silent : Bool := false
  /-- Whether the result comes as JSON. -/
  returnByValue : Bool := false
  /-- Whether the result has a preview. -/
  generatePreview : Bool := false
  /-- Whether a side effect ends it. -/
  throwOnSideEffect : Bool := false
  /-- Milliseconds after which it is ended. -/
  timeout : Option Double := none

/-- Parameters of a call on an object. -/
structure FunctionCall where
  /-- Source text of the function. -/
  declaration : String
  /-- The receiver. -/
  objectId : ObjectId
  /-- The arguments. -/
  arguments : List CallArgument
  /-- Whether the result comes as JSON. -/
  returnByValue : Bool := false

/-- Parameters of a run of a compiled script. -/
structure ScriptRun where
  /-- The script. -/
  scriptId : ScriptId
  /-- The context. -/
  executionContextId : ContextId
  /-- Group the result belongs to. -/
  objectGroup : Option String
  /-- Whether exceptions are neither reported nor paused on. -/
  silent : Bool
  /-- Whether the command line functions are in scope. -/
  includeCommandLineApi : Bool
  /-- Whether the result comes as JSON. -/
  returnByValue : Bool
  /-- Whether the result has a preview. -/
  generatePreview : Bool
  /-- Whether a promise is waited for. -/
  awaitPromise : Bool

/-- Parameters of a property listing. -/
structure PropertyQuery where
  /-- The object. -/
  objectId : ObjectId
  /-- Whether the prototype chain is left out. -/
  ownProperties : Bool
  /-- Whether only accessors are listed. -/
  accessorsOnly : Bool
  /-- Whether array indexes are left out. -/
  nonIndexedOnly : Bool
  /-- Whether values have a preview. -/
  generatePreview : Bool

/-- What the client asks of the backend. -/
inductive Command where
  /-- Enables the debugger agent. -/
  | enableDebugger (cacheSize : Double)
  /-- Disables the debugger agent. -/
  | disableDebugger
  /-- Chooses which exceptions stop execution. -/
  | setPauseOnExceptions (state : ExceptionStops)
  /-- Sets how many scheduled tasks a stack trace goes back. -/
  | setAsyncCallStackDepth (depth : Nat)
  /-- Turns all breakpoints on or off. -/
  | setBreakpointsActive (active : Bool)
  /-- Makes the backend ignore every pause, or no longer. -/
  | setSkipAllPauses (skip : Bool)
  /-- Stops before an event of the engine. -/
  | setInstrumentationBreakpoint (instrumentation : String)
  /-- Sets a breakpoint for every script of a URL, pattern or hash. -/
  | setBreakpointByUrl (breakpoint : BreakpointByUrl)
  /-- Sets a breakpoint at a location. -/
  | setBreakpoint (location : Location) (condition : Option String)
  /-- Removes a breakpoint. -/
  | removeBreakpoint (id : BreakpointId)
  /-- Lists where breakpoints could be set. -/
  | getPossibleBreakpoints (start : Location) (finish : Option Location) (restrict : Bool)
  /-- Runs to a location within the current frames. -/
  | continueToLocation (location : Location)
  /-- Stops at the next statement. -/
  | pause
  /-- Goes on. -/
  | resume
  /-- Steps into the next call. -/
  | stepInto (breakOnAsyncCall : Bool) (skipList : List Range)
  /-- Steps over the next statement. -/
  | stepOver (skipList : List Range)
  /-- Steps out of the function. -/
  | stepOut
  /-- Evaluates in a paused frame. -/
  | evaluateOnCallFrame (evaluation : EvaluateOnFrame)
  /-- Starts a frame again and stops in it. -/
  | restartFrame (id : CallFrameId)
  /-- Replaces the value about to be returned. -/
  | setReturnValue (value : CallArgument)
  /-- Writes a variable of a scope. -/
  | setVariableValue (scope : Nat) (name : String) (value : CallArgument) (frame : CallFrameId)
  /-- Replaces the patterns of scripts that are stepped over. -/
  | setBlackboxPatterns (patterns : List String)
  /-- Fetches a stack trace an agent keeps. -/
  | getStackTrace (id : TraceId)
  /-- Fetches the source of a script. -/
  | getScriptSource (id : ScriptId)
  /-- Enables reports on execution contexts. -/
  | enableRuntime
  /-- Evaluates in a context. -/
  | evaluate (evaluation : Evaluate)
  /-- Lists properties of an object. -/
  | getProperties (query : PropertyQuery)
  /-- Calls a function on an object. -/
  | callFunctionOn (call : FunctionCall)
  /-- Releases an object. -/
  | releaseObject (id : ObjectId)
  /-- Releases the objects of a group. -/
  | releaseObjectGroup (group : String)
  /-- Compiles an expression. -/
  | compileScript (expression sourceUrl : String) (persist : Bool) (context : ContextId)
  /-- Runs a compiled script. -/
  | runScript (run : ScriptRun)
  /-- Collects the objects of a prototype. -/
  | queryObjects (prototype : ObjectId) (group : String)
  /-- Lists the names declared in the global scope. -/
  | globalLexicalScopeNames (context : Option ContextId)
  /-- Lets a target that waits for the debugger run. -/
  | runIfWaitingForDebugger
  /-- Ends the running script. -/
  | terminateExecution
  /-- Fetches what is known of an error object. -/
  | getExceptionDetails (error : ObjectId)
  /-- Turns custom formatters on or off. -/
  | setCustomObjectFormatterEnabled (enabled : Bool)

namespace Command

/-- The method of a command. -/
def method : Command → String
  | .enableDebugger _ => "Debugger.enable"
  | .disableDebugger => "Debugger.disable"
  | .setPauseOnExceptions _ => "Debugger.setPauseOnExceptions"
  | .setAsyncCallStackDepth _ => "Debugger.setAsyncCallStackDepth"
  | .setBreakpointsActive _ => "Debugger.setBreakpointsActive"
  | .setSkipAllPauses _ => "Debugger.setSkipAllPauses"
  | .setInstrumentationBreakpoint _ => "Debugger.setInstrumentationBreakpoint"
  | .setBreakpointByUrl _ => "Debugger.setBreakpointByUrl"
  | .setBreakpoint _ _ => "Debugger.setBreakpoint"
  | .removeBreakpoint _ => "Debugger.removeBreakpoint"
  | .getPossibleBreakpoints _ _ _ => "Debugger.getPossibleBreakpoints"
  | .continueToLocation _ => "Debugger.continueToLocation"
  | .pause => "Debugger.pause"
  | .resume => "Debugger.resume"
  | .stepInto _ _ => "Debugger.stepInto"
  | .stepOver _ => "Debugger.stepOver"
  | .stepOut => "Debugger.stepOut"
  | .evaluateOnCallFrame _ => "Debugger.evaluateOnCallFrame"
  | .restartFrame _ => "Debugger.restartFrame"
  | .setReturnValue _ => "Debugger.setReturnValue"
  | .setVariableValue _ _ _ _ => "Debugger.setVariableValue"
  | .setBlackboxPatterns _ => "Debugger.setBlackboxPatterns"
  | .getStackTrace _ => "Debugger.getStackTrace"
  | .getScriptSource _ => "Debugger.getScriptSource"
  | .enableRuntime => "Runtime.enable"
  | .evaluate _ => "Runtime.evaluate"
  | .getProperties _ => "Runtime.getProperties"
  | .callFunctionOn _ => "Runtime.callFunctionOn"
  | .releaseObject _ => "Runtime.releaseObject"
  | .releaseObjectGroup _ => "Runtime.releaseObjectGroup"
  | .compileScript _ _ _ _ => "Runtime.compileScript"
  | .runScript _ => "Runtime.runScript"
  | .queryObjects _ _ => "Runtime.queryObjects"
  | .globalLexicalScopeNames _ => "Runtime.globalLexicalScopeNames"
  | .runIfWaitingForDebugger => "Runtime.runIfWaitingForDebugger"
  | .terminateExecution => "Runtime.terminateExecution"
  | .getExceptionDetails _ => "Runtime.getExceptionDetails"
  | .setCustomObjectFormatterEnabled _ => "Runtime.setCustomObjectFormatterEnabled"

/-- A truth value that is always written. -/
def flag (b : Bool) : Option Json := some (.bool b)

/-- A text that is always written. -/
def text (s : String) : Option Json := some (.str s)

/-- A number that is always written. -/
def number (n : Nat) : Option Json := some (.int n)

/-- The parameters of a command. -/
def params : Command → Json
  | .enableDebugger cacheSize => .record [("maxScriptsCacheSize", some (.double cacheSize))]
  | .disableDebugger | .pause | .stepOut | .enableRuntime | .runIfWaitingForDebugger
  | .terminateExecution => .record []
  | .setPauseOnExceptions state => .record [("state", text state.spelling)]
  | .setAsyncCallStackDepth depth => .record [("maxDepth", number depth)]
  | .setBreakpointsActive active => .record [("active", flag active)]
  | .setSkipAllPauses skip => .record [("skip", flag skip)]
  | .setInstrumentationBreakpoint i => .record [("instrumentation", text i)]
  | .setBreakpointByUrl b =>
    .record [("lineNumber", number b.lineNumber), ("url", b.url.map .str),
      ("urlRegex", b.urlRegex.map .str), ("scriptHash", b.scriptHash.map .str),
      ("columnNumber", b.columnNumber.map fun n => .int n), ("condition", b.condition.map .str)]
  | .setBreakpoint location condition =>
    .record [("location", some (Location.codec.write location)), ("condition", condition.map .str)]
  | .removeBreakpoint id => .record [("breakpointId", text id)]
  | .getPossibleBreakpoints start finish restrict =>
    .record [("start", some (Location.codec.write start)),
      ("end", finish.map Location.codec.write), ("restrictToFunction", flag restrict)]
  | .continueToLocation location =>
    .record [("location", some (Location.codec.write location)),
      ("targetCallFrames", text "current")]
  | .resume => .record [("terminateOnResume", flag false)]
  | .stepInto breakOnAsyncCall skipList =>
    .record [("breakOnAsyncCall", flag breakOnAsyncCall),
      ("skipList", some (.arr (skipList.map Range.codec.write)))]
  | .stepOver skipList => .record [("skipList", some (.arr (skipList.map Range.codec.write)))]
  | .evaluateOnCallFrame e =>
    .record [("callFrameId", text e.callFrameId), ("expression", text e.expression),
      ("objectGroup", e.objectGroup.map .str),
      ("includeCommandLineApi", flag e.includeCommandLineApi), ("silent", flag e.silent),
      ("returnByValue", flag e.returnByValue), ("generatePreview", flag e.generatePreview),
      ("throwOnSideEffect", flag e.throwOnSideEffect), ("timeout", e.timeout.map .double)]
  | .restartFrame id => .record [("callFrameId", text id), ("mode", text "StepInto")]
  | .setReturnValue value => .record [("newValue", some (CallArgument.codec.write value))]
  | .setVariableValue scope name value frame =>
    .record [("scopeNumber", number scope), ("variableName", text name),
      ("newValue", some (CallArgument.codec.write value)), ("callFrameId", text frame)]
  | .setBlackboxPatterns patterns => .record [("patterns", some (.arr (patterns.map .str)))]
  | .getStackTrace id => .record [("stackTraceId", some (TraceId.codec.write id))]
  | .getScriptSource id => .record [("scriptId", text id)]
  | .evaluate e =>
    .record [("expression", text e.expression), ("objectGroup", e.objectGroup.map .str),
      ("includeCommandLineApi", flag e.includeCommandLineApi), ("silent", flag e.silent),
      ("contextId", e.contextId.map .int), ("uniqueContextId", e.uniqueContextId.map .str),
      ("returnByValue", flag e.returnByValue), ("generatePreview", flag e.generatePreview),
      ("userGesture", flag e.userGesture), ("awaitPromise", flag e.awaitPromise),
      ("throwOnSideEffect", flag e.throwOnSideEffect), ("timeout", e.timeout.map .double),
      ("disableBreaks", flag e.disableBreaks), ("replMode", flag e.replMode),
      ("allowUnsafeEvalBlockedByCsp", flag e.allowUnsafeEvalBlockedByCsp)]
  | .getProperties q =>
    .record [("objectId", text q.objectId), ("ownProperties", flag q.ownProperties),
      ("accessorPropertiesOnly", flag q.accessorsOnly),
      ("nonIndexedPropertiesOnly", flag q.nonIndexedOnly),
      ("generatePreview", flag q.generatePreview)]
  | .callFunctionOn c =>
    .record [("functionDeclaration", text c.declaration), ("objectId", text c.objectId),
      ("arguments", some (.arr (c.arguments.map CallArgument.codec.write))),
      ("silent", flag true), ("returnByValue", flag c.returnByValue)]
  | .releaseObject id => .record [("objectId", text id)]
  | .releaseObjectGroup group => .record [("objectGroup", text group)]
  | .compileScript expression sourceUrl persist context =>
    .record [("expression", text expression), ("sourceURL", text sourceUrl),
      ("persistScript", flag persist), ("executionContextId", some (.int context))]
  | .runScript r =>
    .record [("scriptId", text r.scriptId), ("executionContextId", some (.int r.executionContextId)),
      ("objectGroup", r.objectGroup.map .str), ("silent", flag r.silent),
      ("includeCommandLineApi", flag r.includeCommandLineApi),
      ("returnByValue", flag r.returnByValue), ("generatePreview", flag r.generatePreview),
      ("awaitPromise", flag r.awaitPromise)]
  | .queryObjects prototype group =>
    .record [("prototypeObjectId", text prototype), ("objectGroup", text group)]
  | .globalLexicalScopeNames context => .record [("executionContextId", context.map .int)]
  | .getExceptionDetails error => .record [("errorObjectId", text error)]
  | .setCustomObjectFormatterEnabled enabled => .record [("enabled", flag enabled)]

end Command

end Wire

end DebugClient
