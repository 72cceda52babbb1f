import DebugClient.Wire.Pause
/-!
# Wire — events

What the backend reports on its own accord. An event is an object of a
method and its parameters (`Wire.Event.codec`); each method has one
constructor of `Wire.Event`.
-/

namespace DebugClient

/-- The language of a script. -/
inductive ScriptLanguage where
  /-- JavaScript. -/
  | javaScript
  /-- WebAssembly. -/
  | webAssembly
  deriving DecidableEq

namespace ScriptLanguage

/-- Every language. -/
def all : List ScriptLanguage := [.javaScript, .webAssembly]

/-- The word of a language. -/
def spelling : ScriptLanguage → String
  | .javaScript => "JavaScript"
  | .webAssembly => "WebAssembly"

/-- The wire form of a language. -/
def codec : Codec ScriptLanguage := .enumeration all spelling none

end ScriptLanguage

namespace Wire

/-- A script that was compiled, or failed to be. -/
structure ScriptReport where
  /-- Identifier of the script. -/
  scriptId : ScriptId
  /-- URL; empty for an anonymous script. -/
  url : String
  /-- First line inside its resource. -/
  startLine : Nat
  /-- First column on that line. -/
  startColumn : Nat
  /-- Last line. -/
  endLine : Nat
  /-- Last column on that line. -/
  endColumn : Nat
  /-- Context it was compiled in. -/
  executionContextId : ContextId
  /-- Hash of the content. -/
  hash : String
  /-- Data of the context. -/
  auxData : Option Json
  /-- Whether it replaces a script that was edited. -/
  isLiveEdit : Bool
  /-- URL of its source map. -/
  sourceMapUrl : Option String
  /-- Whether the URL is declared in the source. -/
  hasSourceUrl : Bool
  /-- Whether it is a module. -/
  isModule : Bool
  /-- Length of the source. -/
  length : Nat
  /-- Where it was created from. -/
  stackTrace : Option StackTrace
  /-- Offset of the code in a WebAssembly module. -/
  codeOffset : Option Nat
  /-- Language of the source. -/
  language : ScriptLanguage
  /-- Name given by the embedder. -/
  embedderName : Option String

/-- The wire form of a script report. -/
def ScriptReport.codec : Codec ScriptReport :=
  .record
    (.cons (.required "scriptId" .string) <| .cons (.required "url" .string) <|
      .cons (.required "startLine" .nat32) <| .cons (.required "startColumn" .nat32) <|
      .cons (.required "endLine" .nat32) <| .cons (.required "endColumn" .nat32) <|
      .cons (.required "executionContextId" .int64) <| .cons (.required "hash" .string) <|
      .cons (.trailing "executionContextAuxData" .json) <|
      .cons (.defaulted "isLiveEdit" .bool false) <| .cons (.trailing "sourceMapURL" .string) <|
      .cons (.defaulted "hasSourceURL" .bool false) <| .cons (.defaulted "isModule" .bool false) <|
      .cons (.defaulted "length" .nat32 0) <| .cons (.trailing "stackTrace" StackTrace.codec) <|
      .cons (.trailing "codeOffset" .nat32) <|
      .cons (.defaulted "scriptLanguage" ScriptLanguage.codec .javaScript) <|
      .cons (.trailing "embedderName" .string) .nil)
    (fun (scriptId, url, startLine, startColumn, endLine, endColumn, context, hash, auxData,
        isLiveEdit, sourceMapUrl, hasSourceUrl, isModule, length, stackTrace, codeOffset, language,
        embedderName, _) =>
      ⟨scriptId, url, startLine, startColumn, endLine, endColumn, context, hash, auxData,
        isLiveEdit, sourceMapUrl, hasSourceUrl, isModule, length, stackTrace, codeOffset, language,
        embedderName⟩)
    (fun r => (r.scriptId, r.url, r.startLine, r.startColumn, r.endLine, r.endColumn,
      r.executionContextId, r.hash, r.auxData, r.isLiveEdit, r.sourceMapUrl, r.hasSourceUrl,
      r.isModule, r.length, r.stackTrace, r.codeOffset, r.language, r.embedderName, ()))

/-- A stop of the debugged program. -/
structure PauseReport where
  /-- Frames, top first. -/
  callFrames : List CallFrame
  /-- Why execution stopped. -/
  reason : PauseReason
  /-- Data that belongs to the reason. -/
  data : Option Json
  /-- Breakpoints that were hit. -/
  hitBreakpoints : List BreakpointId
  /-- The trace of the tasks behind the current one. -/
  asyncStackTrace : Option StackTrace
  /-- That trace, if an agent keeps it. -/
  asyncStackTraceId : Option TraceId

/-- The wire form of a stop. -/
def PauseReport.codec : Codec PauseReport :=
  .record
    (.cons (.required "callFrames" (.list CallFrame.codec)) <|
      .cons (.required "reason" PauseReason.codec) <| .cons (.trailing "data" .json) <|
      .cons (.defaulted "hitBreakpoints" (.list .string) []) <|
      .cons (.trailing "asyncStackTrace" StackTrace.codec) <|
      .cons (.trailing "asyncStackTraceId" TraceId.codec) .nil)
    (fun (callFrames, reason, data, hit, trace, traceId, _) =>
      ⟨callFrames, reason, data, hit, trace, traceId⟩)
    (fun p => (p.callFrames, p.reason, p.data, p.hitBreakpoints, p.asyncStackTrace,
      p.asyncStackTraceId, ()))

/-- A breakpoint that got a location. -/
structure Resolution where
  /-- The breakpoint. -/
  breakpointId : BreakpointId
  /-- Where it is. -/
  location : Location
  deriving DecidableEq

/-- The wire form of a resolution. -/
def Resolution.codec : Codec Resolution :=
  .record
    (.cons (.required "breakpointId" .string) <| .cons (.required "location" Location.codec) .nil)
    (fun (id, location, _) => ⟨id, location⟩)
    (fun r => (r.breakpointId, r.location, ()))

/-- A description of an execution context. -/
structure ContextReport where
  /-- Identifier of the context. -/
  id : ContextId
  /-- Origin of its code. -/
  origin : String
  /-- Its name. -/
  name : String
  /-- Identifier that no other context of any process has. -/
  uniqueId : Option String
  /-- Data of the embedder. -/
  auxData : Option Json

/-- The wire form of a context description. -/
def ContextReport.codec : Codec ContextReport :=
  .record
    (.cons (.required "id" .int64) <| .cons (.required "origin" .string) <|
      .cons (.required "name" .string) <| .cons (.optional "uniqueId" .string) <|
      .cons (.optional "auxData" .json) .nil)
    (fun (id, origin, name, uniqueId, auxData, _) => ⟨id, origin, name, uniqueId, auxData⟩)
    (fun c => (c.id, c.origin, c.name, c.uniqueId, c.auxData, ()))

/-- A context that went away. -/
structure ContextGone where
  /-- The context. -/
  id : ContextId
  /-- Its unique identifier. -/
  uniqueId : Option String
  deriving DecidableEq

/-- The wire form of a context's end. -/
def ContextGone.codec : Codec ContextGone :=
  .record
    (.cons (.required "executionContextId" .int64) <|
      .cons (.trailing "executionContextUniqueId" .string) .nil)
    (fun (id, uniqueId, _) => ⟨id, uniqueId⟩)
    (fun c => (c.id, c.uniqueId, ()))

/-- An exception nobody handled. -/
structure Thrown where
  /-- When it was thrown, in milliseconds. -/
  timestamp : Double
  /-- What is known of it. -/
  details : ExceptionDetails

/-- The wire form of an exception report. -/
def Thrown.codec : Codec Thrown :=
  .record
    (.cons (.required "timestamp" .double) <|
      .cons (.required "exceptionDetails" ExceptionDetails.codec) .nil)
    (fun (timestamp, details, _) => ⟨timestamp, details⟩)
    (fun t => (t.timestamp, t.details, ()))

/-- An exception that was handled after all. -/
structure Revoked where
  /-- Why it is taken back. -/
  reason : String
  /-- The exception. -/
  exceptionId : Int
  deriving DecidableEq

/-- The wire form of a revocation. -/
def Revoked.codec : Codec Revoked :=
  .record (.cons (.required "reason" .string) <| .cons (.required "exceptionId" .int64) .nil)
    (fun (reason, id, _) => ⟨reason, id⟩)
    (fun r => (r.reason, r.exceptionId, ()))

/-- A call of a console method. -/
structure ConsoleCall where
  /-- The method. -/
  kind : String
  /-- Its arguments. -/
  args : List RemoteObject
  /-- Context of the call. -/
  executionContextId : ContextId
  /-- When it was called, in milliseconds. -/
  timestamp : Double
  /-- Where it was called. -/
  stackTrace : Option StackTrace
  /-- Name of the console. -/
  context : Option String

/-- The wire form of a console call. -/
def ConsoleCall.codec : Codec ConsoleCall :=
  .record
    (.cons (.required "type" .string) <| .cons (.required "args" (.list RemoteObject.codec)) <|
      .cons (.required "executionContextId" .int64) <| .cons (.required "timestamp" .double) <|
      .cons (.trailing "stackTrace" StackTrace.codec) <| .cons (.trailing "context" .string) .nil)
    (fun (kind, args, executionContextId, timestamp, stackTrace, context, _) =>
      ⟨kind, args, executionContextId, timestamp, stackTrace, context⟩)
    (fun c => (c.kind, c.args, c.executionContextId, c.timestamp, c.stackTrace, c.context, ()))

/-- Parameters that hold nothing. -/
def nothing : Codec Unit := .record .nil id id

/-- Parameters of one field. -/
def single {α : Type} (name : String) (c : Codec α) : Codec α :=
  .record (.cons (.required name c) .nil) (·.1) (·, ())

/-- An event. -/
inductive Event where
  /-- A script was compiled. -/
  | scriptParsed (report : ScriptReport)
  /-- A script failed to compile. -/
  | scriptFailed (report : ScriptReport)
  /-- Execution stopped. -/
  | paused (report : PauseReport)
  /-- Execution goes on. -/
  | resumed
  /-- A breakpoint got a location. -/
  | breakpointResolved (resolution : Resolution)
  /-- A context was created. -/
  | contextCreated (report : ContextReport)
  /-- A context went away. -/
  | contextDestroyed (gone : ContextGone)
  /-- Every context went away. -/
  | contextsCleared
  /-- An exception was not handled. -/
  | exceptionThrown (thrown : Thrown)
  /-- An exception was handled after all. -/
  | exceptionRevoked (revoked : Revoked)
  /-- A console method was called. -/
  | consoleCalled (call : ConsoleCall)

namespace Event

/-- The method an event is sent under. -/
inductive Method where
  /-- For `scriptParsed`. -/
  | scriptParsed
  /-- For `scriptFailed`. -/
  | scriptFailed
  /-- For `paused`. -/
  | paused
  /-- For `resumed`. -/
  | resumed
  /-- For `breakpointResolved`. -/
  | breakpointResolved
  /-- For `contextCreated`. -/
  | contextCreated
  /-- For `contextDestroyed`. -/
  | contextDestroyed
  /-- For `contextsCleared`. -/
  | contextsCleared
  /-- For `exceptionThrown`. -/
  | exceptionThrown
  /-- For `exceptionRevoked`. -/
  | exceptionRevoked
  /-- For `consoleCalled`. -/
  | consoleCalled
  deriving DecidableEq

namespace Method

/-- Every method. -/
def all : List Method :=
  [.scriptParsed, .scriptFailed, .paused, .resumed, .breakpointResolved, .contextCreated,
    .contextDestroyed, .contextsCleared, .exceptionThrown, .exceptionRevoked, .consoleCalled]

/-- The name of a method. -/
def spelling : Method → String
  | .scriptParsed => "Debugger.scriptParsed"
  | .scriptFailed => "Debugger.scriptFailedToParse"
  | .paused => "Debugger.paused"
  | .resumed => "Debugger.resumed"
  | .breakpointResolved => "Debugger.breakpointResolved"
  | .contextCreated => "Runtime.executionContextCreated"
  | .contextDestroyed => "Runtime.executionContextDestroyed"
  | .contextsCleared => "Runtime.executionContextsCleared"
  | .exceptionThrown => "Runtime.exceptionThrown"
  | .exceptionRevoked => "Runtime.exceptionRevoked"
  | .consoleCalled => "Runtime.consoleAPICalled"

/-- The wire form of a method. -/
def codec : Codec Method := .enumeration all spelling none

/-- Whether the method belongs to the debugger agent. -/
def ofDebugger : Method → Bool
  | .scriptParsed | .scriptFailed | .paused | .resumed | .breakpointResolved => true
  | _ => false

end Method

/-- The method of an event. -/
def method : Event → Method
  | .scriptParsed _ => .scriptParsed
  | .scriptFailed _ => .scriptFailed
  | .paused _ => .paused
  | .resumed => .resumed
  | .breakpointResolved _ => .breakpointResolved
  | .contextCreated _ => .contextCreated
  | .contextDestroyed _ => .contextDestroyed
  | .contextsCleared => .contextsCleared
  | .exceptionThrown _ => .exceptionThrown
  | .exceptionRevoked _ => .exceptionRevoked
  | .consoleCalled _ => .consoleCalled

/-- The event of a method and its parameters. -/
def ofParams? (m : Method) (params : Json) : Option Event :=
  match m with
  | .scriptParsed => (ScriptReport.codec.read params).map .scriptParsed
  | .scriptFailed => (ScriptReport.codec.read params).map .scriptFailed
  | .paused => (PauseReport.codec.read params).map .paused
  | .resumed => (nothing.read params).map fun _ => .resumed
  | .breakpointResolved => (Resolution.codec.read params).map .breakpointResolved
  | .contextCreated => ((single "context" ContextReport.codec).read params).map .contextCreated
  | .contextDestroyed => (ContextGone.codec.read params).map .contextDestroyed
  | .contextsCleared => (nothing.read params).map fun _ => .contextsCleared
  | .exceptionThrown => (Thrown.codec.read params).map .exceptionThrown
  | .exceptionRevoked => (Revoked.codec.read params).map .exceptionRevoked
  | .consoleCalled => (ConsoleCall.codec.read params).map .consoleCalled

/-- The parameters of an event. -/
def params : Event → Json
  | .scriptParsed r => ScriptReport.codec.write r
  | .scriptFailed r => ScriptReport.codec.write r
  | .paused p => PauseReport.codec.write p
  | .resumed => nothing.write ()
  | .breakpointResolved r => Resolution.codec.write r
  | .contextCreated c => (single "context" ContextReport.codec).write c
  | .contextDestroyed c => ContextGone.codec.write c
  | .contextsCleared => nothing.write ()
  | .exceptionThrown t => Thrown.codec.write t
  | .exceptionRevoked r => Revoked.codec.write r
  | .consoleCalled c => ConsoleCall.codec.write c

/-- The fields of an event: which parameters are read depends on the
method. -/
def fields : Codec.Fields (Method × Json × Unit) :=
  .cons (.required "method" Method.codec) <| .cons (.required "params" .json) .nil

/-- The wire form of an event. -/
def codec : Codec Event where
  read j := ((Codec.record fields id id).read j).bind fun (m, params, _) => ofParams? m params
  write e := (Codec.record fields id id).write (e.method, e.params, ())

end Event

end Wire

end DebugClient
