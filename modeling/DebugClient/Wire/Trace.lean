import DebugClient.Wire.RemoteObject
/-!
# Wire — stack traces and exceptions

A stack trace outside of a pause is a chain: the frames of the current
task, then those of the task that scheduled it, and so on. Every link
has its own description and may refer on to a trace another debugger
agent keeps. On the wire each link is nested in the one it led to; here
the chain is the first link and the list of the others.
-/

namespace DebugClient

namespace Json

mutual

/-- How deep the containers of a value are nested. -/
def depth : Json → Nat
  | .arr items => depthItems items + 1
  | .obj members => depthMembers members + 1
  | _ => 0

/-- The greatest depth of array items. -/
def depthItems : List Json → Nat
  | [] => 0
  | j :: rest => max (depth j) (depthItems rest)

/-- The greatest depth of object members. -/
def depthMembers : List (String × Json) → Nat
  | [] => 0
  | (_, j) :: rest => max (depth j) (depthMembers rest)

end

end Json

namespace Wire

/-- A frame of a stack trace. -/
structure TraceFrame where
  /-- Name of the function. -/
  functionName : String
  /-- Script of the function. -/
  scriptId : ScriptId
  /-- URL of the script. -/
  url : String
  /-- Line. -/
  lineNumber : Nat
  /-- Column. -/
  columnNumber : Nat
  deriving DecidableEq

/-- The wire form of a frame. -/
def TraceFrame.codec : Codec TraceFrame :=
  .record
    (.cons (.required "functionName" .string) <| .cons (.required "scriptId" .string) <|
      .cons (.required "url" .string) <| .cons (.required "lineNumber" .nat32) <|
      .cons (.required "columnNumber" .nat32) .nil)
    (fun (functionName, scriptId, url, line, column, _) =>
      ⟨functionName, scriptId, url, line, column⟩)
    (fun f => (f.functionName, f.scriptId, f.url, f.lineNumber, f.columnNumber, ()))

/-- Names a trace kept by a debugger agent. -/
structure TraceId where
  /-- Identifier of the trace. -/
  id : String
  /-- The agent that keeps it, if it is another one. -/
  debuggerId : Option DebuggerId
  deriving DecidableEq

/-- The wire form of a trace name. -/
def TraceId.codec : Codec TraceId :=
  .record (.cons (.required "id" .string) <| .cons (.optional "debuggerId" .string) .nil)
    (fun (id, debuggerId, _) => ⟨id, debuggerId⟩)
    (fun t => (t.id, t.debuggerId, ()))

/-- One link of a stack trace. -/
structure TraceLink where
  /-- What the link is, such as the kind of task. -/
  description : Option String
  /-- Frames, innermost first. -/
  callFrames : List TraceFrame
  /-- Where the trace goes on in another agent. -/
  parentId : Option TraceId
  deriving DecidableEq

/-- A stack trace: its first link, and the links that led to it. -/
structure StackTrace where
  /-- The link of the current task. -/
  link : TraceLink
  /-- The links behind it, nearest first. -/
  parents : List TraceLink
  deriving DecidableEq

namespace StackTrace

/-- Every link, from the current task back. -/
def links (t : StackTrace) : List TraceLink := t.link :: t.parents

/-- The trace of some links, if there are any. -/
def ofLinks? : List TraceLink → Option StackTrace
  | [] => none
  | l :: ls => some ⟨l, ls⟩

/-- The trace behind the first link. -/
def parent? (t : StackTrace) : Option StackTrace := ofLinks? t.parents

/-- The wire form of traces given the form of the trace behind the first
link. -/
def codecOver (parent : Codec StackTrace) : Codec StackTrace :=
  .record
    (.cons (.optional "description" .string) <|
      .cons (.required "callFrames" (.list TraceFrame.codec)) <|
      .cons (.optional "parent" parent) <| .cons (.optional "parentId" TraceId.codec) .nil)
    (fun (description, callFrames, parent, parentId, _) =>
      ⟨⟨description, callFrames, parentId⟩, (parent.map links).getD []⟩)
    (fun t => (t.link.description, t.link.callFrames, t.parent?, t.link.parentId, ()))

/-- The wire form of traces of at most so many links. -/
def codecWithin : Nat → Codec StackTrace
  | 0 => ⟨fun _ => none, fun _ => .null⟩
  | n + 1 => codecOver (codecWithin n)

/-- The wire form of traces. A link is a container of its own, so a value
holds no more links than its depth. -/
def codec : Codec StackTrace where
  read j := (codecWithin j.depth).read j
  write t := (codecWithin t.links.length).write t

@[simp] theorem ofLinks?_links (t : StackTrace) : ofLinks? t.links = some t := rfl

end StackTrace

/-- What is known of an exception. -/
structure ExceptionDetails where
  /-- Identifier of the exception. -/
  exceptionId : Int
  /-- What is shown of it. -/
  text : String
  /-- Line. -/
  lineNumber : Nat
  /-- Column. -/
  columnNumber : Nat
  /-- Script it was thrown in. -/
  scriptId : Option ScriptId
  /-- URL of the script. -/
  url : Option String
  /-- Where it was thrown from. -/
  stackTrace : Option StackTrace
  /-- The thrown value. -/
  exception : Option RemoteObject
  /-- Context it was thrown in. -/
  executionContextId : Option ContextId
  /-- Data attached by the embedder. -/
  metaData : Option Json

/-- The wire form of exception details. -/
def ExceptionDetails.codec : Codec ExceptionDetails :=
  .record
    (.cons (.required "exceptionId" .int64) <| .cons (.required "text" .string) <|
      .cons (.required "lineNumber" .nat32) <| .cons (.required "columnNumber" .nat32) <|
      .cons (.optional "scriptId" .string) <| .cons (.optional "url" .string) <|
      .cons (.optional "stackTrace" StackTrace.codec) <|
      .cons (.optional "exception" RemoteObject.codec) <|
      .cons (.optional "executionContextId" .int64) <|
      .cons (.optional "exceptionMetaData" .json) .nil)
    (fun (id, text, line, column, scriptId, url, trace, exception, context, metaData, _) =>
      ⟨id, text, line, column, scriptId, url, trace, exception, context, metaData⟩)
    (fun d => (d.exceptionId, d.text, d.lineNumber, d.columnNumber, d.scriptId, d.url,
      d.stackTrace, d.exception, d.executionContextId, d.metaData, ()))

/-- The outcome of an evaluation on the backend. -/
structure EvaluateReply where
  /-- The result, or what was thrown. -/
  result : RemoteObject
  /-- Set if it threw. -/
  exceptionDetails : Option ExceptionDetails

/-- The wire form of an evaluation's outcome. -/
def EvaluateReply.codec : Codec EvaluateReply :=
  .record
    (.cons (.required "result" RemoteObject.codec) <|
      .cons (.optional "exceptionDetails" ExceptionDetails.codec) .nil)
    (fun (result, details, _) => ⟨result, details⟩)
    (fun r => (r.result, r.exceptionDetails, ()))

end Wire

end DebugClient
