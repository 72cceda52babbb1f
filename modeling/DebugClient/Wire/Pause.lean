import DebugClient.Wire.Trace
/-!
# Wire — positions, scopes and frames of a paused stack
-/

namespace DebugClient

namespace Wire

/-- A location in a script. -/
structure Location where
  /-- The script. -/
  scriptId : ScriptId
  /-- Line. -/
  lineNumber : Nat
  /-- Column, if it is known. -/
  columnNumber : Option Nat
  deriving DecidableEq

/-- The wire form of a location. -/
def Location.codec : Codec Location :=
  .record
    (.cons (.required "scriptId" .string) <| .cons (.required "lineNumber" .nat32) <|
      .cons (.optional "columnNumber" .nat32) .nil)
    (fun (scriptId, line, column, _) => ⟨scriptId, line, column⟩)
    (fun l => (l.scriptId, l.lineNumber, l.columnNumber, ()))

end Wire

/-- A line and a column. -/
structure Position where
  /-- Line. -/
  lineNumber : Nat
  /-- Column. -/
  columnNumber : Nat
  deriving DecidableEq

/-- The wire form of a position. -/
def Position.codec : Codec Position :=
  .record
    (.cons (.required "lineNumber" .nat32) <| .cons (.required "columnNumber" .nat32) .nil)
    (fun (line, column, _) => ⟨line, column⟩)
    (fun p => (p.lineNumber, p.columnNumber, ()))

/-- A range of one script. -/
structure Range where
  /-- The script. -/
  scriptId : ScriptId
  /-- Where the range starts. -/
  start : Position
  /-- Where it ends. -/
  finish : Position
  deriving DecidableEq

/-- The wire form of a range. -/
def Range.codec : Codec Range :=
  .record
    (.cons (.required "scriptId" .string) <| .cons (.required "start" Position.codec) <|
      .cons (.required "end" Position.codec) .nil)
    (fun (scriptId, s, e, _) => ⟨scriptId, s, e⟩)
    (fun r => (r.scriptId, r.start, r.finish, ()))

/-- Why a location can hold a breakpoint. -/
inductive BreakKind where
  /-- A statement that stops the debugger. -/
  | debuggerStatement
  /-- A call. -/
  | call
  /-- A return. -/
  | return
  deriving DecidableEq

namespace BreakKind

/-- Every kind. -/
def all : List BreakKind := [.debuggerStatement, .call, .return]

/-- The word of a kind. -/
def spelling : BreakKind → String
  | .debuggerStatement => "debuggerStatement"
  | .call => "call"
  | .return => "return"

/-- The wire form of a kind. -/
def codec : Codec BreakKind := .enumeration all spelling none

end BreakKind

/-- The kind of a scope. -/
inductive ScopeKind where
  /-- The global scope. -/
  | global
  /-- The scope of a function. -/
  | local
  /-- The scope of a `with` statement. -/
  | with
  /-- Variables captured by a function. -/
  | closure
  /-- The scope of a `catch` clause. -/
  | catch
  /-- The scope of a block. -/
  | block
  /-- Top-level declarations of a script. -/
  | script
  /-- The scope of an `eval`. -/
  | eval
  /-- Top-level declarations of a module. -/
  | module
  /-- The operand stack of WebAssembly code. -/
  | wasmExpressionStack
  deriving DecidableEq

namespace ScopeKind

/-- Every kind. -/
def all : List ScopeKind :=
  [.global, .local, .with, .closure, .catch, .block, .script, .eval, .module,
    .wasmExpressionStack]

/-- The word of a kind. -/
def spelling : ScopeKind → String
  | .global => "global"
  | .local => "local"
  | .with => "with"
  | .closure => "closure"
  | .catch => "catch"
  | .block => "block"
  | .script => "script"
  | .eval => "eval"
  | .module => "module"
  | .wasmExpressionStack => "wasm-expression-stack"

/-- The wire form of a kind. -/
def codec : Codec ScopeKind := .enumeration all spelling none

/-- The name a kind is shown under. -/
def title : ScopeKind → String
  | .local => "Local"
  | .closure => "Closure"
  | .catch => "Catch block"
  | .eval => "Eval"
  | .block => "Block"
  | .script => "Script"
  | .with => "With block"
  | .global => "Global"
  | .module => "Module"
  | .wasmExpressionStack => "Expression"

/-- Whether the variables of the scope are declared, and so are written by
the debugger; otherwise they are properties of an object. -/
def isDeclarative : ScopeKind → Bool
  | .with => false
  | .global => false
  | _ => true

end ScopeKind

/-- Why execution stopped. -/
inductive PauseReason where
  /-- For more than one reason. -/
  | ambiguous
  /-- A failed assertion. -/
  | assert
  /-- A violation of the content security policy. -/
  | cspViolation
  /-- A command of the debugger. -/
  | debugCommand
  /-- A change of the document. -/
  | dom
  /-- An event listener. -/
  | eventListener
  /-- An exception. -/
  | exception
  /-- A stop before a script runs. -/
  | instrumentation
  /-- Memory that ran out. -/
  | oom
  /-- A promise that was rejected. -/
  | promiseRejection
  /-- A network request. -/
  | xhr
  /-- A step. -/
  | step
  /-- Anything else. -/
  | other
  deriving DecidableEq

namespace PauseReason

/-- Every reason. -/
def all : List PauseReason :=
  [.ambiguous, .assert, .cspViolation, .debugCommand, .dom, .eventListener, .exception,
    .instrumentation, .oom, .promiseRejection, .xhr, .step, .other]

/-- The word of a reason. -/
def spelling : PauseReason → String
  | .ambiguous => "ambiguous"
  | .assert => "assert"
  | .cspViolation => "CSPViolation"
  | .debugCommand => "debugCommand"
  | .dom => "DOM"
  | .eventListener => "EventListener"
  | .exception => "exception"
  | .instrumentation => "instrumentation"
  | .oom => "OOM"
  | .promiseRejection => "promiseRejection"
  | .xhr => "XHR"
  | .step => "step"
  | .other => "other"

/-- The wire form of a reason. An unknown word is read as `other`. -/
def codec : Codec PauseReason := .enumeration all spelling (some .other)

end PauseReason

namespace Wire

/-- A location that can hold a breakpoint. -/
structure BreakLocation where
  /-- The script. -/
  scriptId : ScriptId
  /-- Line. -/
  lineNumber : Nat
  /-- Column, if it is known. -/
  columnNumber : Option Nat
  /-- Why it can, if it is known. -/
  kind : Option BreakKind
  deriving DecidableEq

/-- The wire form of a break location. -/
def BreakLocation.codec : Codec BreakLocation :=
  .record
    (.cons (.required "scriptId" .string) <| .cons (.required "lineNumber" .nat32) <|
      .cons (.nullable "columnNumber" true .nat32) <|
      .cons (.nullable "type" true BreakKind.codec) .nil)
    (fun (scriptId, line, column, kind, _) => ⟨scriptId, line, column, kind⟩)
    (fun l => (l.scriptId, l.lineNumber, l.columnNumber, l.kind, ()))

/-- A scope of a paused frame. -/
structure Scope where
  /-- Kind of the scope. -/
  kind : ScopeKind
  /-- Holds the variables. -/
  object : RemoteObject
  /-- Name of the scope. -/
  name : Option String
  /-- Where it starts. -/
  startLocation : Option Location
  /-- Where it ends. -/
  endLocation : Option Location

/-- The wire form of a scope. -/
def Scope.codec : Codec Scope :=
  .record
    (.cons (.required "type" ScopeKind.codec) <| .cons (.required "object" RemoteObject.codec) <|
      .cons (.optional "name" .string) <| .cons (.optional "startLocation" Location.codec) <|
      .cons (.optional "endLocation" Location.codec) .nil)
    (fun (kind, object, name, s, e, _) => ⟨kind, object, name, s, e⟩)
    (fun s => (s.kind, s.object, s.name, s.startLocation, s.endLocation, ()))

/-- A frame of a paused stack. -/
structure CallFrame where
  /-- Identifier of the frame. -/
  callFrameId : CallFrameId
  /-- Name of the function. -/
  functionName : String
  /-- Where the function starts. -/
  functionLocation : Option Location
  /-- Where the frame stands. -/
  location : Location
  /-- URL of the script. -/
  url : String
  /-- Scopes, innermost first. -/
  scopeChain : List Scope
  /-- The receiver. -/
  this : RemoteObject
  /-- The value about to be returned. -/
  returnValue : Option RemoteObject
  /-- Whether the frame can be started again. -/
  canBeRestarted : Option Bool

/-- The wire form of a frame. -/
def CallFrame.codec : Codec CallFrame :=
  .record
    (.cons (.required "callFrameId" .string) <| .cons (.required "functionName" .string) <|
      .cons (.optional "functionLocation" Location.codec) <|
      .cons (.required "location" Location.codec) <| .cons (.defaulted "url" .string "") <|
      .cons (.required "scopeChain" (.list Scope.codec)) <|
      .cons (.required "this" RemoteObject.codec) <|
      .cons (.optional "returnValue" RemoteObject.codec) <|
      .cons (.optional "canBeRestarted" .bool) .nil)
    (fun (id, functionName, functionLocation, location, url, scopes, this, returnValue,
        restart, _) =>
      ⟨id, functionName, functionLocation, location, url, scopes, this, returnValue, restart⟩)
    (fun f => (f.callFrameId, f.functionName, f.functionLocation, f.location, f.url,
      f.scopeChain, f.this, f.returnValue, f.canBeRestarted, ()))

end Wire

end DebugClient
