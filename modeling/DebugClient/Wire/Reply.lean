import DebugClient.Wire.Event
import DebugClient.Wire.Property
/-!
# Wire — replies

What the backend answers to a command. Most commands are only
acknowledged (`acknowledged`); the others have the reader of their answer
here, each named for what it reads.
-/

namespace DebugClient

namespace Wire

namespace Reply

/-- An answer that says nothing. -/
def acknowledged : Json → Option Unit := nothing.read

/-- The identity of the debugger agent. -/
def identity : Json → Option DebuggerId := (single "debuggerId" .string).read

/-- The identifier of a breakpoint. -/
def breakpoint : Json → Option BreakpointId := (single "breakpointId" .string).read

/-- A breakpoint and the locations it has so far. -/
def breakpointWithLocations : Json → Option (BreakpointId × List Location) :=
  (Codec.record
    (.cons (.required "breakpointId" .string) <|
      .cons (.required "locations" (.list Location.codec)) .nil)
    (fun (id, locations, _) => (id, locations)) (fun r => (r.1, r.2, ()))).read

/-- A breakpoint and its location. -/
def breakpointWithLocation : Json → Option (BreakpointId × Location) :=
  (Codec.record
    (.cons (.required "breakpointId" .string) <|
      .cons (.required "actualLocation" Location.codec) .nil)
    (fun (id, location, _) => (id, location)) (fun r => (r.1, r.2, ()))).read

/-- Locations that can hold a breakpoint. -/
def breakLocations : Json → Option (List BreakLocation) :=
  (single "locations" (.list BreakLocation.codec)).read

/-- A stack trace. -/
def stackTrace : Json → Option StackTrace := (single "stackTrace" StackTrace.codec).read

/-- The source of a script, and its bytecode if it has one. -/
def source : Json → Option (String × Option String) :=
  (Codec.record
    (.cons (.required "scriptSource" .string) <| .cons (.trailing "bytecode" .string) .nil)
    (fun (text, bytecode, _) => (text, bytecode)) (fun r => (r.1, r.2, ()))).read

/-- The outcome of an evaluation. -/
def evaluation : Json → Option EvaluateReply := EvaluateReply.codec.read

/-- A property listing. -/
structure Properties where
  /-- Named and symbol-keyed properties. -/
  result : List Property
  /-- Internal slots. -/
  internal : Option (List InternalProperty)
  /-- Private members. -/
  privates : Option (List PrivateProperty)
  /-- Set if the listing threw. -/
  exceptionDetails : Option ExceptionDetails

/-- A property listing. -/
def properties : Json → Option Properties :=
  (Codec.record
    (.cons (.required "result" (.list Property.codec)) <|
      .cons (.trailing "internalProperties" (.list InternalProperty.codec)) <|
      .cons (.trailing "privateProperties" (.list PrivateProperty.codec)) <|
      .cons (.trailing "exceptionDetails" ExceptionDetails.codec) .nil)
    (fun (result, internal, privates, details, _) => Properties.mk result internal privates details)
    (fun p => (p.result, p.internal, p.privates, p.exceptionDetails, ()))).read

/-- A compiled script, or why it does not compile. -/
structure Compilation where
  /-- Identifier of the script. -/
  scriptId : Option ScriptId
  /-- Why it does not compile. -/
  exceptionDetails : Option ExceptionDetails

/-- The outcome of a compilation. -/
def compilation : Json → Option Compilation :=
  (Codec.record
    (.cons (.trailing "scriptId" .string) <|
      .cons (.trailing "exceptionDetails" ExceptionDetails.codec) .nil)
    (fun (id, details, _) => Compilation.mk id details)
    (fun c => (c.scriptId, c.exceptionDetails, ()))).read

/-- The object that holds what a query found. -/
def objects : Json → Option RemoteObject := (single "objects" RemoteObject.codec).read

/-- Names. -/
def names : Json → Option (List String) := (single "names" (.list .string)).read

/-- What is known of an exception. -/
def exceptionDetails : Json → Option (Option ExceptionDetails) :=
  (Codec.record (.cons (.trailing "exceptionDetails" ExceptionDetails.codec) .nil)
    (fun (details, _) => details) (fun d => (d, ()))).read

end Reply

end Wire

end DebugClient
