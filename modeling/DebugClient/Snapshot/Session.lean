import DebugClient.Session.Breakpoints
import DebugClient.Session.Enablement
import DebugClient.Session.Evaluation
import DebugClient.Session.Views
import DebugClient.Snapshot.Failure
import DebugClient.Snapshot.Place
import DebugClient.Snapshot.Value
/-!
# Snapshots of sessions — frames, scripts, contexts and state

What a front end shows of a session itself. A frame is shown with the
value it is about to return, and a script with the URL of its source map;
both can be replaced, so they are read off the session.
-/

namespace DebugClient

/-- A scope of a frame. -/
def Scope.snapshot (s : Scope) : Json :=
  .object
    [("ordinal", .nat s.ordinal), ("kind", .str s.kind.spelling), ("typeName", .str s.kind.title),
      ("name", .orNull .str s.name), ("start", .orNull Location.snapshot s.start),
      ("end", .orNull Location.snapshot s.finish), ("description", .str s.description)]

namespace CallFrame

/-- What tells a frame apart in a pause. -/
def tag (f : CallFrame) : Json := .arr [.str f.id, .str f.functionName, .nat f.inlineIndex]

/-- A frame, with the value it is about to return. -/
def snapshot (f : CallFrame) (returns : Option Value) : Json :=
  .object
    [("id", .str f.id), ("scriptId", .str f.script.scriptId),
      ("functionName", .str f.functionName), ("location", f.location.snapshot),
      ("functionLocation", .orNull Location.snapshot f.functionLocation),
      ("inline", .nat f.inlineIndex), ("canBeRestarted", .bool f.canBeRestarted),
      ("existsInBackend", .bool !f.isVirtual), ("scopes", .arr (f.scopes.map Scope.snapshot)),
      ("localScope", .orNull (fun s => .nat s.ordinal) f.localScope),
      ("returnValue", .orNull Value.snapshot returns), ("this", f.this.snapshot)]

end CallFrame

/-- A script, with the URL of its source map. -/
def Script.snapshot (s : Script) (mapUrl : Option String) : Json :=
  .object
    [("id", .str s.scriptId), ("url", .str s.sourceUrl),
      ("start", .arr [.nat s.lineOffset, .nat s.columnOffset]),
      ("end", .arr [.nat s.endLine, .nat s.endColumn]), ("contextId", .int s.contextId),
      ("hash", .str s.hash), ("isContentScript", .bool s.isContentScript),
      ("isLiveEdit", .bool s.isLiveEdit), ("hasSourceURL", .bool s.hasSourceUrl),
      ("length", .nat s.length), ("isModule", .bool s.isModule),
      ("language", .str s.language.spelling), ("hasSyntaxError", .bool s.hasSyntaxError),
      ("originStackTrace", .orNull Wire.StackTrace.codec.write s.originStackTrace),
      ("embedderName", .orNull .str s.embedderName), ("sourceMapURL", .orNull .str mapUrl),
      ("isAnonymous", .bool s.isAnonymous), ("isWasm", .bool s.isWasm),
      ("isInline", .bool s.isInline)]

/-- A context. -/
def ExecutionContext.snapshot (c : ExecutionContext) : Json :=
  .object
    [("id", .int c.id), ("uniqueId", .orNull .str c.uniqueId), ("name", .str c.name),
      ("origin", .str c.origin), ("isDefault", .bool c.isDefault),
      ("frameId", .orNull .str c.frameId), ("target", .str c.target.node.id),
      ("label", .str c.label)]

/-- What became of a breakpoint. -/
def Placement.snapshot (p : Placement) : Json :=
  .obj [("id", .orNull .str p.id), ("locations", .arr (p.locations.map Location.snapshot))]

/-- A place where a breakpoint can be set. -/
def BreakLocation.snapshot (l : BreakLocation) : Json :=
  .arr [l.location.snapshot, .orNull (fun k => .str k.spelling) l.kind]

/-- What is known of a function. -/
def FunctionDetails.snapshot (d : FunctionDetails) : Json :=
  .obj [("location", .orNull Location.snapshot d.location), ("name", .str d.name)]

/-- What came of compiling a script. -/
def Wire.Reply.Compilation.snapshot (c : Wire.Reply.Compilation) : Json :=
  .obj [("exceptionDetails", .orNull Wire.ExceptionDetails.codec.write c.exceptionDetails),
    ("scriptId", .orNull .str c.scriptId)]

namespace Session

/-- A frame of the session. -/
def frameSnapshot (s : Session) (f : CallFrame) : Json := f.snapshot (s.returnValue f)

/-- A script of the session. -/
def scriptSnapshot (s : Session) (script : Script) : Json := script.snapshot (s.mapUrl script)

/-- A pause, with the exception it is for. -/
def pauseSnapshot (s : Session) (d : PauseDetails) (thrown : Option Value) : Json :=
  .object
    [("frames", .arr (d.frames.map s.frameSnapshot)), ("reason", .str d.reason.spelling),
      ("auxData", d.data.getD .null), ("breakpointIds", .arr (d.breakpointIds.map .str)),
      ("asyncStackTrace", .orNull Wire.StackTrace.codec.write d.asyncTrace),
      ("asyncStackTraceId", .orNull Wire.TraceId.codec.write d.asyncTraceId),
      ("exception", .orNull Value.snapshot thrown)]

/-- The state of a session at a glance. -/
def glance (s : Session) : Json :=
  .arr [
    .str (match s.enablement with
      | .disabled => "disabled"
      | .enabling => "enabling"
      | .enabled => "enabled"),
    .bool s.isEnabled,
    .str (match s.execution with
      | .running => "running"
      | .pausing => "pausing"
      | .paused => "paused"),
    .bool s.isPausing, .bool s.isPaused, .orNull CallFrame.tag s.selected,
    .bool s.skipTimer.isSome, .nat s.catalog.scripts.length, .nat s.catalog.discardable.length,
    .orNull .str s.debuggerId, .orNull .bool s.sideEffectSupport]

end Session

end DebugClient
