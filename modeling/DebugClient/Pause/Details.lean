import DebugClient.Frame.Basic
import DebugClient.Trace.Cleaning
/-!
# Pauses — everything known about a stop
-/

namespace DebugClient

/-- Everything known about a stop of the debugged program. -/
structure PauseDetails where
  /-- Frames, top first. -/
  frames : List CallFrame
  /-- Why execution stopped. -/
  reason : PauseReason
  /-- Data that belongs to the reason. -/
  data : Option Json
  /-- Breakpoints that were hit. -/
  breakpointIds : List BreakpointId
  /-- The cleaned trace of the tasks behind the current one. -/
  asyncTrace : Option Wire.StackTrace
  /-- That trace, if an agent keeps it. -/
  asyncTraceId : Option Wire.TraceId

namespace PauseDetails

/-- The details of a reported stop, with its frames. -/
def ofReport (r : Wire.PauseReport) (frames : List CallFrame) : PauseDetails where
  frames := frames
  reason := r.reason
  data := r.data
  breakpointIds := r.hitBreakpoints
  asyncTrace := r.asyncStackTrace.map .clean
  asyncTraceId := r.asyncStackTraceId

/-- What was thrown, if the stop is for an exception or a rejected
promise. -/
def thrown? (d : PauseDetails) : Option Wire.RemoteObject :=
  if d.reason = .exception ∨ d.reason = .promiseRejection then
    d.data.bind Wire.RemoteObject.codec.read
  else none

end PauseDetails

end DebugClient
