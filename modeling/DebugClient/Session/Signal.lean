import DebugClient.Context.Basic
import DebugClient.Evaluation.Basic
import DebugClient.Link
import DebugClient.Location.Range
import DebugClient.Pause.Details
import DebugClient.Wire.Command
/-!
# Signals — what a session does outside of itself

Everything that leaves a session is a `Signal`: a request to the backend,
a question to one of the policies the user has installed, an event for
those who listen, an order to the source maps, and a timer to be set.
Requests and questions have a ticket under which their answer comes back.
-/

namespace DebugClient

/-- Names a request or a question of a session. -/
abbrev Ticket := Nat

/-- A step of the user, for which ranges to skip are asked. -/
inductive StepMode where
  /-- Into the next call. -/
  | into
  /-- Over the next statement. -/
  | over
  /-- Out of the function. -/
  | out
  deriving DecidableEq

/-- A question to a policy. -/
inductive Inquiry where
  /-- Which frames to show in the place of these. -/
  | expand (frames : List CallFrame)
  /-- Which ranges a step from a frame must not stop inside. -/
  | skipRanges (mode : StepMode) (frame : CallFrame)
  /-- Whether an evaluation in a frame is answered without the backend. -/
  | evaluate (frame : CallFrame) (options : EvaluationOptions)
  /-- To set the breakpoints of a script. -/
  | synchronize (script : Script)

/-- The answer of a policy. -/
inductive Advice where
  /-- Frames to show. -/
  | frames (frames : List CallFrame)
  /-- Ranges to skip, each between two places. -/
  | ranges (ranges : List (Location × Location))
  /-- The outcome of an evaluation, unless the backend has to be asked. -/
  | outcome (outcome : Option Outcome)
  /-- The breakpoints are set. -/
  | synchronized

/-- What the debugger of a target reports. -/
inductive DebuggerEvent where
  /-- The agent is being enabled. -/
  | wasEnabled
  /-- The agent was disabled. -/
  | wasDisabled
  /-- The agent has an identity and can pause. -/
  | readyToPause
  /-- Execution paused. -/
  | paused (details : PauseDetails)
  /-- Execution goes on. -/
  | resumed
  /-- A script was registered. -/
  | scriptParsed (script : Script)
  /-- A script that failed to parse was forgotten. -/
  | scriptDiscarded (script : Script)
  /-- Every script and the pause were forgotten. -/
  | globalObjectCleared
  /-- Another frame is selected. -/
  | frameSelected (frame : Option CallFrame)
  /-- Breakpoints were activated or deactivated. -/
  | breakpointsActiveChanged (active : Bool)

/-- When something happened. -/
inductive Moment where
  /-- In milliseconds, as the backend says. -/
  | reported (time : Double)
  /-- When the client learned of it. -/
  | onReceipt

/-- A call of a console method. -/
structure ConsoleMessage where
  /-- The method. -/
  kind : String
  /-- Its arguments. -/
  args : List Value
  /-- Context of the call. -/
  contextId : ContextId
  /-- When it was called. -/
  time : Moment
  /-- Where it was called. -/
  stackTrace : Option Wire.StackTrace
  /-- Name of the console. -/
  context : Option String

/-- What the runtime of a target reports. -/
inductive RuntimeEvent where
  /-- A context was added. -/
  | contextCreated (context : ExecutionContext)
  /-- A context was removed. -/
  | contextDestroyed (context : ExecutionContext)
  /-- A context has another label. -/
  | contextChanged (context : ExecutionContext)
  /-- Contexts may be shown in another order. -/
  | contextOrderChanged
  /-- An exception was not handled. -/
  | exceptionThrown (time : Moment) (details : Wire.ExceptionDetails)
  /-- An exception was handled after all. -/
  | exceptionRevoked (id : Int)
  /-- A console method was called. -/
  | console (message : ConsoleMessage)

/-- An order to the source maps. -/
inductive MapOrder where
  /-- Resolve the map of a script. -/
  | attach (script : Script) (mapUrl : String)
  /-- Drop the map of a script. -/
  | detach (script : Script)
  /-- Resolve maps, or no longer. -/
  | setEnabled (enabled : Bool)
  /-- Drop everything. -/
  | dispose

/-- What leaves a session. -/
inductive Signal where
  /-- A request to the backend. -/
  | request (ticket : Ticket) (command : Wire.Command)
  /-- A question to a policy. -/
  | inquiry (ticket : Ticket) (question : Inquiry)
  /-- A pause was shown to the policy that may veto it, with its verdict. -/
  | judged (details : PauseDetails) (verdict : Bool)
  /-- An event of the debugger. -/
  | debugger (event : DebuggerEvent)
  /-- An event of the runtime. -/
  | runtime (event : RuntimeEvent)
  /-- An order to the source maps. -/
  | maps (order : MapOrder)
  /-- A breakpoint got a location; for the listener of a name. -/
  | resolved (listener : String) (location : Location)
  /-- The location of a run was reached; for the listener of a name. -/
  | reached (listener : String)
  /-- A timer to be set, in milliseconds. -/
  | timer (delay : Nat) (token : Nat)

end DebugClient
