import DebugClient.Session.Clearing
/-!
# Enablement — the debugger agent and its settings

Enabling sends everything the agent has to know at once, and then waits
for the answers. An agent that is enabled has an identity, under which
the registry finds the session; it gives the identity up when it is
disabled.

Settings that are changed are sent on while the agent is enabled.
-/

namespace DebugClient

namespace Session

/-- Whether the agent is enabled or being enabled. -/
def isEnabled (s : Session) : Bool := s.enablement != .disabled

/-- Sets whether the agent is enabled. -/
def setEnablement (enablement : Enablement) (s : Session) : Session :=
  { s with enablement }

/-! ## Identity -/

/-- Takes an identity out of the registry, if it is another one. -/
def withdraw (s : Session) (previous : Option DebuggerId) (id : DebuggerId) : Session :=
  match previous with
  | some p => if p = id then s else { s with registry := s.registry.unregister p }
  | none => s

/-- Takes on an identity, and gives up the one there was. -/
def identify (id : DebuggerId) (s : Session) : Session :=
  let s := { s with debuggerId := some id }.withdraw s.debuggerId id
  { s with registry := s.registry.register id s.seat }.report .readyToPause

/-- Gives up the identity. -/
def giveUpIdentity (s : Session) : Session :=
  match s.debuggerId with
  | some id => { s with debuggerId := none, registry := s.registry.unregister id }
  | none => s

/-! ## Enabling and disabling -/

/-- What the agent is told when it is enabled, after the command that
enables it. -/
def initialCommands (settings : Settings) : List Wire.Command :=
  (if settings.instrumentationBreakpoints then
      [.setInstrumentationBreakpoint "beforeScriptExecution"] else []) ++
    [.setPauseOnExceptions settings.exceptionStops, .setAsyncCallStackDepth settings.asyncDepth] ++
    (if settings.breakpointsActive then [] else [.setBreakpointsActive false])

/-- Sends commands one after another, without waiting. -/
def issueAll : List Wire.Command → Work (List Ticket)
  | [] => return []
  | c :: rest => do
    let ticket ← Work.issue c
    return ticket :: (← issueAll rest)

/-- Enables the agent and sends it the settings. -/
def enable : Work Unit := do
  let s ← Flow.read
  if s.isEnabled then return ()
  else
    Flow.modify (setEnablement .enabling)
    let enabling := Wire.Command.enableDebugger s.settings.cacheSize
    let ticket ← Work.issue enabling
    let sent ← issueAll (initialCommands s.settings)
    Flow.modify (·.report .wasEnabled)
    let identity ← Work.reply ticket enabling Wire.Reply.identity
    Flow.forEach Work.settle sent
    if ← Flow.look isEnabled then
      match identity with
      | .ok id => Flow.modify fun s => (s.setEnablement .enabled).identify id
      | .error _ => Flow.modify (setEnablement .disabled)

/-- What disabling leaves behind once the agent has answered. -/
def finishDisabling (s : Session) : Session :=
  ({ s with isPausing := false }.clearGlobalObject.report .wasDisabled).giveUpIdentity

/-- Disables the agent and forgets every script. -/
def disable : Work Unit := do
  if ← Flow.look isEnabled then
    Flow.modify (setEnablement .disabled)
    Work.send (.setAsyncCallStackDepth 0)
    Work.send .disableDebugger
    Flow.modify finishDisabling

/-- Enables the agent again, to learn its identity. -/
def syncIdentity : Work Unit := do
  let command := Wire.Command.enableDebugger (← Flow.look (·.settings.cacheSize))
  match ← Work.call command Wire.Reply.identity with
  | .ok id => Flow.modify (identify id)
  | .error _ => return ()

/-- Gives up the source maps and the identity. -/
def dispose (s : Session) : Session := (s.order .dispose).giveUpIdentity

/-! ## Settings -/

/-- Chooses the exceptions that stop execution. -/
def putPauseOnExceptions (enabled caught : Bool) (s : Session) : Session :=
  { s with settings := { s.settings with pauseOnException := enabled, pauseOnCaught := caught } }

/-- Sends a command if the agent is enabled. -/
def sendIfEnabled (command : Wire.Command) : Work Unit := do
  if ← Flow.look isEnabled then Work.send command

/-- Chooses the exceptions that stop execution. -/
def setPauseOnExceptions (enabled caught : Bool) : Work Unit := do
  Flow.modify (putPauseOnExceptions enabled caught)
  sendIfEnabled (.setPauseOnExceptions (← Flow.look (·.settings.exceptionStops)))

/-- Chooses whether traces of scheduled tasks are collected. -/
def putAsyncTraces (enabled : Bool) (s : Session) : Session :=
  { s with settings := { s.settings with asyncTracesDisabled := !enabled } }

/-- Chooses whether traces of scheduled tasks are collected. -/
def setAsyncTraces (enabled : Bool) : Work Unit := do
  Flow.modify (putAsyncTraces enabled)
  sendIfEnabled (.setAsyncCallStackDepth (← Flow.look (·.settings.asyncDepth)))

/-- Chooses whether breakpoints are active. -/
def putBreakpointsActive (active : Bool) (s : Session) : Session :=
  { s with settings := { s.settings with breakpointsActive := active } }

/-- Activates or deactivates all breakpoints. -/
def setBreakpointsActive (active : Bool) : Work Unit := do
  Flow.modify (putBreakpointsActive active)
  Work.send (.setBreakpointsActive active)
  Flow.modify (·.report (.breakpointsActiveChanged active))

/-- Turns source maps on or off. -/
def setSourceMaps (enabled : Bool) (s : Session) : Session :=
  { s with settings := { s.settings with sourceMapsEnabled := enabled } }.order (.setEnabled enabled)

/-- Replaces the patterns of scripts that are stepped over; tells whether
the backend took them. -/
def setBlackboxPatterns (patterns : List String) : Work Bool := do
  return (← Work.command (.setBlackboxPatterns patterns)).isOk

/-- Turns custom object formatters on or off. -/
def setCustomFormatters (enabled : Bool) : Work Unit :=
  Work.send (.setCustomObjectFormatterEnabled enabled)

/-- Enables reports on execution contexts. -/
def enableRuntime : Work (Except LinkError Unit) := Work.command .enableRuntime

/-- Starts the session of a target: its reports first, then its agent. -/
def start : Work Unit := do
  let _ ← enableRuntime
  if ← Flow.look (·.settings.customFormatters) then setCustomFormatters true
  enable

/-- The session of a target that has just been connected. -/
def connect (seat : Nat) (target : Target) (settings : Settings) : Session :=
  { seat, target, settings : Session }.order (.setEnabled settings.sourceMapsEnabled)

end Session

end DebugClient
