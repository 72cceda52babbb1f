import DebugClient.Breakpoint.FileUrl
import DebugClient.Session.State
/-!
# Breakpoints of a session

A breakpoint is set by URL, by the hash of an anonymous script, or in one
script. What came of it is a `Placement`; a refused breakpoint has no
identifier and no place. Locations a breakpoint gets later go to those
who listen for it.
-/

namespace DebugClient

/-- What came of setting a breakpoint. -/
structure Placement where
  /-- The breakpoint, if it was set. -/
  id : Option BreakpointId := none
  /-- Where it is so far. -/
  locations : List Location := []
  deriving DecidableEq

namespace Session

/-- The placement of a breakpoint with the locations it has. -/
def placed (r : BreakpointId × List Wire.Location) : Placement := ⟨some r.1, r.2.map .ofWire⟩

/-- The request for a breakpoint in every script of a URL. The column is no
less than the first one of the scripts that start on the line. -/
def breakpointByUrl (s : Session) (url : String) (line : Nat) (column : Option Nat)
    (condition : Option String) : Wire.BreakpointByUrl :=
  let pattern := FileUrl.pattern? s.settings.windowsPaths url
  { lineNumber := line
    url := if pattern.isNone then some url else none
    urlRegex := pattern.map (·.text)
    columnNumber := some (max (column.getD 0) (s.catalog.minColumn url line))
    condition := condition }

/-- Sets a breakpoint in every script of a URL. -/
def setBreakpointByUrl (url : String) (line : Nat) (column : Option Nat)
    (condition : Option String) : Work Placement := do
  let breakpoint ← Flow.look (·.breakpointByUrl url line column condition)
  match ← Work.call (.setBreakpointByUrl breakpoint) Wire.Reply.breakpointWithLocations with
  | .ok r => return placed r
  | .error _ => return {}

/-- Sets a breakpoint in one script. -/
def setBreakpointIn (script : ScriptId) (line : Nat) (column : Option Nat)
    (condition : Option String) : Work Placement := do
  match ← Work.call (.setBreakpoint ⟨script, line, column⟩ condition)
      Wire.Reply.breakpointWithLocation with
  | .ok (id, location) => return ⟨some id, [.ofWire location]⟩
  | .error _ => return {}

/-- What a backend says that cannot set breakpoints by hash. -/
def hashUnsupported : String := "Either url or urlRegex must be specified."

/-- Sets a breakpoint in an anonymous script, by its hash or, where the
backend cannot, by its identifier. -/
def setBreakpointAnonymous (script : ScriptId) (hash : String) (line : Nat) (column : Option Nat)
    (condition : Option String) : Work Placement := do
  match ← Work.call
      (.setBreakpointByUrl
        { lineNumber := line, scriptHash := some hash, columnNumber := column, condition })
      Wire.Reply.breakpointWithLocations with
  | .ok r => return placed r
  | .error e =>
    if e.refusal? = some hashUnsupported then setBreakpointIn script line column condition
    else return {}

/-- Removes a breakpoint. -/
def removeBreakpoint (id : BreakpointId) : Work Unit := Work.send (.removeBreakpoint id)

/-- Places from one location up to another where a breakpoint could be
set. -/
def possibleBreakpoints (start : Location) (finish : Option Location) (restrict : Bool) :
    Work (List BreakLocation) := do
  match ← Work.call
      (.getPossibleBreakpoints start.toWire (finish.map (·.toWire)) restrict)
      Wire.Reply.breakLocations with
  | .ok locations => return locations.map .ofWire
  | .error _ => return []

/-- Takes in that a breakpoint got a location. -/
def resolved (s : Session) (r : Wire.Resolution) : Session :=
  s.breakpointListeners.notify r.breakpointId
    (fun listener s => s.emit (.resolved listener (.ofWire r.location))) s

/-- Listens for the locations of a breakpoint. -/
def listen (id : BreakpointId) (listener : String) (s : Session) : ListenerId × Session :=
  let (name, listeners) := s.breakpointListeners.add id listener
  (name, { s with breakpointListeners := listeners })

/-- Stops listening for the locations of a breakpoint; tells whether there
was such a listener. -/
def unlisten (id : BreakpointId) (name : ListenerId) (s : Session) : Bool × Session :=
  (s.breakpointListeners.has id name,
    { s with breakpointListeners := s.breakpointListeners.remove id name })

end Session

end DebugClient
