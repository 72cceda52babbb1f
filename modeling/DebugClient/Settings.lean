import DebugClient.Json.Text
import DebugClient.Wire.Command
/-!
# Settings — what the user chooses

The settings of a session, each with a default. A document need only
name those it changes. What the backend is told of them is derived:
`exceptionStops`, `asyncDepth` and `cacheSize`.
-/

namespace DebugClient

/-- The settings of a session. -/
structure Settings where
  /-- Stop when an exception is thrown. -/
  pauseOnException : Bool := false
  /-- Stop also on exceptions that are caught. -/
  pauseOnCaught : Bool := false
  /-- Do not collect the traces of scheduled tasks. -/
  asyncTracesDisabled : Bool := false
  /-- Breakpoints are active. -/
  breakpointsActive : Bool := true
  /-- Source maps are resolved. -/
  sourceMapsEnabled : Bool := true
  /-- The backend is on another machine, and its cache has to be small. -/
  remoteFrontend : Bool := false
  /-- Stop before every script, so that its breakpoints can be set. -/
  instrumentationBreakpoints : Bool := false
  /-- Use custom object formatters. -/
  customFormatters : Bool := false
  /-- Local scripts have Windows paths. -/
  windowsPaths : Bool := false
  deriving DecidableEq, Inhabited

namespace Settings

/-- Which exceptions stop execution. -/
def exceptionStops (s : Settings) : ExceptionStops :=
  if s.pauseOnException then
    if s.pauseOnCaught then .all else .uncaught
  else .none

/-- How many scheduled tasks a trace goes back at most. -/
def maxAsyncDepth : Nat := 32

/-- How many scheduled tasks a trace goes back. -/
def asyncDepth (s : Settings) : Nat := if s.asyncTracesDisabled then 0 else maxAsyncDepth

/-- How many bytes of collected scripts the backend keeps: a hundred
million, and ten million on another machine. -/
def cacheSize (s : Settings) : Double :=
  if s.remoteFrontend then Double.ofInt 10000000 else Double.ofInt 100000000

/-- The document form of settings. -/
def codec : Codec Settings :=
  .record
    (.cons (.defaulted "pauseOnExceptionEnabled" .bool false) <|
      .cons (.defaulted "pauseOnCaughtException" .bool false) <|
      .cons (.defaulted "disableAsyncStackTraces" .bool false) <|
      .cons (.defaulted "breakpointsActive" .bool true) <|
      .cons (.defaulted "jsSourceMapsEnabled" .bool true) <|
      .cons (.defaulted "remoteFrontend" .bool false) <|
      .cons (.defaulted "instrumentationBreakpoints" .bool false) <|
      .cons (.defaulted "customFormatters" .bool false) <|
      .cons (.defaulted "windowsPaths" .bool false) .nil)
    (fun (pause, caught, noAsync, active, maps, remote, instrumentation, formatters, windows, _) =>
      ⟨pause, caught, noAsync, active, maps, remote, instrumentation, formatters, windows⟩)
    (fun s => (s.pauseOnException, s.pauseOnCaught, s.asyncTracesDisabled, s.breakpointsActive,
      s.sourceMapsEnabled, s.remoteFrontend, s.instrumentationBreakpoints, s.customFormatters,
      s.windowsPaths, ()))

/-- The names a document may use. -/
def names : List String :=
  ["pauseOnExceptionEnabled", "pauseOnCaughtException", "disableAsyncStackTraces",
    "breakpointsActive", "jsSourceMapsEnabled", "remoteFrontend", "instrumentationBreakpoints",
    "customFormatters", "windowsPaths"]

/-- The truth value of a tree. -/
def flag? : Json.Tree → Option Json
  | .bool b => some (.bool b)
  | _ => none

/-- The settings among the members of a document. Each may be there once;
the other members are not looked at, but every name has to be a text. -/
def members? : List (Option String × Json.Tree) → Option (List (String × Json))
  | [] => some []
  | (none, _) :: _ => none
  | (some name, tree) :: rest => do
    let others ← members? rest
    if names.contains name then
      if others.any (·.1 == name) then none
      some ((name, ← flag? tree) :: others)
    else some others

/-- Reads a document: an object, or an array of the settings in order. -/
def read? (text : String) : Option Settings :=
  match Json.readTree text with
  | some (.obj members) => (members? members).bind fun ms => codec.read (.obj ms)
  | some (.arr items) => (items.mapM flag?).bind fun js => codec.read (.arr js)
  | _ => none

/-- Caught exceptions stop only where exceptions stop at all. -/
theorem exceptionStops_eq_none_iff {s : Settings} :
    s.exceptionStops = .none ↔ s.pauseOnException = false := by
  cases h : s.pauseOnException <;> cases hc : s.pauseOnCaught <;> simp [exceptionStops, h, hc]

end Settings

end DebugClient
