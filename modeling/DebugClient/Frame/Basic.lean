import DebugClient.Value.Fresh
/-!
# Frames — the paused stack

A `CallFrame` is a frame of the paused stack in a known script. A frame
of a function that was inlined into another is virtual: it stands on the
same frame of the backend under a name and an index of its own.

A frame never changes. Its objects are made with it; only the value it
is about to return can be replaced, and the session keeps the
replacement under the frame's `key`.
-/

namespace DebugClient

/-- A scope of a frame. -/
structure Scope where
  /-- Place in the chain of the frame. -/
  ordinal : Nat
  /-- Kind of the scope. -/
  kind : ScopeKind
  /-- Name of the scope. -/
  name : Option String
  /-- Where it starts. -/
  start : Option Location
  /-- Where it ends. -/
  finish : Option Location
  /-- Text that stands for the scope; only scopes that are objects have
  one. -/
  description : String
  /-- Holds the variables. -/
  object : Value

namespace Scope

/-- The scope of a frame at a place in its chain. Declared variables are
written by the debugger; the others are properties. -/
def ofWire (frame : CallFrameId) (ordinal : Nat) (s : Wire.Scope) : Fresh Scope := do
  let object ←
    if s.kind.isDeclarative then Value.scopeOfRemote s.object ⟨ordinal, some frame⟩
    else Value.ofRemote s.object
  return {
    ordinal, object
    kind := s.kind
    name := s.name
    start := s.startLocation.map .ofWire
    finish := s.endLocation.map .ofWire
    description := if s.kind.isDeclarative then "" else s.object.description.getD "" }

/-- The scopes of a frame from a place in its chain on. -/
def ofWires (frame : CallFrameId) (ordinal : Nat) : List Wire.Scope → Fresh (List Scope)
  | [] => return []
  | s :: rest => do return (← ofWire frame ordinal s) :: (← ofWires frame (ordinal + 1) rest)

end Scope

/-- A frame of the paused stack. -/
structure CallFrame where
  /-- Tells it apart from every other frame, and names its session. -/
  key : Key
  /-- The script it runs. -/
  script : Script
  /-- As the backend sent it. -/
  wire : Wire.CallFrame
  /-- Which of the functions inlined here it is; zero for the outermost. -/
  inlineIndex : Nat
  /-- Name of the function. -/
  functionName : String
  /-- Whether the backend does not know the frame as such. -/
  isVirtual : Bool
  /-- The receiver. -/
  this : Value
  /-- Scopes, innermost first. -/
  scopes : List Scope
  /-- The value it was about to return when it was reported. -/
  returned : Option Value

namespace CallFrame

/-- A frame in a script: the frame as it was sent, or a virtual one of a
name. -/
def make (script : Script) (wire : Wire.CallFrame) (virtual : Option (Nat × String)) :
    Fresh CallFrame := do
  let key ← Fresh.key
  let this ← Value.ofRemote wire.this
  let scopes ← Scope.ofWires wire.callFrameId 0 wire.scopeChain
  let returned ← Value.ofRemote? wire.returnValue
  return {
    key, script, wire, this, scopes, returned
    inlineIndex := (virtual.map (·.1)).getD 0
    functionName := (virtual.map (·.2)).getD wire.functionName
    isVirtual := virtual.isSome }

/-- A virtual frame on a frame. -/
def virtual (f : CallFrame) (inlineIndex : Nat) (name : String) : Fresh CallFrame :=
  make f.script f.wire (some (inlineIndex, name))

/-- Place of the session whose target is paused in the frame. -/
def seat (f : CallFrame) : Nat := f.key.seat

/-- Identifier on the backend. -/
def id (f : CallFrame) : CallFrameId := f.wire.callFrameId

/-- Where the frame stands. -/
def location (f : CallFrame) : Location :=
  { Location.ofWire f.wire.location with inlineFrameIndex := f.inlineIndex }

/-- Where the function starts. -/
def functionLocation (f : CallFrame) : Option Location := f.wire.functionLocation.map .ofWire

/-- Whether the backend can start the frame again. -/
def canBeRestarted (f : CallFrame) : Bool := f.wire.canBeRestarted.getD false

/-- The outermost scope of a function in the chain. -/
def localScope (f : CallFrame) : Option Scope :=
  (f.scopes.filter fun s => s.kind == .local).getLast?

end CallFrame

end DebugClient
