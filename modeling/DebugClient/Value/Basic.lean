import DebugClient.Value.Extent
import DebugClient.Value.Preview
import DebugClient.Script.Basic
/-!
# Values — objects, primitives, scopes and JSON

A `Value` is one of four: a handle to an object of the debugged program,
a primitive held here, the object that holds the variables of a scope,
or a JSON value shown as if it were an object. Values never change. Two
handles of one object are two values with a `key` each, under which their
session remembers which have been released and what a scope has listed.
-/

namespace DebugClient

/-- A handle to an object of the debugged program. -/
structure Handle where
  /-- Tells it apart from every other handle, and names its session. -/
  key : Key
  /-- Identifier of the object. -/
  objectId : ObjectId
  /-- Type of the object. -/
  type : ValueType
  /-- Kind of object. -/
  subtype : Option Subtype
  /-- Class name. -/
  className : Option String
  /-- Text that stands for the object. -/
  description : Option String
  /-- Shortened contents. -/
  preview : Option Wire.ObjectPreview
  /-- Output of a custom formatter. -/
  customPreview : Option Json

/-- The handle of an object, named by its identifier. -/
def Handle.ofRemote (key : Key) (objectId : ObjectId) (o : Wire.RemoteObject) : Handle :=
  ⟨key, objectId, o.type, o.subtype, o.className, o.description, o.preview, o.customPreview⟩

/-- Names a scope of a paused frame. -/
structure ScopeRef where
  /-- Place of the scope in the chain of its frame. -/
  number : Nat
  /-- The frame; none for a scope outside of a pause. -/
  callFrameId : Option CallFrameId
  deriving DecidableEq

/-- A primitive with what the backend said about it. -/
structure LocalPrimitive where
  /-- The primitive. -/
  value : Primitive
  /-- Its type. -/
  type : ValueType
  /-- Kind of object. -/
  subtype : Option Subtype
  /-- Its spelling, if JSON cannot hold it. -/
  unserializable : Option String
  /-- Text that stands for it. -/
  description : String
  /-- Class name. -/
  className : Option String
  /-- Output of a custom formatter. -/
  customPreview : Option Json

namespace LocalPrimitive

/-- The primitive of a value without an identifier. Its description is the
first there is of: one that came and is not empty, the spelling, and the
text of the value. -/
def ofRemote (o : Wire.RemoteObject) : LocalPrimitive :=
  let value := Primitive.ofRemote o
  let text := match value with
    | .json _ => ""
    | v => v.toText
  { value
    type := o.type
    subtype := o.subtype
    unserializable := o.unserializableValue
    description := ((Script.nonEmpty o.description).or o.unserializableValue).getD text
    className := o.className
    customPreview := o.customPreview }

/-- A primitive made here. -/
def ofPrimitive (p : Primitive) : LocalPrimitive where
  value := p
  type := p.type
  subtype := match p with
    | .null => some .null
    | _ => none
  unserializable := p.unserializable?
  description := p.unserializable?.getD p.toText
  className := none
  customPreview := none

end LocalPrimitive

/-- A value of the debugged program, or one shown like it. -/
inductive Value where
  /-- An object. -/
  | handle (h : Handle)
  /-- A primitive. -/
  | primitive (p : LocalPrimitive)
  /-- The object that holds the variables of a scope. -/
  | scope (h : Handle) (ref : ScopeRef)
  /-- A JSON value. -/
  | json (j : Json)

namespace Value

/-- The handle of an object or scope. -/
def handle? : Value → Option Handle
  | .handle h => some h
  | .scope h _ => some h
  | _ => none

/-- The type. -/
def type : Value → ValueType
  | .handle h => h.type
  | .scope h _ => h.type
  | .primitive p => p.type
  | .json (.bool _) => .boolean
  | .json (.int _) => .number
  | .json (.double _) => .number
  | .json (.str _) => .string
  | .json _ => .object

/-- The kind of object. -/
def subtype : Value → Option Subtype
  | .handle h => h.subtype
  | .scope h _ => h.subtype
  | .primitive p => p.subtype
  | .json .null => some .null
  | .json (.arr _) => some .array
  | .json _ => none

/-- Place of the session whose backend holds the object. -/
def seat? (v : Value) : Option Nat := v.handle?.map (·.key.seat)

/-- The identifier of an object. -/
def objectId (v : Value) : Option ObjectId := v.handle?.map (·.objectId)

/-- The class name. -/
def className : Value → Option String
  | .handle h => h.className
  | .scope h _ => h.className
  | .primitive p => p.className
  | .json _ => none

/-- The text that stands for the value. -/
def description : Value → Option String
  | .handle h => h.description
  | .scope h _ => h.description
  | .primitive p => some p.description
  | .json j => some (String.ofList (Preview.describe j))

/-- Shortened contents. -/
def preview (v : Value) : Option Wire.ObjectPreview := v.handle?.bind (·.preview)

/-- Output of a custom formatter. A scope has none. -/
def customPreview : Value → Option Json
  | .handle h => h.customPreview
  | .primitive p => p.customPreview
  | _ => none

/-- Whether the value can be opened into properties. -/
def hasChildren : Value → Bool
  | .handle h => h.type != .symbol
  | .scope h _ => h.type != .symbol
  | .primitive _ => false
  | .json (.arr items) => !items.isEmpty
  | .json (.obj members) => !members.isEmpty
  | .json _ => false

/-- The primitive held here. -/
def primitive? : Value → Option Primitive
  | .primitive p => some p.value
  | _ => none

/-- The spelling of a primitive JSON cannot hold. -/
def unserializable? : Value → Option String
  | .primitive p => p.unserializable
  | _ => none

/-- Whether the value is null or undefined. -/
def isNullish (v : Value) : Bool :=
  match v.type with
  | .object => v.subtype == some .null
  | .undefined => true
  | _ => false

/-- The length of an array. -/
def arrayLength : Value → Nat
  | .json (.arr items) => items.length
  | .json _ => 0
  | v => Extent.arrayLength v.subtype v.description

/-- The byte length of a buffer. -/
def bufferLength (v : Value) : Nat := Extent.bufferLength v.subtype v.description

/-- The argument that passes the value to a call. -/
def toArgument : Value → Wire.CallArgument
  | .handle h => { objectId := some h.objectId }
  | .scope h _ => { objectId := some h.objectId }
  | .primitive p =>
    match p.unserializable with
    | some s => { unserializableValue := some s }
    | none => p.value.toArgument
  | .json j => { value := some j }

end Value

end DebugClient
