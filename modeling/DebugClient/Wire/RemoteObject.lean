import DebugClient.Wire.Codec
/-!
# Wire — objects of the debugged program

What the backend sends in the place of a value (`RemoteObject`), and what
it takes for one in a call (`CallArgument`). An object comes with an
identifier under which it is kept alive; a primitive comes as JSON, or
as a spelling when JSON cannot hold it.
-/

namespace DebugClient

/-- Identifier of a parsed script. -/
abbrev ScriptId := String

/-- Identifier of a breakpoint. -/
abbrev BreakpointId := String

/-- Identifier of a frame of a paused stack. -/
abbrev CallFrameId := String

/-- Identifier of an object the backend keeps alive. -/
abbrev ObjectId := String

/-- Identity of a debugger agent. -/
abbrev DebuggerId := String

/-- Identifier of an execution context. -/
abbrev ContextId := Int

/-- The type of a value. -/
inductive ValueType where
  /-- An object, or null. -/
  | object
  /-- A function. -/
  | function
  /-- No value. -/
  | undefined
  /-- A text. -/
  | string
  /-- A number. -/
  | number
  /-- A truth value. -/
  | boolean
  /-- A symbol. -/
  | symbol
  /-- An integer of any size. -/
  | bigint
  deriving DecidableEq

namespace ValueType

/-- Every type. -/
def all : List ValueType :=
  [.object, .function, .undefined, .string, .number, .boolean, .symbol, .bigint]

/-- The word of a type. -/
def spelling : ValueType → String
  | .object => "object"
  | .function => "function"
  | .undefined => "undefined"
  | .string => "string"
  | .number => "number"
  | .boolean => "boolean"
  | .symbol => "symbol"
  | .bigint => "bigint"

/-- The wire form of a type. -/
def codec : Codec ValueType := .enumeration all spelling none

end ValueType

/-- What kind of object a value is. -/
inductive Subtype where
  /-- An array. -/
  | array
  /-- Null. -/
  | null
  /-- A document node. -/
  | node
  /-- A regular expression. -/
  | regexp
  /-- A date. -/
  | date
  /-- A map. -/
  | map
  /-- A set. -/
  | set
  /-- A weak map. -/
  | weakmap
  /-- A weak set. -/
  | weakset
  /-- An iterator. -/
  | iterator
  /-- A generator. -/
  | generator
  /-- An error. -/
  | error
  /-- A proxy. -/
  | proxy
  /-- A promise. -/
  | promise
  /-- A typed array. -/
  | typedarray
  /-- A buffer of bytes. -/
  | arraybuffer
  /-- A view of a buffer. -/
  | dataview
  /-- A memory of a WebAssembly module. -/
  | webassemblymemory
  /-- A WebAssembly value. -/
  | wasmvalue
  /-- A location inside a script. -/
  | internalLocation
  /-- A kind not known here. -/
  | other
  deriving DecidableEq

namespace Subtype

/-- Every kind. -/
def all : List Subtype :=
  [.array, .null, .node, .regexp, .date, .map, .set, .weakmap, .weakset, .iterator, .generator,
    .error, .proxy, .promise, .typedarray, .arraybuffer, .dataview, .webassemblymemory,
    .wasmvalue, .internalLocation, .other]

/-- The word of a kind. -/
def spelling : Subtype → String
  | .array => "array"
  | .null => "null"
  | .node => "node"
  | .regexp => "regexp"
  | .date => "date"
  | .map => "map"
  | .set => "set"
  | .weakmap => "weakmap"
  | .weakset => "weakset"
  | .iterator => "iterator"
  | .generator => "generator"
  | .error => "error"
  | .proxy => "proxy"
  | .promise => "promise"
  | .typedarray => "typedarray"
  | .arraybuffer => "arraybuffer"
  | .dataview => "dataview"
  | .webassemblymemory => "webassemblymemory"
  | .wasmvalue => "wasmvalue"
  | .internalLocation => "internal#location"
  | .other => "other"

/-- The wire form of a kind. An unknown word is read as `other`. -/
def codec : Codec Subtype := .enumeration all spelling (some .other)

end Subtype

namespace Wire

/-- A property in a preview. -/
structure PropertyPreview where
  /-- Property name. -/
  name : String
  /-- Type word, as it came. -/
  type : Option String
  /-- Shortened value. -/
  value : Option String
  /-- Kind of object. -/
  subtype : Option Subtype
  deriving DecidableEq

/-- The wire form of a property preview. -/
def PropertyPreview.codec : Codec PropertyPreview :=
  .record
    (.cons (.required "name" .string) <| .cons (.nullable "type" false .string) <|
      .cons (.optional "value" .string) <| .cons (.optional "subtype" Subtype.codec) .nil)
    (fun (name, type, value, subtype, _) => ⟨name, type, value, subtype⟩)
    (fun p => (p.name, p.type, p.value, p.subtype, ()))

/-- Shortened contents of an object. -/
structure ObjectPreview where
  /-- Type of the object. -/
  type : ValueType
  /-- Kind of object. -/
  subtype : Option Subtype
  /-- Description of the object. -/
  description : Option String
  /-- Whether there is more than the preview shows. -/
  overflow : Bool
  /-- The properties shown. -/
  properties : List PropertyPreview
  deriving DecidableEq

/-- The wire form of an object preview. -/
def ObjectPreview.codec : Codec ObjectPreview :=
  .record
    (.cons (.required "type" ValueType.codec) <| .cons (.optional "subtype" Subtype.codec) <|
      .cons (.optional "description" .string) <| .cons (.defaulted "overflow" .bool false) <|
      .cons (.defaulted "properties" (.list PropertyPreview.codec) []) .nil)
    (fun (type, subtype, description, overflow, properties, _) =>
      ⟨type, subtype, description, overflow, properties⟩)
    (fun p => (p.type, p.subtype, p.description, p.overflow, p.properties, ()))

/-- A value as the backend sends it. -/
structure RemoteObject where
  /-- Type of the value. -/
  type : ValueType := .undefined
  /-- Kind of object. -/
  subtype : Option Subtype := none
  /-- Class name of an object. -/
  className : Option String := none
  /-- The value itself, where JSON holds it. -/
  value : Option Json := none
  /-- The spelling of a primitive JSON cannot hold. -/
  unserializableValue : Option String := none
  /-- Text that stands for the value. -/
  description : Option String := none
  /-- Identifier of an object. -/
  objectId : Option ObjectId := none
  /-- Shortened contents. -/
  preview : Option ObjectPreview := none
  /-- Output of a custom formatter. -/
  customPreview : Option Json := none
  deriving Inhabited

/-- The wire form of a value. -/
def RemoteObject.codec : Codec RemoteObject :=
  .record
    (.cons (.required "type" ValueType.codec) <| .cons (.optional "subtype" Subtype.codec) <|
      .cons (.optional "className" .string) <| .cons (.optional "value" .json) <|
      .cons (.optional "unserializableValue" .string) <| .cons (.optional "description" .string) <|
      .cons (.optional "objectId" .string) <| .cons (.optional "preview" ObjectPreview.codec) <|
      .cons (.optional "customPreview" .json) .nil)
    (fun (type, subtype, className, value, unserializable, description, objectId, preview,
        customPreview, _) =>
      ⟨type, subtype, className, value, unserializable, description, objectId, preview,
        customPreview⟩)
    (fun o => (o.type, o.subtype, o.className, o.value, o.unserializableValue, o.description,
      o.objectId, o.preview, o.customPreview, ()))

/-- An argument of a call: an object, a JSON value or a spelling; nothing
at all is no value. -/
structure CallArgument where
  /-- The argument as JSON. -/
  value : Option Json := none
  /-- The spelling of a primitive JSON cannot hold. -/
  unserializableValue : Option String := none
  /-- Identifier of an object. -/
  objectId : Option ObjectId := none
  deriving Inhabited

/-- The wire form of an argument. -/
def CallArgument.codec : Codec CallArgument :=
  .record
    (.cons (.optional "value" .json) <| .cons (.optional "unserializableValue" .string) <|
      .cons (.optional "objectId" .string) .nil)
    (fun (value, unserializable, objectId, _) => ⟨value, unserializable, objectId⟩)
    (fun a => (a.value, a.unserializableValue, a.objectId, ()))

end Wire

end DebugClient
