import DebugClient.Evaluation.Basic
import DebugClient.Value.Property
/-!
# Snapshots of values — what a front end shows of an object

A value is shown with what is known of it without asking the backend: its
kind and type, the text that describes it, and the form in which it goes
into a call. Properties, listings and outcomes are shown by their values.
-/

namespace DebugClient

namespace Primitive

/-- A number by its bits; every number that is not one is the same. -/
def numberSnapshot (d : Double) : Json := .str (if d.isNaN then "nan" else d.hex)

/-- A primitive under the name of its kind. -/
def snapshot : Primitive → Json
  | .undefined => .obj [("undefined", .bool true)]
  | .null => .obj [("null", .bool true)]
  | .boolean b => .obj [("boolean", .bool b)]
  | .number d => .obj [("number", numberSnapshot d)]
  | .string s => .obj [("string", .str s)]
  | .bigint n => .obj [("bigint", .str (toString n))]
  | .json j => .obj [("json", j)]

end Primitive

namespace Value

/-- The word for a kind of value. -/
def kindWord : Value → String
  | .handle _ => "handle"
  | .primitive _ => "primitive"
  | .scope _ _ => "scope"
  | .json _ => "local"

/-- The place of the scope whose variables a value holds. -/
def scopeSnapshot? : Value → Option Json
  | .scope _ ref => some (.arr [.nat ref.number, .orNull .str ref.callFrameId])
  | _ => none

/-- What is known of a value. -/
def snapshot (v : Value) : Json :=
  .record
    [("kind", some (.str v.kindWord)),
      ("type", some (.str v.type.spelling)),
      ("description", some (.orNull .str v.description)),
      ("hasChildren", some (.bool v.hasChildren)),
      ("nullish", some (.bool v.isNullish)),
      ("arrayLength", some (.nat v.arrayLength)),
      ("bufferLength", some (.nat v.bufferLength)),
      ("arg", some (Wire.CallArgument.codec.write v.toArgument)),
      ("scopeRef", v.scopeSnapshot?),
      ("subtype", v.subtype.map fun s => .str s.spelling),
      ("objectId", v.objectId.map .str),
      ("className", v.className.map .str),
      ("preview", v.preview.map Wire.ObjectPreview.codec.write),
      ("customPreview", v.customPreview),
      ("value", v.primitive?.map Primitive.snapshot),
      ("unserializable", v.unserializable?.map .str)]

end Value

namespace Property

/-- The attributes of a property, a letter each. -/
def flags (p : Property) : String :=
  String.ofList
    ([(p.enumerable, 'e'), (p.writable, 'w'), (p.isOwn, 'o'), (p.wasThrown, 't'),
      (p.isPrivate, 'p'), (p.isAccessor, 'a')].filterMap fun f => if f.1 then some f.2 else none)

/-- A property with those of its values it has. -/
def snapshot (p : Property) : Json :=
  .record
    [("name", some (.str p.name)), ("flags", some (.str p.flags)),
      ("value", p.value.map Value.snapshot), ("symbol", p.symbol.map Value.snapshot),
      ("getter", p.getter.map Value.snapshot), ("setter", p.setter.map Value.snapshot)]

/-- Properties in their order. -/
def snapshots (ps : List Property) : Json := .arr (ps.map snapshot)

end Property

namespace Listing

/-- A listing. -/
def snapshot (l : Listing) : Json :=
  .obj [("internal", .orNull Property.snapshots l.internal),
    ("properties", .orNull Property.snapshots l.properties)]

/-- The names a listing has, if it has properties at all. -/
def names (l : Listing) : Json :=
  .orNull (fun ps => .arr (ps.map fun p => .str p.name)) l.properties

end Listing

namespace EvaluationOptions

/-- Reads what to evaluate. What is left off is as for plain source text,
and so is a flag that is neither true nor false. -/
def ofSnapshot? (j : Json) : Option EvaluationOptions := do
  let flag (name : String) : Bool := ((j.member? name).bind Json.bool?).getD false
  let text? (name : String) : Option (Option String) :=
    match j.member? name with
    | none => some none
    | some .null => some none
    | some other => other.str?.map some
  return {
    expression := (← text? "expression").getD ""
    objectGroup := ← text? "objectGroup"
    includeCommandLineApi := flag "includeCommandLineAPI"
    silent := flag "silent"
    returnByValue := flag "returnByValue"
    generatePreview := flag "generatePreview"
    throwOnSideEffect := flag "throwOnSideEffect"
    timeout := (j.member? "timeout").bind Json.number?
    disableBreaks := flag "disableBreaks"
    replMode := flag "replMode"
    allowUnsafeEvalBlockedByCsp := flag "allowUnsafeEvalBlockedByCSP" }

end EvaluationOptions

/-- What came of an evaluation. -/
def Outcome.snapshot : Outcome → Json
  | .failed text => .obj [("error", .str text)]
  | .ran object details =>
    .obj [("exceptionDetails", .orNull Wire.ExceptionDetails.codec.write details),
      ("object", object.snapshot)]

/-- What came of a call. -/
def CallOutcome.snapshot (o : CallOutcome) : Json :=
  .obj [("object", .orNull Value.snapshot o.object), ("wasThrown", .bool o.threw)]

end DebugClient
