import DebugClient.Double.Shortest
import DebugClient.Wire.RemoteObject
/-!
# Primitives — values held on this side

A value without an object identifier is held here. It came as JSON, or as
the spelling of what JSON cannot hold: a not-a-number, an infinity,
negative zero, or an integer of any size with an `n` behind it. The
spelling comes back out as it went in (`unserializable?`), and so does
the argument that passes the value to a call (`toArgument`).
-/

namespace DebugClient

/-- A primitive value. -/
inductive Primitive where
  /-- No value. -/
  | undefined
  /-- Null. -/
  | null
  /-- A truth value. -/
  | boolean (b : Bool)
  /-- A number. -/
  | number (d : Double)
  /-- A text. -/
  | string (s : String)
  /-- An integer of any size. -/
  | bigint (n : Int)
  /-- A JSON array or object that was returned by value. -/
  | json (j : Json)
  deriving Inhabited

namespace Primitive

/-! ## Spellings -/

/-- The spelling of a number JSON cannot hold. -/
def spelling? (d : Double) : Option String :=
  if d.isNaN then some "NaN"
  else if d = Double.infinity then some "Infinity"
  else if d = Double.negInfinity then some "-Infinity"
  else if d = Double.negZero then some "-0"
  else none

/-- The number of a spelling. -/
def ofSpelling? (s : String) : Option Double :=
  if s = "NaN" then some Double.nan
  else if s = "Infinity" then some Double.infinity
  else if s = "-Infinity" then some Double.negInfinity
  else if s = "-0" then some Double.negZero
  else none

/-- Digits with underscores among them, but none in front. -/
def naturalDigits? (cs : List Char) : Option Nat :=
  match cs with
  | [] => none
  | '_' :: _ => none
  | cs =>
    if cs.all fun c => c.isDigit || c = '_' then
      some ((cs.filter (· ≠ '_')).foldl (fun acc c => 10 * acc + (c.toNat - '0'.toNat)) 0)
    else none

/-- The integer of a decimal text: a sign if there is one, then digits. -/
def integer? (cs : List Char) : Option Int :=
  match cs with
  | '-' :: rest => (naturalDigits? rest).map fun n => -(n : Int)
  | '+' :: rest => (naturalDigits? rest).map fun n => (n : Int)
  | cs => (naturalDigits? cs).map fun n => (n : Int)

/-- The integer of a spelling: a decimal text with an `n` behind it. -/
def bigint? (s : String) : Option Int :=
  match s.toList.reverse with
  | 'n' :: rest => integer? rest.reverse
  | _ => none

/-! ## From the wire -/

/-- A JSON value as a primitive. -/
def ofJson : Json → Primitive
  | .null => .null
  | .bool b => .boolean b
  | .int n => .number (Double.ofInt n)
  | .double d => .number d
  | .str s => .string s
  | j => .json j

/-- The primitive of a value without an object identifier. A spelling that
is none is a text. -/
def ofRemote (o : Wire.RemoteObject) : Primitive :=
  match o.unserializableValue with
  | some s =>
    match ofSpelling? s with
    | some d => .number d
    | none =>
      if o.type = .bigint then
        match bigint? s with
        | some n => .bigint n
        | none => .string s
      else .string s
  | none =>
    match o.value with
    | some j => ofJson j
    | none => if o.subtype = some .null then .null else .undefined

/-! ## Readings -/

/-- The type of a primitive. -/
def type : Primitive → ValueType
  | .undefined => .undefined
  | .null => .object
  | .json _ => .object
  | .boolean _ => .boolean
  | .number _ => .number
  | .string _ => .string
  | .bigint _ => .bigint

/-- The primitive as JSON, if JSON holds it. -/
def toJson? : Primitive → Option Json
  | .undefined => none
  | .bigint _ => none
  | .null => some .null
  | .boolean b => some (.bool b)
  | .number d => if (spelling? d).isSome then none else some (.double d)
  | .string s => some (.str s)
  | .json j => some j

/-- The spelling of a primitive JSON cannot hold. -/
def unserializable? : Primitive → Option String
  | .number d => spelling? d
  | .bigint n => some s!"{n}n"
  | _ => none

mutual

/-- The text a JSON value turns into: nothing for null, items joined by
commas, and a fixed text for an object. -/
def jsonText : Json → String
  | .null => ""
  | .bool b => if b then "true" else "false"
  | .int n => (Double.ofInt n).toText
  | .double d => d.toText
  | .str s => s
  | .arr items => ",".intercalate (jsonTexts items)
  | .obj _ => "[object Object]"

/-- The texts of array items. -/
def jsonTexts : List Json → List String
  | [] => []
  | j :: rest => jsonText j :: jsonTexts rest

end

/-- The text a primitive turns into in the debugged program. -/
def toText : Primitive → String
  | .undefined => "undefined"
  | .null => "null"
  | .boolean b => if b then "true" else "false"
  | .number d => d.toText
  | .string s => s
  | .bigint n => toString n
  | .json j => jsonText j

/-! ## Arguments -/

/-- The argument that passes a value on as it came: by its spelling, its
identifier or its JSON. -/
def argumentOfRemote (o : Wire.RemoteObject) : Wire.CallArgument :=
  match o.unserializableValue, o.objectId with
  | some s, _ => { unserializableValue := some s }
  | none, some id => { objectId := some id }
  | none, none => if o.type = .undefined then {} else { value := some (o.value.getD .null) }

/-- The argument that passes a primitive. -/
def toArgument (p : Primitive) : Wire.CallArgument :=
  match p.unserializable? with
  | some s => { unserializableValue := some s }
  | none => { value := p.toJson? }

/-- A spelling reads back as the number it is the spelling of. -/
theorem ofSpelling?_spelling? {d : Double} {s : String} (h : spelling? d = some s)
    (hd : d.isNaN = false) : ofSpelling? s = some d := by
  unfold spelling? at h
  rw [hd] at h
  split at h
  · contradiction
  · split at h
    · rename_i h'
      obtain rfl := Option.some.inj h
      subst h'
      decide
    · split at h
      · rename_i h'
        obtain rfl := Option.some.inj h
        subst h'
        decide
      · split at h
        · rename_i h'
          obtain rfl := Option.some.inj h
          subst h'
          decide
        · simp at h

end Primitive

end DebugClient
