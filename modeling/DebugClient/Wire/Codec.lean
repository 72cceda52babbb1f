import DebugClient.Json.Basic
/-!
# Codecs — one description for both directions

A `Codec` reads a value off JSON and writes it back. A record is
described once, as its `Fields` in their order, and both directions come
from that description: `Codec.record`. A record is also read from an
array of its fields in order; the fields at the end that have a default
may be left off there.

`Codec.Stable` is the law every codec here keeps: what has been read,
written again, reads as the same value. It is stated per value read and
not for all values, as a value built otherwise may have no written form
of its own (an absent field and a null read alike).
-/

namespace DebugClient

/-- Reads and writes the values of a type. -/
structure Codec (α : Type) where
  /-- The value of a JSON form. -/
  read : Json → Option α
  /-- The JSON form of a value. -/
  write : α → Json

namespace Codec

variable {α β : Type}

/-- **What has been read reads the same again.** -/
def Stable (c : Codec α) : Prop := ∀ j a, c.read j = some a → c.read (c.write a) = some a

/-! ## Plain values -/

/-- Any JSON value, as it is. -/
def json : Codec Json := ⟨some, id⟩

/-- A text. -/
def string : Codec String := ⟨Json.str?, .str⟩

/-- A truth value. -/
def bool : Codec Bool := ⟨Json.bool?, .bool⟩

/-- An integer of a range. -/
def intWithin (low high : Int) : Codec Int where
  read
    | .int n => if low ≤ n ∧ n < high then some n else none
    | _ => none
  write := .int

/-- A natural number below a bound. -/
def natBelow (bound : Nat) : Codec Nat where
  read
    | .int n => if 0 ≤ n ∧ n.toNat < bound then some n.toNat else none
    | _ => none
  write n := .int n

theorem natBelow_read_nat {bound n : Nat} (h : n < bound) :
    (natBelow bound).read (.nat n) = some n := by
  simp [natBelow, Json.nat, h]

/-- A line or a column. -/
def nat32 : Codec Nat := natBelow 0x100000000

theorem nat32_read_nat {n : Nat} (h : n < 0x100000000) : nat32.read (.nat n) = some n :=
  natBelow_read_nat h

/-- A size or an index. -/
def nat64 : Codec Nat := natBelow 0x10000000000000000

/-- A numeric identifier. -/
def int64 : Codec Int := intWithin (-0x8000000000000000) 0x8000000000000000

/-- A number, written as a double however it came. -/
def double : Codec Double := ⟨Json.number?, .double⟩

/-- A sequence. -/
def list (c : Codec α) : Codec (List α) where
  read
    | .arr items => items.mapM c.read
    | _ => none
  write as := .arr (as.map c.write)

/-- The word of an enumeration: a text, or an object whose only member has
that name and no value. -/
def word? : Json → Option String
  | .str s => some s
  | .obj [(s, .null)] => some s
  | _ => none

/-- An enumeration by its words, with a value for unknown words if it has
one. -/
def enumeration (all : List α) (spelling : α → String) (unknown : Option α) : Codec α where
  read j := (word? j).bind fun w =>
    match all.find? fun a => spelling a == w with
    | some a => some a
    | none => unknown
  write a := .str (spelling a)

/-! ## Fields -/

/-- A field of a record. -/
structure Field (α : Type) where
  /-- The member name. -/
  name : String
  /-- Whether an array may leave the field off. -/
  hasDefault : Bool
  /-- The value of the field, from its form if it is present. -/
  read : Option Json → Option α
  /-- The form of the field, if it is written at all. -/
  write : α → Option Json

namespace Field

/-- A field that has to be there. -/
def required (name : String) (c : Codec α) : Field α :=
  ⟨name, false, fun j => j.bind c.read, fun a => some (c.write a)⟩

/-- Reads a field that may be absent or null. -/
def readOptional (c : Codec α) : Option Json → Option (Option α)
  | none => some none
  | some .null => some none
  | some j => (c.read j).map some

/-- A field that may be absent, and then is not written. -/
def optional (name : String) (c : Codec α) : Field (Option α) :=
  ⟨name, false, readOptional c, fun a => a.map c.write⟩

/-- An optional field that an array may leave off. -/
def trailing (name : String) (c : Codec α) : Field (Option α) :=
  ⟨name, true, readOptional c, fun a => a.map c.write⟩

/-- An optional field that is written as null where it is absent. -/
def nullable (name : String) (hasDefault : Bool) (c : Codec α) : Field (Option α) :=
  ⟨name, hasDefault, readOptional c, fun a => some ((a.map c.write).getD .null)⟩

/-- A field with a value of its own where it is absent. -/
def defaulted (name : String) (c : Codec α) (default : α) : Field α :=
  ⟨name, true, fun j => match j with | none => some default | some j => c.read j,
    fun a => some (c.write a)⟩

end Field

/-! ## Records -/

/-- The fields of a record, whose values make up a `ρ`. -/
structure Fields (ρ : Type) where
  /-- Names in order, each with whether an array may leave it off. -/
  layout : List (String × Bool)
  /-- The values, from the members present. -/
  read : List (String × Json) → Option ρ
  /-- The members of the values. -/
  write : ρ → List (String × Option Json)

namespace Fields

variable {ρ : Type}

/-- No fields. -/
def nil : Fields Unit := ⟨[], fun _ => some (), fun _ => []⟩

/-- A field in front of others. -/
def cons (f : Field α) (fs : Fields ρ) : Fields (α × ρ) where
  layout := (f.name, f.hasDefault) :: fs.layout
  read row :=
    match f.read (row.lookup f.name), fs.read row with
    | some a, some r => some (a, r)
    | _, _ => none
  write v := (f.name, f.write v.1) :: fs.write v.2

end Fields

/-- The members of a record: those of an object, or the items of an array
under the names of a layout. An array has no more items than there are
names, and what it leaves off has defaults. -/
def row? (layout : List (String × Bool)) : Json → Option (List (String × Json))
  | .obj members => some members
  | .arr items =>
    if items.length ≤ layout.length ∧ (layout.drop items.length).all (·.2) then
      some ((layout.map (·.1)).zip items)
    else none
  | _ => none

/-- A record of fields. -/
def record {ρ : Type} (fs : Fields ρ) (make : ρ → α) (parts : α → ρ) : Codec α where
  read j := (row? fs.layout j).bind fun row => (fs.read row).map make
  write a := Json.record (fs.write (parts a))

/-- The other side of a codec, through a pair of conversions. -/
def map (c : Codec α) (f : α → β) (g : β → α) : Codec β :=
  ⟨fun j => (c.read j).map f, fun b => c.write (g b)⟩

/-! ## Stability of plain values -/

theorem stable_json : Stable json := fun _ _ _ => rfl

theorem stable_string : Stable string := by
  intro j a h
  cases j <;> simp_all [string, Json.str?]

theorem stable_bool : Stable bool := by
  intro j a h
  cases j <;> simp_all [bool, Json.bool?]

theorem stable_double : Stable double := fun _ _ _ => rfl

end Codec

end DebugClient
