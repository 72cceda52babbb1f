import DebugClient.Wire.Codec
import Mathlib.Data.List.Nodup
/-!
# Codecs — what has been read reads the same again

The law goes part by part. A value *rereads* when its written form reads
as that value. A sequence, an enumeration and a record reread when their
parts do; a record also needs the names of its fields to differ, since
its members are put in name order and found again by name.

One thing a field cannot leave to its codec alone: an optional field
takes null for an absent value, so a value that is there must not be
written as null. `Codec.Lawful` has both halves.
-/

namespace DebugClient

namespace Json

variable {name : String} {value : Option Json} {row : List (String × Option Json)}

/-- Of members with distinct names every one is found in the object, and
what was there before under other names as well. -/
theorem lookup_foldl_insertMember {members : List (String × Json)}
    (distinct : (members.map (·.1)).Nodup) (before : List (String × Json)) (name : String) :
    (members.foldl (fun acc m => insertMember m.1 m.2 acc) before).lookup name
      = (members.lookup name).or (before.lookup name) := by
  induction members generalizing before with
  | nil => simp
  | cons m rest ih =>
    obtain ⟨n, v⟩ := m
    simp only [List.map_cons, List.nodup_cons] at distinct
    rw [List.foldl_cons, ih distinct.2, List.lookup_cons]
    by_cases same : name = n
    · subst same
      have notLater : rest.lookup name = none := by
        rw [List.lookup_eq_none_iff]
        intro m hm
        have other : name ≠ m.1 := fun h => distinct.1 (h ▸ List.mem_map_of_mem hm)
        simpa using other
      simp [notLater, lookup_insertMember_self]
    · simp [beq_eq_false_iff_ne.mpr same, lookup_insertMember_of_ne same]

/-- A record's members are the ones present, each found under its name. -/
theorem lookup_present (distinct : (row.map (·.1)).Nodup) (hm : (name, value) ∈ row) :
    (row.filterMap fun m => m.2.map (m.1, ·)).lookup name = value := by
  induction row with
  | nil => simp at hm
  | cons m rest ih =>
    obtain ⟨n, v⟩ := m
    simp only [List.map_cons, List.nodup_cons] at distinct
    rcases List.mem_cons.mp hm with here | later
    · obtain ⟨rfl, rfl⟩ := Prod.mk.inj here
      cases value with
      | some v => simp
      | none =>
        -- A member that is left out must not be found further on.
        have notLater : (rest.filterMap fun m => m.2.map (m.1, ·)).lookup name = none := by
          rw [List.lookup_eq_none_iff]
          intro m hm
          obtain ⟨m', hm', made⟩ := List.mem_filterMap.mp hm
          obtain ⟨v, -, rfl⟩ := Option.map_eq_some_iff.mp made
          have other : name ≠ m'.1 := fun h => distinct.1 (h ▸ List.mem_map_of_mem hm')
          simpa using other
        simpa using notLater
    · have other : name ≠ n := fun h => distinct.1 (h ▸ List.mem_map_of_mem later)
      cases v with
      | none => simpa using ih distinct.2 later
      | some v => simpa [List.lookup_cons, beq_eq_false_iff_ne.mpr other] using ih distinct.2 later

/-- Names stay distinct where some members are left out. -/
theorem present_nodup (distinct : (row.map (·.1)).Nodup) :
    ((row.filterMap fun m => m.2.map (m.1, ·)).map (·.1)).Nodup := by
  have sub : List.Sublist ((row.filterMap fun m => m.2.map (m.1, ·)).map (·.1))
      (row.map (·.1)) := by
    induction row with
    | nil => simp
    | cons m rest ih =>
      have ih := ih (List.nodup_cons.mp distinct).2
      cases h : m.2 with
      | none => simpa [h] using ih.cons m.1
      | some v => simpa [h] using ih.cons_cons m.1
  exact distinct.sublist sub

/-- **Every member of a record is found under its name.** -/
theorem record_member (distinct : (row.map (·.1)).Nodup) (hm : (name, value) ∈ row) :
    (record row).member? name = value := by
  rw [record, object, member?_obj, lookup_foldl_insertMember (present_nodup distinct),
    lookup_present distinct hm]
  simp

/-- A record is an object. -/
theorem record_eq_obj (row : List (String × Option Json)) :
    ∃ members, record row = .obj members := ⟨_, rfl⟩

end Json

namespace Codec

variable {α β ρ : Type}

/-! ## Values that reread -/

/-- The written form of a value reads as that value. -/
def Rereads (c : Codec α) (a : α) : Prop := c.read (c.write a) = some a

/-- What is read rereads, and null is written for null alone. -/
class Lawful (c : Codec α) : Prop where
  /-- What has been read reads the same again. -/
  stable : c.Stable
  /-- A value that was there is not written as null. -/
  present : ∀ j a, j ≠ .null → c.read j = some a → c.write a ≠ .null

/-- A codec that never writes null needs only the one law. -/
theorem Lawful.of_stable {c : Codec α} (stable : c.Stable) (present : ∀ a, c.write a ≠ .null) :
    Lawful c :=
  ⟨stable, fun _ a _ _ => present a⟩

instance : Lawful json where
  stable := stable_json
  present := by
    intro j a some read
    obtain rfl : j = a := by simpa [json] using read
    exact some

instance : Lawful string := .of_stable stable_string (by simp [string])

instance : Lawful bool := .of_stable stable_bool (by simp [bool])

instance : Lawful double := .of_stable stable_double (by simp [double])

instance (low high : Int) : Lawful (intWithin low high) := by
  refine .of_stable ?_ (by simp [intWithin])
  intro j a read
  cases j with
  | int n =>
    simp only [intWithin, Option.ite_none_right_eq_some, Option.some.injEq] at read ⊢
    obtain ⟨within, rfl⟩ := read
    simpa using within
  | _ => simp [intWithin] at read

instance (bound : Nat) : Lawful (natBelow bound) := by
  refine .of_stable ?_ (by simp [natBelow])
  intro j a read
  cases j with
  | int n =>
    simp only [natBelow, Option.ite_none_right_eq_some, Option.some.injEq] at read
    obtain ⟨⟨-, below⟩, rfl⟩ := read
    exact natBelow_read_nat below
  | _ => simp [natBelow] at read

instance : Lawful nat32 := inferInstanceAs (Lawful (natBelow _))

instance : Lawful nat64 := inferInstanceAs (Lawful (natBelow _))

instance : Lawful int64 := inferInstanceAs (Lawful (intWithin _ _))

/-! ## Sequences and enumerations -/

theorem stable_list {c : Codec α} (stable : c.Stable) : (list c).Stable := by
  intro j as read
  cases j with
  | arr items =>
    simp only [list] at read ⊢
    induction items generalizing as with
    | nil =>
      obtain rfl : [] = as := by simpa using read
      rfl
    | cons j rest ih =>
      simp only [List.mapM_cons, Option.bind_eq_bind, Option.bind_eq_some_iff,
        Option.pure_def, Option.some.injEq] at read
      obtain ⟨a, first, as, others, rfl⟩ := read
      simp [stable j a first, ih as others]
  | _ => simp [list] at read

instance (c : Codec α) [Lawful c] : Lawful (list c) :=
  .of_stable (stable_list Lawful.stable) (by simp [list])

/-- Every value of an enumeration is the one its word is for. -/
def Spelled (all : List α) (spelling : α → String) : Prop :=
  ∀ a, all.find? (fun b => spelling b == spelling a) = some a

theorem rereads_enumeration {all : List α} {spelling : α → String}
    (spelled : Spelled all spelling) {unknown : Option α} (a : α) :
    (enumeration all spelling unknown).Rereads a := by
  simp [Rereads, enumeration, word?, spelled a]

theorem lawful_enumeration {all : List α} {spelling : α → String}
    (spelled : Spelled all spelling) {unknown : Option α} :
    Lawful (enumeration all spelling unknown) :=
  .of_stable (fun _ a _ => rereads_enumeration spelled a) (by simp [enumeration])

/-! ## Fields -/

/-- A field that rereads what it has read, whether it was there or not. -/
class Field.Lawful (f : Field α) : Prop where
  /-- What has been read reads the same again. -/
  stable : ∀ j a, f.read j = some a → f.read (f.write a) = some a

/-- What an optional field reads is nothing, or a value that was there. -/
theorem Field.readOptional_eq_some {c : Codec α} {j : Option Json} {a : Option α}
    (read : Field.readOptional c j = some a) :
    (a = none ∧ (j = none ∨ j = some .null)) ∨
      ∃ j' b, j = some j' ∧ j' ≠ .null ∧ a = some b ∧ c.read j' = some b := by
  rcases j with _ | j
  · exact .inl ⟨by simpa [readOptional] using read.symm, .inl rfl⟩
  · by_cases null : j = .null
    · subst null
      exact .inl ⟨by simpa [readOptional] using read.symm, .inr rfl⟩
    · have there : (c.read j).map some = some a := by
        cases j <;> first | exact absurd rfl null | exact read
      obtain ⟨b, hb, rfl⟩ := Option.map_eq_some_iff.mp there
      exact .inr ⟨j, b, rfl, null, rfl, hb⟩

/-- A value that is there is read as one. -/
theorem Field.readOptional_some {c : Codec α} {j : Json} (there : j ≠ .null) :
    Field.readOptional c (some j) = (c.read j).map some := by
  cases j <;> first | exact absurd rfl there | rfl

/-- Reading an optional value back, written in any way that writes a
value that is there by its codec and reads as nothing otherwise. -/
theorem Field.readOptional_stable (c : Codec α) [Codec.Lawful c]
    (write : Option α → Option Json) (given : ∀ a, write (some a) = some (c.write a))
    (absent : readOptional c (write none) = some none) {j : Option Json} {a : Option α}
    (read : readOptional c j = some a) : readOptional c (write a) = some a := by
  rcases readOptional_eq_some read with ⟨rfl, -⟩ | ⟨j, b, -, there, rfl, first⟩
  · exact absent
  -- Were the value written as null, it would be read as absent.
  · rw [given, readOptional_some (Codec.Lawful.present j b there first),
      Codec.Lawful.stable j b first]
    rfl

instance (name : String) (c : Codec α) [Lawful c] : Field.Lawful (.required name c) where
  stable := by
    intro j a read
    obtain ⟨j, -, first⟩ := Option.bind_eq_some_iff.mp read
    exact Lawful.stable j a first

instance (name : String) (c : Codec α) [Lawful c] : Field.Lawful (.optional name c) where
  stable := fun _ _ read => Field.readOptional_stable c _ (fun _ => rfl) rfl read

instance (name : String) (c : Codec α) [Lawful c] : Field.Lawful (.trailing name c) where
  stable := fun _ _ read => Field.readOptional_stable c _ (fun _ => rfl) rfl read

instance (name : String) (hasDefault : Bool) (c : Codec α) [Lawful c] :
    Field.Lawful (.nullable name hasDefault c) where
  stable := fun _ _ read => Field.readOptional_stable c _ (fun _ => rfl) rfl read

/-- A default has to reread like a value that was read. -/
theorem Field.lawful_defaulted (name : String) {c : Codec α} [Codec.Lawful c] {default : α}
    (rereads : c.Rereads default) : Field.Lawful (.defaulted name c default) where
  stable := by
    intro j a read
    rcases j with _ | j
    · obtain rfl : default = a := by simpa [defaulted] using read
      exact rereads
    · exact Codec.Lawful.stable j a read

instance (name : String) (b : Bool) : Field.Lawful (.defaulted name .bool b) :=
  Field.lawful_defaulted name rfl

instance (name : String) (s : String) : Field.Lawful (.defaulted name .string s) :=
  Field.lawful_defaulted name rfl

instance (name : String) (c : Codec α) [Lawful c] : Field.Lawful (.defaulted name (.list c) []) :=
  Field.lawful_defaulted name rfl

/-! ## Records -/

/-- The values of a record's fields are found again among any members
that hold their written forms. -/
def Fields.Rereads (fs : Fields ρ) (r : ρ) : Prop :=
  ∀ row, (∀ m ∈ fs.write r, row.lookup m.1 = m.2) → fs.read row = some r

/-- Fields that reread what they have read. -/
class Fields.Lawful (fs : Fields ρ) : Prop where
  /-- What has been read is found again. -/
  stable : ∀ row r, fs.read row = some r → fs.Rereads r
  /-- The members written are those of the layout. -/
  names : ∀ r, (fs.write r).map (·.1) = fs.layout.map (·.1)

instance : Fields.Lawful .nil where
  stable := fun _ _ _ _ _ => rfl
  names := fun _ => rfl

theorem Fields.read_cons_eq_some {f : Field α} {fs : Fields ρ} {row : List (String × Json)}
    {a : α} {r : ρ} :
    (Fields.cons f fs).read row = some (a, r)
      ↔ f.read (row.lookup f.name) = some a ∧ fs.read row = some r := by
  simp only [cons]
  split <;> simp_all

theorem Fields.rereads_cons {f : Field α} {fs : Fields ρ} {a : α} {r : ρ}
    (first : f.read (f.write a) = some a) (others : fs.Rereads r) :
    (Fields.cons f fs).Rereads (a, r) := by
  intro row found
  have here : row.lookup f.name = f.write a := found (f.name, f.write a) (by simp [cons])
  have rest : fs.read row = some r :=
    others row fun m hm => found m (by simp [cons, hm])
  exact read_cons_eq_some.mpr ⟨here ▸ first, rest⟩

instance (f : Field α) (fs : Fields ρ) [Field.Lawful f] [Fields.Lawful fs] :
    Fields.Lawful (.cons f fs) where
  stable := by
    rintro row ⟨a, r⟩ read
    obtain ⟨first, others⟩ := Fields.read_cons_eq_some.mp read
    exact Fields.rereads_cons (Field.Lawful.stable _ _ first) (Fields.Lawful.stable row r others)
  names := fun r => by simp [Fields.cons, Fields.Lawful.names]

variable {fs : Fields ρ} {make : ρ → α} {parts : α → ρ}

/-- What a record is read from: the values of its fields. -/
theorem record_read_eq_some {j : Json} {a : α} :
    (record fs make parts).read j = some a
      ↔ ∃ row r, row? fs.layout j = some row ∧ fs.read row = some r ∧ make r = a := by
  simp [record, Option.bind_eq_some_iff, Option.map_eq_some_iff]

/-- The members of a written record, under the names of its fields. -/
theorem record_write_member [Fields.Lawful fs] (distinct : (fs.layout.map (·.1)).Nodup) {a : α}
    {name : String} {value : Option Json} (hm : (name, value) ∈ fs.write (parts a)) :
    ((record fs make parts).write a).member? name = value :=
  Json.record_member (by rwa [Fields.Lawful.names]) hm

theorem record_write_ne_null (a : α) : (record fs make parts).write a ≠ .null := by
  obtain ⟨members, h⟩ := Json.record_eq_obj (fs.write (parts a))
  simp [record, h]

/-- A record rereads if its fields do. -/
theorem rereads_record [Fields.Lawful fs] (distinct : (fs.layout.map (·.1)).Nodup) {a : α}
    (whole : make (parts a) = a) (rereads : fs.Rereads (parts a)) :
    (record fs make parts).Rereads a := by
  obtain ⟨members, written⟩ := Json.record_eq_obj (fs.write (parts a))
  have found : ∀ m ∈ fs.write (parts a), members.lookup m.1 = m.2 := by
    intro m hm
    have := Json.record_member (by rwa [Fields.Lawful.names]) hm
    rwa [written] at this
  exact record_read_eq_some.mpr
    ⟨members, parts a, by simp [record, written, row?], rereads members found, whole⟩

/-- **Records are lawful** where their fields are, with distinct names, and
a value's parts are the values its fields were read with. -/
theorem lawful_record [Fields.Lawful fs] (distinct : (fs.layout.map (·.1)).Nodup)
    (apart : ∀ r, parts (make r) = r) : Lawful (record fs make parts) := by
  refine .of_stable ?_ record_write_ne_null
  intro j a read
  obtain ⟨row, r, -, fields, rfl⟩ := record_read_eq_some.mp read
  refine rereads_record distinct (by rw [apart]) ?_
  rw [apart]
  exact Fields.Lawful.stable row r fields

end Codec

end DebugClient
