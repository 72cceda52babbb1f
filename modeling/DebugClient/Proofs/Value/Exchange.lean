import DebugClient.Value.Fresh
/-!
# Exchange — values that come and are handed back

A primitive comes as JSON, as a spelling, or as nothing at all, and is
handed back in the same three ways. Which of them is taken never confuses
two values: what is sent for a primitive reads back as it, to the bit
(`comes_back_iff`). And to hand a value on as it came, or as the primitive
that was made of it, passes a call the same value, exactly if what came is
well formed (`passed_alike_iff`).

There is one not-a-number for a program, whatever its bits
(`Double.canonical`).
-/

namespace DebugClient

/-- A number, with one not-a-number for all. -/
def Double.canonical (d : Double) : Double := if d.isNaN then nan else d

namespace Primitive

/-! ## Spellings -/

/-- Digits are read as the number they write. -/
theorem naturalDigits?_of_digits {ds : List Char} (found : ds ≠ [])
    (digits : ∀ c ∈ ds, c.isDigit = true) :
    naturalDigits? ds = some (Nat.ofDigitChars 10 ds 0) := by
  have plain : ∀ c ∈ ds, c ≠ '_' := by
    rintro c hc rfl
    exact absurd (digits _ hc) (by decide)
  have only : ds.filter (· ≠ '_') = ds := List.filter_eq_self.2 (by simpa using plain)
  unfold naturalDigits?
  split
  · exact absurd rfl found
  · exact absurd rfl (plain _ (.head _))
  · rw [if_pos (List.all_eq_true.2 fun c hc => by simp [digits c hc]), only]
    rfl

/-- The text of an integer is read as that integer. -/
theorem integer?_repr (n : Int) : integer? n.repr.toList = some n := by
  have digits : ∀ {m : Nat}, ∀ c ∈ Nat.toDigits 10 m, c.isDigit = true := fun c hc =>
    Nat.isDigit_of_mem_toDigits (by decide) (by decide) hc
  have natural : ∀ m : Nat, naturalDigits? (Nat.toDigits 10 m) = some m := by
    intro m
    rw [naturalDigits?_of_digits Nat.toDigits_ne_nil digits, Nat.ofDigitChars_ten_toDigits]
  cases n with
  | ofNat m =>
    rw [Int.repr, Nat.toList_repr]
    have natural := natural m
    have digits := digits (m := m)
    generalize Nat.toDigits 10 m = ds at natural digits
    -- A digit is no sign.
    unfold integer?
    split
    · exact absurd (digits _ (.head _)) (by decide)
    · exact absurd (digits _ (.head _)) (by decide)
    · rw [natural]
      rfl
  | negSucc m =>
    have text : (Int.negSucc m).repr.toList = '-' :: Nat.toDigits 10 (m + 1) := by
      simp [Int.repr]
    rw [text, integer?, natural]
    rfl

theorem bigint?_spelled (n : Int) : bigint? s!"{n}n" = some n := by
  have text : (s!"{n}n").toList.reverse = 'n' :: n.repr.toList.reverse := by
    simp [toString]
  simp only [bigint?, text, List.reverse_reverse, integer?_repr]

/-- No spelling of a number ends as that of an integer does. -/
theorem ofSpelling?_spelled (n : Int) : ofSpelling? s!"{n}n" = none := by
  have other : ∀ {spelling : String}, spelling.toList.getLast? ≠ some 'n' → s!"{n}n" ≠ spelling := by
    rintro spelling last rfl
    simp [toString] at last
  rw [ofSpelling?, if_neg (other (by decide)), if_neg (other (by decide)),
    if_neg (other (by decide)), if_neg (other (by decide))]

/-- A spelling reads as the number it is the spelling of. -/
theorem ofSpelling?_of_spelling {d : Double} {s : String} (h : spelling? d = some s) :
    ofSpelling? s = some d.canonical := by
  cases nan : d.isNaN with
  | false =>
    rw [ofSpelling?_spelling? h nan, Double.canonical, nan]
    rfl
  | true =>
    rw [spelling?, nan] at h
    obtain rfl := Option.some.inj h
    rw [Double.canonical, nan]
    rfl

/-- A number that is not spelled is a number. -/
theorem canonical_of_unspelled {d : Double} (h : spelling? d = none) : d.canonical = d := by
  refine if_neg fun nan => ?_
  rw [spelling?, nan] at h
  cases h

/-! ## There and back -/

/-- A primitive, with one not-a-number for all. -/
def canonical : Primitive → Primitive
  | .number d => .number d.canonical
  | p => p

/-- The object that is sent for a primitive: with its spelling, or as JSON
if it has none. -/
def toRemote (p : Primitive) : Wire.RemoteObject where
  type := p.type
  subtype := match p with
    | .null => some .null
    | _ => none
  value := match p.unserializable? with
    | some _ => none
    | none => p.toJson?
  unserializableValue := p.unserializable?

/-- Primitives that come: those of objects, and those of JSON. -/
def Comes (p : Primitive) : Prop := (∃ o, ofRemote o = p) ∨ ∃ j, ofJson j = p

/-- A JSON value that holds others. -/
inductive Holds : Json → Prop where
  /-- An array does. -/
  | arr (items : List Json) : Holds (.arr items)
  /-- An object does. -/
  | obj (members : List (String × Json)) : Holds (.obj members)

variable {p : Primitive} {j : Json}

theorem holds_of_ofJson {j' : Json} (h : ofJson j' = .json j) : Holds j := by
  cases j' <;> cases h
  · exact .arr _
  · exact .obj _

theorem ofJson_of_holds (h : Holds j) : ofJson j = .json j := by
  cases h <;> rfl

theorem holds_of_ofRemote {o : Wire.RemoteObject} (h : ofRemote o = .json j) : Holds j := by
  unfold ofRemote at h
  split at h
  · -- A spelling is a number, an integer or a text.
    split at h
    · cases h
    · split at h
      · split at h <;> cases h
      · cases h
  · split at h
    · exact holds_of_ofJson h
    · split at h <;> cases h

/-- **What is sent for a primitive reads back** as it. -/
theorem ofRemote_toRemote (h : ∀ j, p = .json j → Holds j) : ofRemote p.toRemote = p.canonical := by
  cases p with
  | undefined => rfl
  | null => rfl
  | boolean b => rfl
  | string s => rfl
  | number d =>
    cases spelled : spelling? d with
    | some s =>
      have number := ofSpelling?_of_spelling spelled
      simp only [ofRemote, toRemote, unserializable?, spelled, number, canonical]
    | none =>
      have number := canonical_of_unspelled spelled
      simp [ofRemote, toRemote, unserializable?, toJson?, spelled, ofJson, canonical, number]
  | bigint n =>
    have unlike := ofSpelling?_spelled n
    have integer := bigint?_spelled n
    simp [ofRemote, toRemote, unserializable?, type, canonical, unlike, integer, -Int.toString_eq_repr]
  | json j => exact ofJson_of_holds (h j rfl)

/-- Every primitive comes, but for JSON that holds nothing. -/
theorem comes_iff : p.Comes ↔ ∀ j, p = .json j → Holds j := by
  constructor
  · rintro (⟨o, rfl⟩ | ⟨j', rfl⟩) j is
    · exact holds_of_ofRemote is
    · exact holds_of_ofJson is
  · intro holds
    cases p with
    | number d => exact .inr ⟨.double d, rfl⟩
    | _ => exact .inl ⟨_, ofRemote_toRemote holds⟩

theorem spelling?_canonical (d : Double) : spelling? d.canonical = spelling? d := by
  cases nan : d.isNaN with
  | false => rw [Double.canonical, nan, if_neg Bool.false_ne_true]
  | true =>
    have spelled : spelling? d = some "NaN" := by
      rw [spelling?, nan]
      rfl
    rw [Double.canonical, nan, if_pos rfl, spelled]
    rfl

/-- What is made of a primitive that reads back is what is made of it here,
but for its text: JSON that comes has none. -/
theorem ofRemote_eq_ofPrimitive_iff (back : ofRemote p.toRemote = p.canonical) :
    LocalPrimitive.ofRemote p.toRemote = .ofPrimitive p.canonical ↔
      ∀ j, p = .json j → jsonText j = "" := by
  rw [LocalPrimitive.ofRemote, back]
  cases p with
  | number d =>
    simp [LocalPrimitive.ofPrimitive, toRemote, canonical, type, unserializable?,
      spelling?_canonical, Script.nonEmpty]
  | json j =>
    simp [LocalPrimitive.ofPrimitive, toRemote, canonical, type, unserializable?, toText,
      Script.nonEmpty]
  | _ =>
    simp [LocalPrimitive.ofPrimitive, toRemote, canonical, type, unserializable?, toText,
      Script.nonEmpty]

/-- **A primitive comes back** if it is sent, by its spelling, as JSON or as
nothing, exactly if it is one that comes at all. What is made of it then is
what is made of it here, but that an array or object has no text. -/
theorem comes_back_iff (p : Primitive) :
    (ofRemote p.toRemote = p.canonical ↔ p.Comes) ∧
      (LocalPrimitive.ofRemote p.toRemote = .ofPrimitive p.canonical ↔
        p.Comes ∧ ∀ j, p = .json j → jsonText j = "") := by
  have back : ofRemote p.toRemote = p.canonical ↔ p.Comes := by
    rw [comes_iff]
    refine ⟨?_, ofRemote_toRemote⟩
    rintro same j rfl
    exact holds_of_ofRemote same
  refine ⟨back, fun same => ?_, fun ⟨comes, text⟩ => ?_⟩
  · have read : ofRemote p.toRemote = p.canonical := congrArg LocalPrimitive.value same
    exact ⟨back.1 read, (ofRemote_eq_ofPrimitive_iff read).1 same⟩
  · exact (ofRemote_eq_ofPrimitive_iff (back.2 comes)).2 text

end Primitive

/-! ## What a call is passed -/

namespace Json

mutual

/-- A JSON value as a program has it: every number is a double. -/
def inDoubles : Json → Json
  | .int n => .double (Double.ofInt n).canonical
  | .double d => .double d.canonical
  | .arr items => .arr (itemsInDoubles items)
  | .obj members => .obj (membersInDoubles members)
  | j => j

/-- The items of an array. -/
def itemsInDoubles : List Json → List Json
  | [] => []
  | j :: rest => inDoubles j :: itemsInDoubles rest

/-- The members of an object. -/
def membersInDoubles : List (String × Json) → List (String × Json)
  | [] => []
  | (name, j) :: rest => (name, inDoubles j) :: membersInDoubles rest

end

end Json

/-- What a call is passed for an argument. -/
inductive Passed where
  /-- No value. -/
  | undefined
  /-- An object that is kept alive. -/
  | object (id : ObjectId)
  /-- A value that is read off its spelling, but is no number. -/
  | spelled (text : String)
  /-- A value that JSON holds, or a number. -/
  | json (j : Json)

/-- What a call is passed for an argument. The spelling of a number is that
number. -/
def Wire.CallArgument.passed (a : Wire.CallArgument) : Passed :=
  match a.unserializableValue, a.objectId, a.value with
  | some s, _, _ =>
    match Primitive.ofSpelling? s with
    | some d => .json (.double d)
    | none => .spelled s
  | none, some id, _ => .object id
  | none, none, some j => .json j.inDoubles
  | none, none, none => .undefined

/-- **A value without an identifier is well formed** if it says what it is in
one way. -/
inductive Wire.RemoteObject.WellFormed (o : Wire.RemoteObject) : Prop where
  /-- It is spelled. -/
  | spelled (s : String) (is : o.unserializableValue = some s)
  /-- It is there as JSON. -/
  | held (j : Json) (is : o.value = some j) (type : o.type ≠ .undefined)
  /-- It is null. -/
  | null (absent : o.value = none) (subtype : o.subtype = some .null) (type : o.type ≠ .undefined)
  /-- It is undefined. -/
  | undefined (absent : o.value = none) (subtype : o.subtype ≠ some .null)
    (type : o.type = .undefined)

namespace Wire.RemoteObject

variable {o : Wire.RemoteObject}

/-- JSON is not undefined. -/
theorem wellFormed_held_iff {j : Json} (spelled : o.unserializableValue = none)
    (held : o.value = some j) : o.WellFormed ↔ o.type ≠ .undefined := by
  refine ⟨fun formed => ?_, .held j held⟩
  cases formed with
  | spelled s is => rw [spelled] at is; cases is
  | held _ _ type => exact type
  | null absent => rw [held] at absent; cases absent
  | undefined absent => rw [held] at absent; cases absent

/-- What is not there is either null or undefined. -/
theorem wellFormed_absent_iff (spelled : o.unserializableValue = none) (absent : o.value = none) :
    o.WellFormed ↔ (o.subtype = some .null ↔ o.type ≠ .undefined) := by
  constructor
  · rintro (⟨s, is⟩ | ⟨j, is, _⟩ | ⟨_, null, type⟩ | ⟨_, null, type⟩)
    · rw [spelled] at is; cases is
    · rw [absent] at is; cases is
    · exact iff_of_true null type
    · exact iff_of_false null (not_not_intro type)
  · intro either
    by_cases null : o.subtype = some .null
    · exact .null absent null (either.1 null)
    · exact .undefined absent null (Decidable.of_not_not fun type => null (either.2 type))

end Wire.RemoteObject

namespace Primitive

/-- A number is passed as that number, by its spelling or as JSON. -/
theorem passed_number (d : Double) : (toArgument (.number d)).passed = .json (.double d.canonical) := by
  cases spelled : spelling? d with
  | some s =>
    have number := ofSpelling?_of_spelling spelled
    simp [toArgument, unserializable?, spelled, Wire.CallArgument.passed, number]
  | none =>
    simp [toArgument, unserializable?, spelled, toJson?, Wire.CallArgument.passed, Json.inDoubles]

/-- JSON is passed as it came. -/
theorem passed_ofJson (j : Json) : (toArgument (ofJson j)).passed = .json j.inDoubles := by
  cases j with
  | int n => rw [ofJson, passed_number, Json.inDoubles]
  | double d => rw [ofJson, passed_number, Json.inDoubles]
  | _ => rfl

end Primitive

/-- What is made of a value without an identifier is handed back by its
spelling, or as its primitive. -/
theorem Value.toArgument_ofRemote {o : Wire.RemoteObject} (unnamed : o.objectId = none) (k : Key) :
    (ofRemote o k).1.toArgument =
      match o.unserializableValue with
      | some s => { unserializableValue := some s }
      | none => (Primitive.ofRemote o).toArgument := by
  rw [ofRemote_primitive unnamed]
  rfl

/-- **A value that is handed on** passes a call the same, as it came and as the
primitive that was made of it, exactly if it is well formed. -/
theorem passed_alike_iff {o : Wire.RemoteObject} (unnamed : o.objectId = none) (k : Key) :
    (Value.ofRemote o k).1.toArgument.passed = (Primitive.argumentOfRemote o).passed ↔
      o.WellFormed := by
  rw [Value.toArgument_ofRemote unnamed, Primitive.argumentOfRemote, unnamed]
  cases spelled : o.unserializableValue with
  | some s => exact iff_of_true rfl (.spelled s spelled)
  | none =>
    dsimp only
    cases held : o.value with
    | some j =>
      have made : Primitive.ofRemote o = Primitive.ofJson j := by
        simp only [Primitive.ofRemote, spelled, held]
      rw [made, Primitive.passed_ofJson, Wire.RemoteObject.wellFormed_held_iff spelled held]
      by_cases type : o.type = .undefined
      · rw [if_pos type]
        exact iff_of_false nofun (not_not_intro type)
      · rw [if_neg type]
        exact iff_of_true rfl type
    | none =>
      have made : Primitive.ofRemote o = if o.subtype = some .null then .null else .undefined := by
        simp only [Primitive.ofRemote, spelled, held]
      rw [made, Wire.RemoteObject.wellFormed_absent_iff spelled held]
      by_cases null : o.subtype = some .null <;> by_cases type : o.type = .undefined
      · rw [if_pos null, if_pos type]
        exact iff_of_false nofun fun either => either.1 null type
      · rw [if_pos null, if_neg type]
        exact iff_of_true rfl (iff_of_true null type)
      · rw [if_neg null, if_pos type]
        exact iff_of_true rfl (iff_of_false null (not_not_intro type))
      · rw [if_neg null, if_neg type]
        exact iff_of_false nofun fun either => null (either.2 type)

/-- An integer that no double is. -/
def oddInteger : Wire.RemoteObject := { type := .number, value := some (.int 9007199254740993) }

/-- As it came it is handed on as that integer, and as a primitive as the
double next to it. -/
theorem passed_alike_rounded :
    oddInteger.objectId = none ∧ oddInteger.WellFormed ∧
      (Value.ofRemote oddInteger ⟨0, 0⟩).1.toArgument.value = some (.double ⟨0x4340000000000000⟩) ∧
      (Primitive.argumentOfRemote oddInteger).value = some (.int 9007199254740993) ∧
      (Value.ofRemote oddInteger ⟨0, 0⟩).1.toArgument.passed =
        (Primitive.argumentOfRemote oddInteger).passed := by
  have formed : oddInteger.WellFormed := .held _ rfl (by decide)
  exact ⟨rfl, formed, rfl, rfl, (passed_alike_iff rfl _).2 formed⟩

end DebugClient
