import DebugClient.Value.Extent
import Mathlib.Algebra.Group.Nat.Defs
import Mathlib.Data.List.TakeDrop
import Mathlib.Data.List.TakeWhile
/-!
# Extents — a length read back out of a description

A description is a class name with a length between marks behind it. It is
searched from the left, and what is found is the leftmost place where digits
stand between marks (`find?_eq_some_iff`). The name is free text and may have
marks and digits of its own, opened and never closed. But an opening mark is
neither a digit nor a closing mark, so no length begins in the name and ends
behind it (`Stands.of_append`).

So a name without a length of its own and the length that is written behind
it are both read back, whichever marks are used (`read_back`).
-/

namespace DebugClient

namespace Extent

variable {m m' : Marks} {cs ds front behind tail : List Char}

/-! ## Where a length stands -/

/-- **A length stands in a text**: digits between marks, with what is in front
of the opening mark and behind the closing one. -/
structure Stands (m : Marks) (cs front ds behind : List Char) : Prop where
  /-- The parts make up the text. -/
  parts : cs = front ++ m.opening :: (ds ++ m.closing :: behind)
  /-- There is a digit. -/
  found : ds ≠ []
  /-- There is nothing but digits. -/
  digits : ∀ d ∈ ds, d.isDigit = true

/-- **The leftmost length** in a text. -/
structure Leftmost (m : Marks) (cs front ds behind : List Char) : Prop extends
    Stands m cs front ds behind where
  /-- None stands further left. -/
  least : ∀ {front' ds' behind'}, Stands m cs front' ds' behind' → front.length ≤ front'.length

/-- A text has no length between these marks. -/
def Lacks (m : Marks) (cs : List Char) : Prop := ∀ front ds behind, ¬ Stands m cs front ds behind

/-- A class name has no length, between whichever marks. -/
def Plain (name : String) : Prop := ∀ m, Lacks m name.toList

theorem Marks.opening_ne_closing (m m' : Marks) : m.opening ≠ m'.closing := by
  cases m <;> cases m' <;> decide

theorem Marks.isDigit_opening (m : Marks) : m.opening.isDigit = false := by
  cases m <;> rfl

theorem Marks.isDigit_closing (m : Marks) : m.closing.isDigit = false := by
  cases m <;> rfl

theorem Marks.round_ne_square : Marks.round ≠ .square := by
  decide

theorem Marks.opening_inj : m.opening = m'.opening ↔ m = m' := by
  cases m <;> cases m' <;> decide

/-- **No length runs over the end of a text**, if what follows begins neither
with a digit nor with the closing mark: it stands in the text, or in what
follows. -/
theorem Stands.of_append {c : Char} (digit : c.isDigit = false) (mark : c ≠ m.closing)
    (stands : Stands m (cs ++ c :: tail) front ds behind) :
    (∃ behind', Stands m cs front ds behind') ∨
      ∃ front', front = cs ++ front' ∧ Stands m (c :: tail) front' ds behind := by
  obtain ⟨parts, found, digits⟩ := stands
  -- The text ends in front of the opening mark, or behind it.
  rcases List.append_eq_append_iff.1 parts with ⟨w, rfl, follows⟩ | ⟨w, rfl, opens⟩
  · exact .inr ⟨w, rfl, follows, found, digits⟩
  cases w with
  | nil => exact .inr ⟨[], by simp, opens.symm, found, digits⟩
  | cons o w =>
    obtain ⟨rfl, within⟩ := List.cons.inj opens
    -- If it ends behind it, it ends behind the closing mark.
    rcases List.append_eq_append_iff.1 within with ⟨v, rfl, closes⟩ | ⟨v, rfl, closes⟩
    · cases v with
      | nil => exact absurd (List.cons.inj closes).1.symm mark
      | cons d v =>
        obtain ⟨rfl, -⟩ := List.cons.inj closes
        exact .inl ⟨v, rfl, found, digits⟩
    · cases v with
      | nil => exact absurd (List.cons.inj closes).1 mark
      | cons d v =>
        obtain ⟨rfl, -⟩ := List.cons.inj closes
        have is := digits c (List.mem_append_right _ (.head _))
        exact absurd is (by simp [digit])

/-! ## What the search finds -/

/-- Digits are read up to the mark behind them. -/
theorem marked?_eq_some_iff :
    marked? m.closing cs = some (ds, behind) ↔
      ds ≠ [] ∧ (∀ d ∈ ds, d.isDigit = true) ∧ cs = ds ++ m.closing :: behind := by
  rw [marked?, List.span_eq_takeWhile_dropWhile]
  constructor
  · intro read
    have digits : ∀ d ∈ cs.takeWhile Char.isDigit, d.isDigit = true := fun d =>
      List.mem_takeWhile_imp
    have parts := List.takeWhile_append_dropWhile (p := Char.isDigit) (l := cs)
    generalize cs.takeWhile Char.isDigit = es at read digits parts
    generalize cs.dropWhile Char.isDigit = left at read parts
    cases es with
    | nil => cases read
    | cons e es =>
      cases left with
      | nil => cases read
      | cons c left =>
        obtain ⟨rfl, same⟩ := Option.ite_none_right_eq_some.1 read
        cases same
        exact ⟨List.cons_ne_nil _ _, digits, parts.symm⟩
  · rintro ⟨found, digits, rfl⟩
    have stop : ¬ m.closing.isDigit = true := by simp [m.isDigit_closing]
    rw [List.takeWhile_append_of_pos digits, List.takeWhile_cons_of_neg stop, List.append_nil,
      List.dropWhile_append_of_pos digits, List.dropWhile_cons_of_neg stop]
    cases ds with
    | nil => exact absurd rfl found
    | cons d ds => exact if_pos rfl

/-- A length stands at the first character: it is the mark, and digits are read
behind it. -/
theorem stands_nil_iff {c : Char} :
    Stands m (c :: cs) [] ds behind ↔
      c = m.opening ∧ marked? m.closing cs = some (ds, behind) := by
  rw [marked?_eq_some_iff]
  constructor
  · rintro ⟨parts, found, digits⟩
    obtain ⟨opens, rest⟩ := List.cons.inj parts
    exact ⟨opens, found, digits, rest⟩
  · rintro ⟨rfl, found, digits, rfl⟩
    exact ⟨rfl, found, digits⟩

/-- A length stands behind the first character: it stands in the rest. -/
theorem stands_cons_iff {c f : Char} :
    Stands m (c :: cs) (f :: front) ds behind ↔ c = f ∧ Stands m cs front ds behind := by
  constructor
  · rintro ⟨parts, found, digits⟩
    obtain ⟨same, rest⟩ := List.cons.inj parts
    exact ⟨same, rest, found, digits⟩
  · rintro ⟨rfl, rfl, found, digits⟩
    exact ⟨rfl, found, digits⟩

/-- The search ends at the first character, or goes on behind it. -/
theorem find?_cons_cases (m : Marks) (c : Char) (cs : List Char) :
    (∃ ds behind, Stands m (c :: cs) [] ds behind ∧ find? m (c :: cs) = some ([], ds, behind)) ∨
      (∀ ds behind, ¬ Stands m (c :: cs) [] ds behind) ∧
        find? m (c :: cs) = (find? m cs).map fun (front, ds, behind) => (c :: front, ds, behind) := by
  simp only [stands_nil_iff]
  rw [find?]
  by_cases opens : c = m.opening
  · rw [if_pos opens]
    cases read : marked? m.closing cs with
    | none => exact .inr ⟨nofun, rfl⟩
    | some found => exact .inl ⟨found.1, found.2, ⟨opens, rfl⟩, rfl⟩
  · rw [if_neg opens]
    exact .inr ⟨fun _ _ here => opens here.1, rfl⟩

theorem leftmost_of_find? (found : find? m cs = some (front, ds, behind)) :
    Leftmost m cs front ds behind := by
  induction cs generalizing front with
  | nil => cases found
  | cons c cs ih =>
    rcases find?_cons_cases m c cs with ⟨ds', behind', here, ends⟩ | ⟨away, goesOn⟩
    · cases ends.symm.trans found
      exact ⟨here, fun _ => Nat.zero_le _⟩
    · rw [goesOn, Option.map_eq_some_iff] at found
      obtain ⟨⟨rest, ds', behind'⟩, later, same⟩ := found
      cases same
      have leftmost := ih later
      refine ⟨stands_cons_iff.2 ⟨rfl, leftmost.toStands⟩, fun {front' _ _} other => ?_⟩
      cases front' with
      | nil => exact absurd other (away _ _)
      | cons f front' => exact Nat.succ_le_succ (leftmost.least (stands_cons_iff.1 other).2)

theorem lacks_of_find? (found : find? m cs = none) : Lacks m cs := by
  induction cs with
  | nil => exact fun _ _ _ stands => by simpa using stands.parts
  | cons c cs ih =>
    rcases find?_cons_cases m c cs with ⟨ds', behind', here, ends⟩ | ⟨away, goesOn⟩
    · cases ends.symm.trans found
    · rw [goesOn, Option.map_eq_none_iff] at found
      intro front ds behind other
      cases front with
      | nil => exact away _ _ other
      | cons f front => exact ih found _ _ _ (stands_cons_iff.1 other).2

/-- There is one leftmost length. -/
theorem Leftmost.unique {front' ds' behind' : List Char} (one : Leftmost m cs front ds behind)
    (other : Leftmost m cs front' ds' behind') : (front, ds, behind) = (front', ds', behind') := by
  have parts := one.parts.symm.trans other.parts
  have length : front.length = front'.length :=
    Nat.le_antisymm (one.least other.toStands) (other.least one.toStands)
  obtain ⟨rfl, rest⟩ := List.append_inj parts length
  have read : marked? m.closing (ds ++ m.closing :: behind) = some (ds, behind) :=
    marked?_eq_some_iff.2 ⟨one.found, one.digits, rfl⟩
  have read' : marked? m.closing (ds ++ m.closing :: behind) = some (ds', behind') :=
    marked?_eq_some_iff.2 ⟨other.found, other.digits, (List.cons.inj rest).2⟩
  cases read.symm.trans read'
  rfl

/-- **What is found is the leftmost length.** -/
theorem find?_eq_some_iff :
    find? m cs = some (front, ds, behind) ↔ Leftmost m cs front ds behind := by
  refine ⟨leftmost_of_find?, fun leftmost => ?_⟩
  cases found : find? m cs with
  | none => exact absurd leftmost.toStands (lacks_of_find? found _ _ _)
  | some _ => exact congrArg some ((leftmost_of_find? found).unique leftmost)

/-- And nothing is found only where none stands. -/
theorem find?_eq_none_iff : find? m cs = none ↔ Lacks m cs := by
  refine ⟨lacks_of_find?, fun lacks => Option.eq_none_iff_forall_ne_some.2 fun _ found => ?_⟩
  exact lacks _ _ _ (leftmost_of_find? found).toStands

instance (m : Marks) (cs : List Char) : Decidable (Lacks m cs) :=
  decidable_of_iff _ find?_eq_none_iff

instance (name : String) : Decidable (Plain name) :=
  decidable_of_iff (Lacks .round name.toList ∧ Lacks .square name.toList)
    ⟨fun ⟨round, square⟩ m => m.casesOn round square, fun plain => ⟨plain .round, plain .square⟩⟩

/-! ## A length behind a name -/

/-- A length behind a text without one is the leftmost. -/
theorem leftmost_append (lacks : Lacks m cs) (found : ds ≠ [])
    (digits : ∀ d ∈ ds, d.isDigit = true) :
    Leftmost m (cs ++ m.opening :: (ds ++ m.closing :: tail)) cs ds tail where
  parts := rfl
  found := found
  digits := digits
  least {front' _ _} other := by
    rcases other.of_append m.isDigit_opening (m.opening_ne_closing m) with
      ⟨_, inside⟩ | ⟨rest, rfl, -⟩
    · exact absurd inside (lacks _ _ _)
    · rw [List.length_append]
      exact Nat.le_add_right _ _

/-- A length between other marks is none. -/
theorem lacks_append (lacks : Lacks m cs) (other : m ≠ m') (digits : ∀ d ∈ ds, d.isDigit = true) :
    Lacks m (cs ++ m'.opening :: (ds ++ [m'.closing])) := by
  intro front es behind stands
  rcases stands.of_append m'.isDigit_opening (m'.opening_ne_closing m) with
    ⟨_, inside⟩ | ⟨rest, -, later⟩
  · exact lacks _ _ _ inside
  · have opens : m.opening ∈ m'.opening :: (ds ++ [m'.closing]) := by simp [later.parts]
    rcases List.mem_cons.1 opens with same | opens
    · exact other (Marks.opening_inj.1 same)
    rcases List.mem_append.1 opens with digit | last
    · exact absurd (digits _ digit) (by simp [m.isDigit_opening])
    · exact m.opening_ne_closing m' (List.mem_singleton.1 last)

/-- The description of what has this class name and this length. -/
def describe : Marks → String → Nat → String
  | .round, name, n => s!"{name}({n})"
  | .square, name, n => s!"{name}[{n}]"

variable {name : String}

theorem toList_describe (m : Marks) (name : String) (n : Nat) :
    (describe m name n).toList =
      name.toList ++ m.opening :: (Nat.toDigits 10 n ++ [m.closing]) := by
  cases m <;> simp [describe, toString, Marks.opening, Marks.closing]

theorem isDigit_of_mem_toDigits {n : Nat} : ∀ d ∈ Nat.toDigits 10 n, d.isDigit = true := fun _ =>
  Nat.isDigit_of_mem_toDigits (by decide) (by decide)

theorem find?_describe (lacks : Lacks m name.toList) (n : Nat) :
    find? m (describe m name n).toList = some (name.toList, Nat.toDigits 10 n, []) := by
  rw [toList_describe, find?_eq_some_iff]
  exact leftmost_append lacks Nat.toDigits_ne_nil isDigit_of_mem_toDigits

theorem find?_describe_of_ne (lacks : Lacks m name.toList) (other : m ≠ m') (n : Nat) :
    find? m (describe m' name n).toList = none := by
  rw [toList_describe, find?_eq_none_iff]
  exact lacks_append lacks other isDigit_of_mem_toDigits

/-- The length is found between its marks. -/
theorem digits?_describe (lacks : Lacks m name.toList) (n : Nat) :
    digits? m (describe m name n) = some (Nat.toDigits 10 n) := by
  rw [digits?, find?_describe lacks, Option.map_some]

/-- None is found between other marks. -/
theorem digits?_describe_of_ne (lacks : Lacks m name.toList) (other : m ≠ m') (n : Nat) :
    digits? m (describe m' name n) = none := by
  rw [digits?, find?_describe_of_ne lacks other, Option.map_none]

/-- Without the length the name is left. -/
theorem without_describe (lacks : Lacks m name.toList) (n : Nat) :
    without m (describe m name n).toList = name.toList := by
  rw [without, find?_describe lacks]
  exact List.append_nil _

/-- A text without a length stays as it is. -/
theorem without_of_lacks (lacks : Lacks m cs) : without m cs = cs := by
  rw [without, find?_eq_none_iff.2 lacks]

/-- The digits of a number are read as it, if 64 bits hold it. -/
theorem number?_toDigits (n : Nat) :
    number? (Nat.toDigits 10 n) = if n < 2 ^ 64 then some n else none := by
  change (if Nat.ofDigitChars 10 (Nat.toDigits 10 n) 0 < 2 ^ 64 then
    some (Nat.ofDigitChars 10 (Nat.toDigits 10 n) 0) else none) = _
  rw [Nat.ofDigitChars_ten_toDigits]

/-- What is not read counts as zero. -/
theorem getD_number?_toDigits (n : Nat) :
    (number? (Nat.toDigits 10 n)).getD 0 = if n < 2 ^ 64 then n else 0 := by
  rw [number?_toDigits]
  split <;> rfl

/-! ## Reading back -/

theorem arrayLength_describe (plain : Plain name) {subtype : Subtype}
    (array : subtype = .array ∨ subtype = .typedarray) (m : Marks) (n : Nat) :
    arrayLength (some subtype) (some (describe m name n)) = if n < 2 ^ 64 then n else 0 := by
  have read : (digits? .round (describe m name n)).or (digits? .square (describe m name n)) =
      some (Nat.toDigits 10 n) := by
    cases m with
    | round => rw [digits?_describe (plain .round), Option.some_or]
    | square =>
      rw [digits?_describe_of_ne (plain .round) Marks.round_ne_square,
        digits?_describe (plain .square), Option.none_or]
  rw [arrayLength, if_pos (by simpa using array), Option.bind_some, read, Option.bind_some,
    getD_number?_toDigits]

theorem bufferLength_describe_round (plain : Plain name) (n : Nat) :
    bufferLength (some .arraybuffer) (some (describe .round name n)) =
      if n < 2 ^ 64 then n else 0 := by
  rw [bufferLength, if_pos rfl, Option.bind_some, digits?_describe (plain .round),
    Option.bind_some, getD_number?_toDigits]

theorem bufferLength_describe_square (plain : Plain name) (n : Nat) :
    bufferLength (some .arraybuffer) (some (describe .square name n)) = 0 := by
  rw [bufferLength, if_pos rfl, Option.bind_some,
    digits?_describe_of_ne (plain .round) Marks.round_ne_square]
  rfl

theorem className_describe (plain : Plain name) (m : Marks) (n : Nat) :
    className (describe m name n) = name := by
  have left : without .square (without .round (describe m name n).toList) = name.toList := by
    cases m with
    | round => rw [without_describe (plain .round), without_of_lacks (plain .square)]
    | square =>
      have unmarked : Lacks .round (describe .square name n).toList :=
        find?_eq_none_iff.1 (find?_describe_of_ne (plain .round) Marks.round_ne_square n)
      rw [without_of_lacks unmarked, without_describe (plain .square)]
  rw [className, left, String.ofList_toList]

/-- **A name and a length are read back.** If a class name has no length of its
own, whatever marks and digits it has otherwise, and a length stands behind it
between either marks, then the length of an array or typed array is that
length, and the class name is that name. The length of a buffer is that length
if the marks are parentheses, and zero if they are brackets. A length that 64
bits do not hold is read as zero. -/
theorem read_back (plain : Plain name) (n : Nat) :
    (∀ m, ∀ subtype ∈ [Subtype.array, .typedarray],
        arrayLength (some subtype) (some (describe m name n)) = if n < 2 ^ 64 then n else 0) ∧
      (∀ m, className (describe m name n) = name) ∧
      bufferLength (some .arraybuffer) (some (describe .round name n)) =
        (if n < 2 ^ 64 then n else 0) ∧
      bufferLength (some .arraybuffer) (some (describe .square name n)) = 0 := by
  refine ⟨fun m subtype array => ?_, fun m => className_describe plain m n,
    bufferLength_describe_round plain n, bufferLength_describe_square plain n⟩
  exact arrayLength_describe plain (by simpa using array) m n

/-- A name with both marks open, digits behind them, and neither closed. -/
theorem read_back_unclosed :
    Plain "Odd(1[2" ∧
      arrayLength (some .typedarray) (some "Odd(1[2[16]") = 16 ∧
      className "Odd(1[2[16]" = "Odd(1[2" ∧
      bufferLength (some .arraybuffer) (some "Odd(1[2(16)") = 16 ∧
      bufferLength (some .arraybuffer) (some "Odd(1[2[16]") = 0 ∧
      arrayLength (some .array) (some "Odd(1[2(18446744073709551616)") = 0 := by
  have plain : Plain "Odd(1[2" := by decide
  obtain ⟨lengths, names, buffer, bracketed⟩ := read_back plain 16
  have large := (read_back plain (2 ^ 64)).1 .round .array (by decide)
  exact ⟨plain, lengths .square .typedarray (by decide), names .square, buffer, bracketed, large⟩

/-- The first length counts: a name that has one is not read back. -/
example : className "Box(1)(2)" = "Box(2)" ∧ arrayLength (some .array) (some "Box(1)(2)") = 1 := by
  decide

end Extent

end DebugClient
