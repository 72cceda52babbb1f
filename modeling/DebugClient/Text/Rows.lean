/-!
# Rows — tables of characters written out as text

A table of characters is a text of rows with blanks between them. A row is
hexadecimal numbers with points between them, code points for the most
part. Rows that say something of ranges of characters are read further as
`CharRange`s, with a number each if there is more than one thing to say.
-/

namespace DebugClient

namespace Rows

/-- The value of a hexadecimal digit, written small. -/
def digit? (c : Char) : Option Nat :=
  if '0' ≤ c ∧ c ≤ '9' then some (c.toNat - '0'.toNat)
  else if 'a' ≤ c ∧ c ≤ 'f' then some (c.toNat - 'a'.toNat + 10)
  else none

/-- A table part way through, newest first. -/
structure Reading where
  /-- Rows that have ended. -/
  rows : List (List Nat) := []
  /-- Numbers of the row that is being read. -/
  row : List Nat := []
  /-- The number that is being read, if it has begun. -/
  number : Option Nat := none

namespace Reading

/-- Ends the number that is being read. -/
def endNumber (r : Reading) : Reading :=
  match r.number with
  | some n => { r with row := n :: r.row, number := none }
  | none => r

/-- Ends the row that is being read, unless it is empty. -/
def endRow (r : Reading) : Reading :=
  if r.row = [] then r else { r with rows := r.row.reverse :: r.rows, row := [] }

/-- Reads a character. -/
def step (r : Reading) (c : Char) : Reading :=
  match digit? c with
  | some d => { r with number := some (16 * r.number.getD 0 + d) }
  | none => if c = '.' then r.endNumber else r.endNumber.endRow

end Reading

/-- The rows of a table. -/
def ofChars (cs : List Char) : List (List Nat) :=
  (cs.foldl Reading.step {}).endNumber.endRow.rows.reverse

/-- The rows of a table. -/
def ofString (text : String) : List (List Nat) := ofChars text.toList

end Rows

/-- Characters from one code point to another. -/
structure CharRange where
  /-- The first code point. -/
  first : Nat
  /-- The last code point. -/
  last : Nat
  deriving DecidableEq

namespace CharRange

/-- Whether a code point is in the range. -/
def holds (r : CharRange) (n : Nat) : Bool := decide (r.first ≤ n) && decide (n ≤ r.last)

/-- The range of a row: its two ends, or one character. -/
def ofRow? : List Nat → Option CharRange
  | [only] => some ⟨only, only⟩
  | [first, last] => some ⟨first, last⟩
  | _ => none

/-- The range of a row with the number behind its two ends. -/
def labelled? : List Nat → Option (CharRange × Nat)
  | [first, last, label] => some (⟨first, last⟩, label)
  | _ => none

/-- The ranges of a table. -/
def ofRows (text : String) : List CharRange := (Rows.ofString text).filterMap ofRow?

/-- The ranges of a table with a number each. -/
def labelledRows (text : String) : List (CharRange × Nat) :=
  (Rows.ofString text).filterMap labelled?

/-- Whether a character is in one of some ranges. -/
def anyHolds (ranges : List CharRange) (c : Char) : Bool := ranges.any (·.holds c.toNat)

/-- The number of the first range a character is in. -/
def label? (ranges : List (CharRange × Nat)) (c : Char) : Option Nat :=
  (ranges.find? (·.1.holds c.toNat)).map (·.2)

theorem holds_iff {r : CharRange} {n : Nat} : r.holds n = true ↔ r.first ≤ n ∧ n ≤ r.last := by
  simp [holds]

/-- A range holds its ends, unless it is empty. -/
theorem holds_first {r : CharRange} (h : r.first ≤ r.last) : r.holds r.first = true :=
  holds_iff.2 ⟨Nat.le_refl _, h⟩

end CharRange

/-- Rows end at blanks and at line ends, numbers at points. -/
theorem Rows.ofChars_lines : Rows.ofChars "41.5a.20 7f\n c0.41.300".toList =
    [[0x41, 0x5a, 0x20], [0x7f], [0xc0, 0x41, 0x300]] := by decide

end DebugClient
