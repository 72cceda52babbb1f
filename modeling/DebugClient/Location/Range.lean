import DebugClient.Location.Basic
/-!
# Ranges — what a step does not stop inside

A step is told the ranges of source it must not stop inside. The ranges
come in any order and may overlap; what is sent (`Range.merge`) is sorted
by script, start and end, and ranges of one script that touch or
intersect are one range.

`Range.Covers` says which positions a range holds, both ends included: it
is what merging must not change.
-/

namespace DebugClient

namespace Position

/-- Positions are ordered by line, then by column. -/
def order (a b : Position) : Ordering :=
  (compare a.lineNumber b.lineNumber).then (compare a.columnNumber b.columnNumber)

instance : LE Position where
  le a b := a.lineNumber < b.lineNumber ∨ (a.lineNumber = b.lineNumber ∧ a.columnNumber ≤ b.columnNumber)

instance : LT Position where
  lt a b := a.lineNumber < b.lineNumber ∨ (a.lineNumber = b.lineNumber ∧ a.columnNumber < b.columnNumber)

theorem le_def {a b : Position} : a ≤ b ↔
    a.lineNumber < b.lineNumber ∨ (a.lineNumber = b.lineNumber ∧ a.columnNumber ≤ b.columnNumber) :=
  Iff.rfl

theorem lt_def {a b : Position} : a < b ↔
    a.lineNumber < b.lineNumber ∨ (a.lineNumber = b.lineNumber ∧ a.columnNumber < b.columnNumber) :=
  Iff.rfl

instance (a b : Position) : Decidable (a ≤ b) := decidable_of_iff _ le_def.symm

instance (a b : Position) : Decidable (a < b) := decidable_of_iff _ lt_def.symm

theorem not_lt {a b : Position} : ¬a < b ↔ b ≤ a := by
  simp only [lt_def, le_def]
  omega

theorem le_trans {a b c : Position} (h : a ≤ b) (h' : b ≤ c) : a ≤ c := by
  simp only [le_def] at *
  omega

end Position

namespace Range

/-- Ranges are ordered by script, start and end. -/
def order (a b : Range) : Ordering :=
  (compare a.scriptId b.scriptId).then ((a.start.order b.start).then (a.finish.order b.finish))

/-- Whether a range comes before another or is the same. -/
def precedes (a b : Range) : Bool := (a.order b).isLE

/-- The range between two places. It belongs to the script of the
first. -/
def between (start finish : Location) : Range := ⟨start.scriptId, start.position, finish.position⟩

/-- Whether a range holds a position of a script. -/
def Covers (r : Range) (script : ScriptId) (p : Position) : Prop :=
  r.scriptId = script ∧ r.start ≤ p ∧ p ≤ r.finish

/-- Whether two ranges are of one script and touch or intersect. Of the
one that starts first only the end counts; ranges that start together
overlap. -/
def overlaps (a b : Range) : Bool :=
  a.scriptId == b.scriptId &&
    (if a.start < b.start then decide (b.start ≤ a.finish)
      else if b.start < a.start then decide (a.start ≤ b.finish)
      else true)

/-- The range up to the later of two ends. -/
def extend (a b : Range) : Range :=
  if a.finish < b.finish then ⟨a.scriptId, a.start, b.finish⟩ else a

/-- Merges a range with the ranges behind it. -/
def fuseFrom (r : Range) : List Range → List Range
  | [] => [r]
  | next :: rest =>
    if r.overlaps next then fuseFrom (r.extend next) rest else r :: fuseFrom next rest

/-- Merges neighbours that overlap. -/
def fuse : List Range → List Range
  | [] => []
  | r :: rest => fuseFrom r rest

/-- Sorts ranges and merges those that overlap. -/
def merge (ranges : List Range) : List Range := fuse (ranges.mergeSort precedes)

@[simp] theorem extend_start (a b : Range) : (a.extend b).start = a.start := by
  unfold extend
  split <;> rfl

@[simp] theorem extend_scriptId (a b : Range) : (a.extend b).scriptId = a.scriptId := by
  unfold extend
  split <;> rfl

/-- Whether ranges overlap does not depend on which is named first. -/
theorem overlaps_comm (a b : Range) : a.overlaps b = b.overlaps a := by
  unfold overlaps
  rw [Bool.beq_comm]
  congr 1
  split
  · rename_i h
    rw [if_neg (by rw [Position.not_lt]; simp only [Position.le_def, Position.lt_def] at *; omega)]
  · rfl

end Range

end DebugClient
