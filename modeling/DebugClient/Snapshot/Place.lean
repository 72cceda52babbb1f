import DebugClient.Location.Range
/-!
# Snapshots of places — locations and ranges in short

A snapshot shows an object of a session as JSON, for a log or a front end.
Places are the commonest part of one and are written as rows of numbers:
a location as script, line, column and inlined frame, a range as script
and the lines and columns of its two ends. Both can be read back as far
as the wire can hold their numbers.
-/

namespace DebugClient

namespace Location

/-- A location as a row. -/
def snapshot (l : Location) : Json :=
  .arr [.str l.scriptId, .nat l.lineNumber, .orNull .nat l.columnNumber, .nat l.inlineFrameIndex]

/-- Reads the column of a row: it may be null or left off. -/
def columnOf? : Option Json → Option (Option Nat)
  | none => some none
  | some .null => some none
  | some j => (Codec.nat32.read j).map some

/-- Reads a row; the column and the inlined frame may be left off. -/
def ofSnapshot? (j : Json) : Option Location := do
  let items ← j.arr?
  return {
    scriptId := ← (← items[0]?).str?
    lineNumber := ← Codec.nat32.read (← items[1]?)
    columnNumber := ← columnOf? items[2]?
    inlineFrameIndex := ← Codec.nat32.read ((items[3]?).getD (Json.nat 0)) }

/-- The numbers of a location are ones the wire can hold. -/
structure Fits (l : Location) : Prop where
  line : l.lineNumber < 0x100000000
  column : ∀ c ∈ l.columnNumber, c < 0x100000000
  inline : l.inlineFrameIndex < 0x100000000

theorem columnOf?_orNull {column : Option Nat} (h : ∀ c ∈ column, c < 0x100000000) :
    columnOf? (some (.orNull .nat column)) = some column := by
  cases column with
  | none => rfl
  | some c =>
    show (Codec.nat32.read (.nat c)).map some = some (some c)
    rw [Codec.nat32_read_nat (h c rfl)]
    rfl

/-- What is written is read back. -/
theorem ofSnapshot?_snapshot {l : Location} (h : l.Fits) : ofSnapshot? l.snapshot = some l := by
  simp [ofSnapshot?, snapshot, Json.arr?, Json.str?, columnOf?_orNull h.column,
    Codec.nat32_read_nat h.line, Codec.nat32_read_nat h.inline]

end Location

namespace Range

/-- A range as a row. -/
def snapshot (r : Range) : Json :=
  .arr [.str r.scriptId, .nat r.start.lineNumber, .nat r.start.columnNumber,
    .nat r.finish.lineNumber, .nat r.finish.columnNumber]

/-- Reads a row. -/
def ofSnapshot? (j : Json) : Option Range := do
  let items ← j.arr?
  return {
    scriptId := ← (← items[0]?).str?
    start := ⟨← Codec.nat32.read (← items[1]?), ← Codec.nat32.read (← items[2]?)⟩
    finish := ⟨← Codec.nat32.read (← items[3]?), ← Codec.nat32.read (← items[4]?)⟩ }

/-- The numbers of a range are ones the wire can hold. -/
structure Fits (r : Range) : Prop where
  startLine : r.start.lineNumber < 0x100000000
  startColumn : r.start.columnNumber < 0x100000000
  finishLine : r.finish.lineNumber < 0x100000000
  finishColumn : r.finish.columnNumber < 0x100000000

/-- What is written is read back. -/
theorem ofSnapshot?_snapshot {r : Range} (h : r.Fits) : ofSnapshot? r.snapshot = some r := by
  simp [ofSnapshot?, snapshot, Json.arr?, Json.str?,
    Codec.nat32_read_nat h.startLine, Codec.nat32_read_nat h.startColumn,
    Codec.nat32_read_nat h.finishLine, Codec.nat32_read_nat h.finishColumn]

end Range

end DebugClient
