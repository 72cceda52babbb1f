import DebugClient.Wire.Pause
/-!
# Locations — places in generated code

A `Location` is a wire location that also says for which frame of inlined
functions it was derived; the outermost frame has index zero, and what
comes from the wire is always there.
-/

namespace DebugClient

/-- A place in a script. -/
structure Location where
  /-- The script. -/
  scriptId : ScriptId
  /-- Line. -/
  lineNumber : Nat
  /-- Column, if it is known. -/
  columnNumber : Option Nat
  /-- Which inlined frame the place belongs to. -/
  inlineFrameIndex : Nat := 0
  deriving DecidableEq

namespace Location

/-- The place a wire location names. -/
def ofWire (l : Wire.Location) : Location := ⟨l.scriptId, l.lineNumber, l.columnNumber, 0⟩

/-- The wire form of a place, which has no inlined frames. -/
def toWire (l : Location) : Wire.Location := ⟨l.scriptId, l.lineNumber, l.columnNumber⟩

/-- Whether two places have the same script, line and column. -/
def samePosition (a b : Location) : Bool :=
  a.scriptId == b.scriptId && a.lineNumber == b.lineNumber && a.columnNumber == b.columnNumber

/-- The line and column, the column counted from zero where it is not
known. -/
def position (l : Location) : Position := ⟨l.lineNumber, l.columnNumber.getD 0⟩

/-- The text of a place. -/
def text (l : Location) : String :=
  let column := l.columnNumber.getD 0
  let script := l.scriptId
  let line := l.lineNumber
  let inline := l.inlineFrameIndex
  s!"{script}:{line}:{column}:{inline}"

@[simp] theorem toWire_ofWire (l : Wire.Location) : (ofWire l).toWire = l := rfl

theorem samePosition_iff {a b : Location} :
    a.samePosition b = true ↔ a.toWire = b.toWire := by
  cases a
  cases b
  simp [samePosition, toWire, and_assoc]

end Location

/-- A place where a breakpoint can be set. -/
structure BreakLocation where
  /-- The place. -/
  location : Location
  /-- Why it can, if it is known. -/
  kind : Option BreakKind
  deriving DecidableEq

/-- The place of a wire break location. -/
def BreakLocation.ofWire (l : Wire.BreakLocation) : BreakLocation :=
  ⟨⟨l.scriptId, l.lineNumber, l.columnNumber, 0⟩, l.kind⟩

end DebugClient
