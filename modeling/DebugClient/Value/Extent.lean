import DebugClient.Wire.RemoteObject
import DebugClient.Wire.Codec
/-!
# Extents — lengths written into descriptions

The length of an array is not sent on its own: it stands in the
description, in parentheses behind the class name or, in an older form,
in square brackets. The first run of digits between such marks counts,
and a number beyond 64 bits is none.
-/

namespace DebugClient

namespace Extent

/-- The pair of marks around a length. -/
inductive Marks where
  /-- Parentheses. -/
  | round
  /-- Square brackets. -/
  | square
  deriving DecidableEq

namespace Marks

/-- The opening mark. -/
def opening : Marks → Char
  | .round => '('
  | .square => '['

/-- The closing mark. -/
def closing : Marks → Char
  | .round => ')'
  | .square => ']'

end Marks

/-- The digits a text begins with, if there are any and the mark stands
behind them, and the text behind that mark. -/
def marked? (closing : Char) (cs : List Char) : Option (List Char × List Char) :=
  match cs.span Char.isDigit with
  | ([], _) => none
  | (ds, c :: rest) => if c = closing then some (ds, rest) else none
  | (_, []) => none

/-- The first length between marks: the text in front of it, its digits
and the text behind it. -/
def find? (m : Marks) : List Char → Option (List Char × List Char × List Char)
  | [] => none
  | c :: rest =>
    let here := if c = m.opening then marked? m.closing rest else none
    match here with
    | some (ds, behind) => some ([], ds, behind)
    | none => (find? m rest).map fun (front, ds, behind) => (c :: front, ds, behind)

/-- The number of some digits, if 64 bits hold it. -/
def number? (ds : List Char) : Option Nat :=
  let n := ds.foldl (fun acc c => 10 * acc + (c.toNat - '0'.toNat)) 0
  if n < 0x10000000000000000 then some n else none

/-- The first length between marks in a description. -/
def digits? (m : Marks) (description : String) : Option (List Char) :=
  (find? m description.toList).map (·.2.1)

/-- The length of an array or typed array; parentheses go before
brackets. -/
def arrayLength (subtype : Option Subtype) (description : Option String) : Nat :=
  if subtype = some .array ∨ subtype = some .typedarray then
    ((description.bind fun d => (digits? .round d).or (digits? .square d)).bind number?).getD 0
  else 0

/-- The byte length of a buffer. -/
def bufferLength (subtype : Option Subtype) (description : Option String) : Nat :=
  if subtype = some .arraybuffer then
    ((description.bind (digits? .round)).bind number?).getD 0
  else 0

/-- A text without its first length between marks. -/
def without (m : Marks) (cs : List Char) : List Char :=
  match find? m cs with
  | some (front, _, behind) => front ++ behind
  | none => cs

/-- The class name in a description. -/
def className (description : String) : String :=
  String.ofList (without .square (without .round description.toList))

end Extent

end DebugClient
