import DebugClient.Json.Basic
/-!
# JSON — numerals

The grammar of a JSON numeral, and the number it denotes: a numeral
without fraction and exponent is an integer when 64 bits hold it, signed
or unsigned, and every other numeral is the nearest double. Negative
zero is a double, as no integer is. A numeral beyond the largest double
denotes nothing.
-/

namespace DebugClient

namespace Json

/-- What a numeral is made of. -/
structure Numeral where
  /-- Whether it has a minus sign. -/
  negative : Bool
  /-- Digits of the whole part. -/
  whole : List Char
  /-- Digits behind the point, if there is one. -/
  fraction : Option (List Char)
  /-- Exponent, if there is one. -/
  exponent : Option Int

namespace Numeral

/-- The value of decimal digits. -/
def digitsValue (ds : List Char) : Nat :=
  ds.foldl (fun acc c => 10 * acc + (c.toNat - '0'.toNat)) 0

/-- Splits off the leading digits; there has to be one. -/
def digits? (cs : List Char) : Option (List Char × List Char) :=
  match cs.span Char.isDigit with
  | ([], _) => none
  | (ds, rest) => some (ds, rest)

/-- Reads the exponent behind its letter, up to the end. -/
def exponent? (cs : List Char) : Option Int :=
  let (negative, cs) := match cs with
    | '-' :: r => (true, r)
    | '+' :: r => (false, r)
    | r => (false, r)
  match digits? cs with
  | some (ds, []) =>
    let n : Int := digitsValue ds
    some (if negative then -n else n)
  | _ => none

/-- Reads a whole numeral. The whole part has no leading zero. -/
def read? (cs : List Char) : Option Numeral := do
  let (negative, cs) := match cs with
    | '-' :: r => (true, r)
    | r => (false, r)
  let (whole, cs) ← digits? cs
  if whole.head? = some '0' ∧ whole.length ≠ 1 then none
  let (fraction, cs) ← match cs with
    | '.' :: r => (digits? r).map fun (ds, r) => (some ds, r)
    | r => some (none, r)
  match cs with
  | [] => some ⟨negative, whole, fraction, none⟩
  | c :: r =>
    if c = 'e' ∨ c = 'E' then
      (exponent? r).map fun e => ⟨negative, whole, fraction, some e⟩
    else none

/-- The double nearest to the numeral, if one is. -/
def double? (n : Numeral) : Option Double :=
  let fraction := n.fraction.getD []
  let d := Double.ofDecimal n.negative (digitsValue (n.whole ++ fraction))
    (n.exponent.getD 0 - fraction.length)
  if d.isFinite then some d else none

/-- The number a numeral denotes. -/
def value? (n : Numeral) : Option Json :=
  let magnitude := digitsValue n.whole
  let integer : Int := if n.negative then -magnitude else magnitude
  if n.fraction.isNone ∧ n.exponent.isNone ∧ (n.negative → magnitude ≠ 0)
      ∧ -0x8000000000000000 ≤ integer ∧ integer < 0x10000000000000000 then some (.int integer)
  else n.double?.map .double

end Numeral

end Json

end DebugClient
