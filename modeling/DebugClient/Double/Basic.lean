/-!
# Doubles — numbers by their bit pattern

A script number is an IEEE binary64 value, and what the session shows
of one is exact to the bit. So a `Double` is its 64 bits and nothing
else: equality is equality of bits, and every reading of the value goes
through `Double.split`, which names the magnitude as `m · 2 ^ q`.

`Double.ofRatio` is the one rounding of the library: to the nearest
double, a half to the even neighbour. Integers and decimal literals are
rounded through it.
-/

namespace DebugClient

/-- A binary64 number, held as its bits. -/
structure Double where
  /-- Sign, exponent and fraction, from the top bit down. -/
  bits : UInt64
  deriving DecidableEq, Inhabited

namespace Double

/-- Positive zero. -/
def zero : Double := ⟨0⟩

/-- Negative zero. -/
def negZero : Double := ⟨0x8000000000000000⟩

/-- Positive infinity. -/
def infinity : Double := ⟨0x7FF0000000000000⟩

/-- Negative infinity. -/
def negInfinity : Double := ⟨0xFFF0000000000000⟩

/-- The quiet not-a-number. -/
def nan : Double := ⟨0x7FF8000000000000⟩

/-- The sign bit. -/
def signBit : Nat := 0x8000000000000000

/-- The bit above the fraction, which the exponent begins with. -/
def unitBit : Nat := 0x10000000000000

/-- Whether the sign bit is set. -/
def isNegative (d : Double) : Bool := decide (signBit ≤ d.bits.toNat)

/-- The bits below the sign. -/
def magnitudeBits (d : Double) : Nat := d.bits.toNat % signBit

/-- The bits of positive infinity, above which lie only the
not-a-numbers. -/
def infinityBits : Nat := 0x7FF0000000000000

/-- Whether the value is no number at all. -/
def isNaN (d : Double) : Bool := decide (infinityBits < d.magnitudeBits)

/-- Whether the value is a real number. -/
def isFinite (d : Double) : Bool := decide (d.magnitudeBits < infinityBits)

/-- A finite magnitude as `m · 2 ^ q`, with `q` as small as the format
allows. -/
def split (d : Double) : Nat × Int :=
  let exponent : Nat := d.magnitudeBits / unitBit
  let fraction : Nat := d.magnitudeBits % unitBit
  if exponent = 0 then (fraction, -1074) else (fraction + unitBit, (exponent : Int) - 1075)

/-- The nearest natural number to `num / den`, a half going to the even
one. -/
def roundHalfEven (num den : Nat) : Nat :=
  let q := num / den
  let r := num % den
  if 2 * r < den then q
  else if den < 2 * r then q + 1
  else if q % 2 = 0 then q else q + 1

/-- The position of the leading bit of `num / den`: the `k` with
`2 ^ k ≤ num / den < 2 ^ (k + 1)`. -/
def leadingBit (num den : Nat) : Int :=
  let k : Int := (Nat.log2 num : Int) - (Nat.log2 den : Int)
  if num * Nat.pow 2 (-k).toNat < den * Nat.pow 2 k.toNat then k - 1 else k

/-- The double nearest to `num / den`, or infinity beyond the largest. The sum of shifted exponent and significand
carries into the exponent when rounding reaches the next power of
two. -/
def ofRatio (negative : Bool) (num den : Nat) : Double :=
  let magnitude :=
    if num = 0 then 0
    else
      let q := max (leadingBit num den - 52) (-1074)
      let m := roundHalfEven (num * Nat.pow 2 (-q).toNat) (den * Nat.pow 2 q.toNat)
      min ((q + 1074).toNat * unitBit + m) infinityBits
  ⟨UInt64.ofNat (if negative then signBit + magnitude else magnitude)⟩

/-- The double nearest to an integer. -/
def ofInt (n : Int) : Double := ofRatio (n < 0) n.natAbs 1

/-- The double nearest to `digits · 10 ^ exponent`. Beyond the range of
the format the power of ten is not computed: from `10 ^ 310` on all is
infinite, and below `10 ^ -400` all is zero. -/
def ofDecimal (negative : Bool) (digits : Nat) (exponent : Int) : Double :=
  let size : Int := (Nat.log2 digits : Int) * 30103 / 100000
  if digits = 0 then ofRatio negative 0 1
  else if 310 ≤ size + exponent then
    if negative then negInfinity else infinity
  else if size + exponent ≤ -400 then ofRatio negative 0 1
  else ofRatio negative (digits * Nat.pow 10 exponent.toNat) (Nat.pow 10 (-exponent).toNat)

/-- Whether the value is at least `n`; a not-a-number never is. -/
def atLeast (d : Double) (n : Nat) : Bool :=
  !d.isNaN && !d.isNegative && decide ((ofInt n).magnitudeBits ≤ d.magnitudeBits)

/-- The sixteen lower-case hexadecimal digits of the bits. -/
def hex (d : Double) : String :=
  let digits := (Nat.toDigits 16 d.bits.toNat)
  String.ofList (List.replicate (16 - digits.length) '0' ++ digits)

/-- The value of a hexadecimal digit. -/
def hexDigit? (c : Char) : Option Nat :=
  if c.isDigit then some (c.toNat - '0'.toNat)
  else if 'a' ≤ c ∧ c ≤ 'f' then some (c.toNat - 'a'.toNat + 10)
  else if 'A' ≤ c ∧ c ≤ 'F' then some (c.toNat - 'A'.toNat + 10)
  else none

/-- Reads the bits off hexadecimal digits, of which there are one to
sixteen; `nan` stands for the usual not-a-number. -/
def ofHex? (s : String) : Option Double :=
  if s = "nan" then some nan
  else do
    let digits ← s.toList.mapM hexDigit?
    if digits.isEmpty || 16 < digits.length then none
    else some ⟨(digits.foldl (fun n d => 16 * n + d) 0).toUInt64⟩

end Double

end DebugClient
