import DebugClient.Double.Basic
/-!
# Shortest decimals — the fewest digits that read back

The text of a number shows the fewest significant digits that still
round to it, and of the decimals with so few digits the nearest.
`Double.shortest` finds them by exact arithmetic: around a magnitude
`m · 2 ^ q` lies the interval of reals that round to it, and the decimal
grids are tried from one digit up. Only the two grid points next to the
value can be the first in the interval, so two candidates are looked at
on each grid.

`Layout` holds the decisions of the notation and `Layout.write` applies
them; `Layout.script` is the notation of the debugged language, the one
every description in this library uses.
-/

namespace DebugClient

namespace Double

/-! ## The interval and its grids -/

/-- Magnitudes that round to one double, over the common denominator
`den`: the value itself and the ends halfway to its neighbours. -/
structure Interval where
  /-- Lower end. -/
  low : Nat
  /-- The value. -/
  mid : Nat
  /-- Upper end. -/
  high : Nat
  /-- The denominator of the three. -/
  den : Nat
  /-- Whether the ends themselves round to the value. -/
  closed : Bool

/-- The reals that round to a finite positive magnitude. Below a power of
two the lower neighbour is half as far. -/
def interval (d : Double) : Interval :=
  let (m, q) := d.split
  let up := 4 * Nat.pow 2 q.toNat
  let den := 4 * Nat.pow 2 (-q).toNat
  let below := if m = unitBit ∧ -1074 < q then up / 4 else up / 2
  ⟨m * up - below, m * up, m * up + up / 2, den, m % 2 = 0⟩

/-- Whether `c · 10 ^ e` lies in the interval. -/
def Interval.holds (i : Interval) (c : Nat) (e : Int) : Bool :=
  let x := c * i.den * Nat.pow 10 e.toNat
  let scale := Nat.pow 10 (-e).toNat
  if i.closed then decide (i.low * scale ≤ x ∧ x ≤ i.high * scale)
  else decide (i.low * scale < x ∧ x < i.high * scale)

/-- The nearer of the grid points `c` and `c + 1` to the value on the grid
of step `10 ^ e`, a tie going to the even digit. -/
def Interval.nearer (i : Interval) (c : Nat) (e : Int) : Nat :=
  let x := i.mid * Nat.pow 10 (-e).toNat
  let step := i.den * Nat.pow 10 e.toNat
  let down := x - c * step
  let up := (c + 1) * step - x
  if down < up then c else if up < down then c + 1 else if c % 2 = 0 then c else c + 1

/-- The point of the grid of step `10 ^ e` that reads back as the value,
if it has one. -/
def Interval.onGrid (i : Interval) (e : Int) : Option Nat :=
  let c := i.mid * Nat.pow 10 (-e).toNat / (i.den * Nat.pow 10 e.toNat)
  match i.holds c e, i.holds (c + 1) e with
  | true, true => some (i.nearer c e)
  | true, false => some c
  | false, true => some (c + 1)
  | false, false => none

/-- The first grid with a hit, from the coarsest step down. -/
def Interval.search (i : Interval) : Nat → Int → Nat × Int
  | 0, e => (i.mid * Nat.pow 10 (-e).toNat / (i.den * Nat.pow 10 e.toNat), e)
  | n + 1, e =>
    match i.onGrid e with
    | some c => (c, e)
    | none => i.search n (e - 1)

/-- An exponent `e` with the value below `10 ^ (e + 1)`, at most one grid
too coarse: the decimal size read off the leading bit. -/
def Interval.coarsest (i : Interval) : Int :=
  let k := leadingBit i.mid i.den
  (k * 30103).fdiv 100000 + 1

/-- The decimal `c · 10 ^ e` with the fewest digits that reads back as a
finite positive magnitude, `c` without trailing zeros. -/
def shortest (d : Double) : Nat × Int :=
  let i := d.interval
  let (c, e) := i.search 19 i.coarsest
  strip 18 c e
where
  /-- Moves trailing zeros of `c` into the exponent. -/
  strip : Nat → Nat → Int → Nat × Int
    | 0, c, e => (c, e)
    | n + 1, c, e => if c % 10 = 0 ∧ c ≠ 0 then strip n (c / 10) (e + 1) else (c, e)

/-! ## Notation -/

/-- The decisions of a number notation. -/
structure Layout where
  /-- The largest position of the decimal point, counted from the first
  digit, that is still written positionally. -/
  widest : Int
  /-- Positions at or below this one are written with an exponent. -/
  narrowest : Int
  /-- Text of a not-a-number. -/
  nan : String
  /-- Text of positive infinity. -/
  infinity : String

/-- The notation of script numbers: positional from `1e-6` up to below
`1e21`, and outside of that with a signed exponent. -/
def Layout.script : Layout := ⟨21, -6, "NaN", "Infinity"⟩

/-- The text of the decimal `digits · 10 ^ exponent`. -/
def Layout.positive (l : Layout) (digits : Nat) (exponent : Int) : String :=
  let ds := Nat.toDigits 10 digits
  let k := ds.length
  -- the value is `0.ds · 10 ^ point`
  let point := exponent + k
  if (k : Int) ≤ point ∧ point ≤ l.widest then
    String.ofList (ds ++ List.replicate (point - k).toNat '0')
  else if 0 < point ∧ point ≤ l.widest then
    String.ofList (ds.take point.toNat ++ '.' :: ds.drop point.toNat)
  else if l.narrowest < point ∧ point ≤ 0 then
    String.ofList ('0' :: '.' :: (List.replicate (-point).toNat '0' ++ ds))
  else
    let e := point - 1
    let sign := if e < 0 then '-' else '+'
    let mantissa := if k = 1 then ds else ds.take 1 ++ '.' :: ds.drop 1
    String.ofList (mantissa ++ 'e' :: sign :: Nat.toDigits 10 e.natAbs)

/-- The text of a number in a notation. The sign of zero is not written. -/
def Layout.write (l : Layout) (d : Double) : String :=
  if d.isNaN then l.nan
  else
    let text :=
      if !d.isFinite then l.infinity
      else if d.magnitudeBits = 0 then "0"
      else
        let (digits, exponent) := d.shortest
        l.positive digits exponent
    if d.isNegative && d.magnitudeBits != 0 then "-" ++ text else text

/-- The text of a script number. -/
def toText (d : Double) : String := Layout.script.write d

end Double

end DebugClient
