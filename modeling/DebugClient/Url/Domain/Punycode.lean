/-!
# Punycode — labels of any characters in letters, digits and hyphens

A label is written as its ASCII characters, a hyphen, and then numbers
that say one after another which other character stands where. Each
number counts how many steps of "next place, and at the end the next
character" lie between two characters.

A number has digits of base 36, least first; the digit that ends it is
below a threshold that follows the numbers read so far (`adapt`). Numbers
have 32 bits.
-/

namespace DebugClient

namespace Url

namespace Punycode

/-- The bound of numbers. -/
def bound : Nat := 0x100000000

/-- The value of a digit, a letter or a number. -/
def digit? (c : Char) : Option Nat :=
  if 'a' ≤ c ∧ c ≤ 'z' then some (c.toNat - 'a'.toNat)
  else if '0' ≤ c ∧ c ≤ '9' then some (c.toNat - '0'.toNat + 26)
  else none

/-- The threshold of the digit at a place. -/
def threshold (bias place : Nat) : Nat := min 26 (max 1 (36 * place - bias))

/-- Halves the scale of large distances: the distance, and how often it was
scaled down. -/
def scale (delta : Nat) : Nat × Nat :=
  if 455 < delta then
    let (rest, times) := scale (delta / 35)
    (rest, times + 1)
  else (delta, 0)
termination_by delta
decreasing_by exact Nat.div_lt_self (by omega) (by omega)

/-- The bias after a number in a label of so many characters. -/
def adapt (delta length : Nat) (isFirst : Bool) : Nat :=
  let damped := if isFirst then delta / 700 else delta / 2
  let (rest, times) := scale (damped + damped / length)
  36 * times + 36 * rest / (rest + 38)

/-- Reads a number, from a digit at a place and of a weight on, and adds it
to another. Gives the sum and what follows. -/
def number? (bias : Nat) : (place weight sum : Nat) → List Char → Option (Nat × List Char)
  | _, _, _, [] => none
  | place, weight, sum, c :: rest =>
    match digit? c with
    | none => none
    | some d =>
      let t := threshold bias place
      if bound ≤ sum + d * weight then none
      else if d < t then some (sum + d * weight, rest)
      else if bound ≤ weight * (36 - t) then none
      else number? bias (place + 1) (weight * (36 - t)) (sum + d * weight) rest

theorem length_lt_of_number? {bias place weight sum n : Nat} {cs rest : List Char}
    (h : number? bias place weight sum cs = some (n, rest)) : rest.length < cs.length := by
  induction cs generalizing place weight sum with
  | nil => simp [number?] at h
  | cons c cs ih =>
    simp only [number?] at h
    split at h
    · simp at h
    · split at h
      · simp at h
      · split at h
        · simp only [Option.some.injEq, Prod.mk.injEq] at h
          simp [h.2]
        · split at h
          · simp at h
          · have := ih h
            simp only [List.length_cons]
            omega

/-- Whether a number is a character. -/
def isCharacter (n : Nat) : Bool := n < 0xd800 || (0xdfff < n && n < 0x110000)

/-- Puts the characters that the numbers say into a label. `from'` is the
place the counting goes on from, `code` the character. -/
def fill? (bias code from' : Nat) (label : List Char) (cs : List Char) : Option (List Char) :=
  if cs = [] then some label
  else
    match _h : number? bias 1 1 from' cs with
    | none => none
    | some (n, rest) =>
      let length := label.length + 1
      let code := code + n / length
      if isCharacter code then
        fill? (adapt (n - from') length (from' == 0)) code (n % length + 1)
          (label.insertIdx (n % length) (.ofNat code)) rest
      else none
termination_by cs.length
decreasing_by exact length_lt_of_number? _h

/-- Splits at the last hyphen, if there is one that something stands in
front of: the ASCII characters, and the numbers. -/
def split (cs : List Char) : List Char × List Char :=
  let (numbers, front) := cs.reverse.span (· ≠ '-')
  match front with
  | _ :: c :: front => ((c :: front).reverse, numbers.reverse)
  | _ => ([], cs)

/-- Reads a label that is written so. -/
def decode? (cs : List Char) : Option (List Char) :=
  let (plain, numbers) := split cs
  fill? 72 128 0 plain numbers

end Punycode

end Url

end DebugClient
