/-!
# UTF-8 — octets of a text, and texts of any octets

`octets` is the encoding. `decodeLossy` reads any sequence of octets:
where the octets are no encoding, each longest beginning of a character
that is broken off, and each octet no character begins with, becomes one
replacement character.
-/

namespace DebugClient

namespace Utf8

/-- The octets of a text. -/
def octets (cs : List Char) : List UInt8 := cs.flatMap String.utf8EncodeChar

/-- The character that stands for what cannot be read. -/
def replacement : Char := '\ufffd'

/-- A character part way through: how many octets it still owes, the
bounds of the next one, and the value so far. -/
structure Partial where
  /-- Continuation octets still owed, at least one. -/
  owed : Nat
  /-- The least octet that may come next. -/
  low : Nat
  /-- The greatest octet that may come next. -/
  high : Nat
  /-- The bits read so far. -/
  value : Nat

/-- What an octet between characters begins. -/
inductive Start where
  /-- A character of one octet. -/
  | whole (c : Char)
  /-- A longer character. -/
  | part (p : Partial)
  /-- Nothing. -/
  | invalid

/-- The reading of an octet between characters. -/
def start (b : Nat) : Start :=
  if b ≤ 0x7F then .whole (Char.ofNat b)
  else if 0xC2 ≤ b ∧ b ≤ 0xDF then .part ⟨1, 0x80, 0xBF, b - 0xC0⟩
  else if b = 0xE0 then .part ⟨2, 0xA0, 0xBF, 0⟩
  else if b = 0xED then .part ⟨2, 0x80, 0x9F, 0xD⟩
  else if 0xE1 ≤ b ∧ b ≤ 0xEF then .part ⟨2, 0x80, 0xBF, b - 0xE0⟩
  else if b = 0xF0 then .part ⟨3, 0x90, 0xBF, 0⟩
  else if 0xF1 ≤ b ∧ b ≤ 0xF3 then .part ⟨3, 0x80, 0xBF, b - 0xF0⟩
  else if b = 0xF4 then .part ⟨3, 0x80, 0x8F, 4⟩
  else .invalid

/-- Reads octets behind an unfinished character, if there is one. -/
def decodeFrom : Option Partial → List UInt8 → List Char
  | none, [] => []
  | some _, [] => [replacement]
  | pending, b :: rest =>
    let fresh := match start b.toNat with
      | .whole c => c :: decodeFrom none rest
      | .part p => decodeFrom (some p) rest
      | .invalid => replacement :: decodeFrom none rest
    match pending with
    | none => fresh
    | some p =>
      if p.low ≤ b.toNat ∧ b.toNat ≤ p.high then
        let value := p.value * 64 + (b.toNat - 0x80)
        if p.owed ≤ 1 then Char.ofNat value :: decodeFrom none rest
        else decodeFrom (some ⟨p.owed - 1, 0x80, 0xBF, value⟩) rest
      else replacement :: fresh

/-- The text of any octets. -/
def decodeLossy (bytes : List UInt8) : List Char := decodeFrom none bytes

/-! ## Small facts -/

@[simp] theorem octets_append (a b : List Char) : octets (a ++ b) = octets a ++ octets b := by
  simp [octets]

/-- An ASCII octet between characters is its own character. -/
theorem decodeFrom_ascii {b : UInt8} (h : b.toNat ≤ 0x7F) (rest : List UInt8) :
    decodeFrom none (b :: rest) = Char.ofNat b.toNat :: decodeFrom none rest := by
  simp [decodeFrom, start, h]

end Utf8

end DebugClient
