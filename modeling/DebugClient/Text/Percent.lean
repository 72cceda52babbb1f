import DebugClient.Text.Utf8
/-!
# Percent escapes

A percent sign and two hexadecimal digits stand for one octet.
`Percent.decode` undoes the escapes of a text, leaving a percent sign
alone that no two digits follow, and reads the octets as UTF-8.
`Percent.encode` escapes the octets of the characters a set holds.
-/

namespace DebugClient

namespace Percent

/-- The value of a hexadecimal digit. -/
def hexValue? (b : UInt8) : Option UInt8 :=
  if 0x30 ≤ b ∧ b ≤ 0x39 then some (b - 0x30)
  else if 0x41 ≤ b ∧ b ≤ 0x46 then some (b - 0x41 + 10)
  else if 0x61 ≤ b ∧ b ≤ 0x66 then some (b - 0x61 + 10)
  else none

/-- Replaces every escape by its octet. -/
def decodeOctets : List UInt8 → List UInt8
  | [] => []
  | b :: rest =>
    if b = 0x25 then
      match rest with
      | h :: l :: tail =>
        match hexValue? h, hexValue? l with
        | some h, some l => (16 * h + l) :: decodeOctets tail
        | _, _ => b :: decodeOctets (h :: l :: tail)
      | rest => b :: decodeOctets rest
    else b :: decodeOctets rest

/-- Undoes the escapes of a text. -/
def decode (cs : List Char) : List Char := Utf8.decodeLossy (decodeOctets (Utf8.octets cs))

/-- The escape of an octet. -/
def escape (b : UInt8) : List Char :=
  ['%', (Nat.digitChar (b.toNat / 16)).toUpper, (Nat.digitChar (b.toNat % 16)).toUpper]

/-- Escapes the octets of every character of a set. -/
def encode (escaped : Char → Bool) (cs : List Char) : List Char :=
  cs.flatMap fun c => if escaped c then (String.utf8EncodeChar c).flatMap escape else [c]

/-! ## Small facts -/

/-- Octets without a percent sign stay as they are. -/
theorem decodeOctets_of_not_mem {bs : List UInt8} (h : 0x25 ∉ bs) : decodeOctets bs = bs := by
  induction bs with
  | nil => rfl
  | cons b rest ih =>
    rw [List.mem_cons, not_or] at h
    unfold decodeOctets
    rw [if_neg (fun hb => h.1 hb.symm), ih h.2]

end Percent

end DebugClient
