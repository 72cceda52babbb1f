import DebugClient.Json.Number
import DebugClient.Text.Percent
import DebugClient.Url.Domain
/-!
# URL hosts — which texts name a host

A host in brackets is an IPv6 address. Any other host of a special
scheme is a domain, its percent escapes undone; a domain whose last
label is a number has to be an IPv4 address. The host of another scheme
is taken as it stands. Here are only the questions whether a text is a
host, and the one of this machine: nothing else of it is ever shown.
-/

namespace DebugClient

namespace Url

namespace Host

/-- Characters no host may hold. -/
def forbidden (c : Char) : Bool :=
  "\x00\t\n\r #/:<>?@[\\]^|".toList.contains c

/-- Whether a character is a digit of a base up to sixteen. -/
def isDigitOf (base : Nat) (c : Char) : Bool :=
  match Percent.hexValue? (UInt8.ofNat c.toNat) with
  | some v => c.toNat < 0x80 && decide (v.toNat < base)
  | none => false

/-- The value of digits of a base up to sixteen. -/
def valueOf (base : Nat) (cs : List Char) : Nat :=
  cs.foldl (fun acc c => base * acc + ((Percent.hexValue? (UInt8.ofNat c.toNat)).getD 0).toNat) 0

/-- A number in an IPv4 address: hexadecimal behind `0x`, octal behind
another zero. -/
def ipv4Number? (cs : List Char) : Option Nat :=
  match cs with
  | [] => none
  | '0' :: x :: digits =>
    if x = 'x' ∨ x = 'X' then
      if digits.all (isDigitOf 16) then some (valueOf 16 digits) else none
    else if (x :: digits).all (isDigitOf 8) then some (valueOf 8 (x :: digits)) else none
  | cs => if cs.all (isDigitOf 10) then some (valueOf 10 cs) else none

/-- The labels of a domain, an empty last one left out. -/
def labels (domain : List Char) : List (List Char) :=
  let parts := splitAt '.' domain
  if parts.getLast? = some [] ∧ parts.length ≠ 1 then parts.dropLast else parts

/-- Whether a domain has to be read as an IPv4 address. -/
def endsInNumber (domain : List Char) : Bool :=
  match (labels domain).getLast? with
  | some last => (last ≠ [] && last.all Char.isDigit) || (ipv4Number? last).isSome
  | none => false

/-- Whether a domain is an IPv4 address: up to four numbers, all but the
last one an octet, the last one filling what is left. -/
def isIpv4 (domain : List Char) : Bool :=
  match (labels domain).mapM ipv4Number? with
  | none => false
  | some numbers =>
    numbers.length ≤ 4 && numbers.dropLast.all (· ≤ 255) &&
      (match numbers.getLast? with
        | some last => decide (last < Nat.pow 256 (5 - numbers.length))
        | none => false)

/-- An octet in an IPv4 address inside an IPv6 address: no leading
zero. -/
def isOctet (cs : List Char) : Bool :=
  cs ≠ [] && cs.all Char.isDigit && (cs.head? != some '0' || cs.length == 1) &&
    decide (valueOf 10 cs ≤ 255)

/-- How many 16-bit pieces a list of groups makes up, if it is well
formed. Only the last group may be an IPv4 address. -/
def pieces? : List (List Char) → Option Nat
  | [] => some 0
  | [last] =>
    if last.contains '.' then
      let parts := splitAt '.' last
      if parts.length = 4 ∧ parts.all isOctet then some 2 else none
    else if last ≠ [] ∧ last.length ≤ 4 ∧ last.all (isDigitOf 16) then some 1 else none
  | g :: rest =>
    if g ≠ [] ∧ g.length ≤ 4 ∧ g.all (isDigitOf 16) then (pieces? rest).map (· + 1) else none

/-- Splits at the first double colon. -/
def splitCompressed : List Char → Option (List Char × List Char)
  | ':' :: ':' :: rest => some ([], rest)
  | c :: rest => (splitCompressed rest).map fun (a, b) => (c :: a, b)
  | [] => none

/-- The groups between colons; none in an empty text. -/
def groups (cs : List Char) : List (List Char) := if cs = [] then [] else splitAt ':' cs

/-- Whether a text is an IPv6 address. A double colon stands for at least
one piece. -/
def isIpv6 (cs : List Char) : Bool :=
  match splitCompressed cs with
  | none => pieces? (groups cs) = some 8
  | some (left, right) =>
    -- in front of the gap no IPv4 address may stand
    !left.contains '.' &&
      match pieces? (groups left), pieces? (groups right) with
      | some a, some b => decide (a + b ≤ 7)
      | _, _ => false

/-- Whether a text is an address in brackets. -/
def isBracketed (cs : List Char) : Bool :=
  cs.getLast? = some ']' && isIpv6 (cs.drop 1).dropLast

/-- The domain a text is for, its escapes undone. One that ends in a number
has to be an address. -/
def domain? (cs : List Char) : Option (List Char) :=
  (Domain.read? (Percent.decode cs)).filter fun domain => !endsInNumber domain || isIpv4 domain

/-- Whether a text is a host of a scheme. -/
def isValid (special : Bool) (cs : List Char) : Bool :=
  if cs.head? = some '[' then isBracketed cs
  else if special then (domain? cs).isSome
  else !cs.any forbidden

/-- Whether a text names the machine itself: not at all, or by its name. -/
def isLocal (cs : List Char) : Bool := cs = [] || domain? cs = some "localhost".toList

end Host

end Url

end DebugClient
