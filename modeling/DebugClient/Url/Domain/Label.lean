import DebugClient.Text.Composition
import DebugClient.Text.Direction
import DebugClient.Text.Joining
import DebugClient.Url.Domain.Mapping
import DebugClient.Url.Domain.Punycode
/-!
# Labels — the parts of a domain between its points

A label of ASCII stands as it is, unless it begins with the mark of a
label that is written in Punycode: then it is read, and has to be one that
is written so of need and in its one spelling. Any other label must not
begin with a combining mark, and may hold a joiner only where it has an
effect.

In a domain with characters that run to the left every label has one
direction (`Label.isDirected`): it begins with a letter of it, holds
nothing of the other, and ends in a letter or a number.
-/

namespace DebugClient

namespace Url

namespace Label

/-- Whether a character is one of ASCII. -/
def isAscii (c : Char) : Bool := c.toNat < 0x80

/-! ## Joiners -/

/-- Whether a joiner that keeps letters apart stands between letters that
would join: marks are passed over on both sides. The characters in front
come last first. -/
def partsLetters (before after : List Char) : Bool :=
  (before.dropWhile Joining.isTransparent).head?.any Joining.joinsNext &&
    (after.dropWhile Joining.isTransparent).head?.any Joining.joinsPrevious

/-- Whether the joiners of a label stand where they have an effect: behind
a virama, and one that keeps letters apart also between letters that would
join. `before` is what stands in front, last first. -/
def joinersFit (before : List Char) : List Char → Bool
  | [] => true
  | c :: rest =>
    let afterVirama := before.head?.any Combining.isVirama
    (if c = '\u200c' then afterVirama || partsLetters before rest
      else if c = '\u200d' then afterVirama
      else true) && joinersFit (c :: before) rest

/-! ## Directions -/

/-- Directions that may occur in a label that runs to the left. -/
def inLeftward (d : Direction) : Bool := d ≠ .right && d ≠ .gap

/-- Directions that may occur in a label that runs to the right. -/
def inRightward (d : Direction) : Bool := !d.isLeftward && d ≠ .gap

/-- The direction of the last character that is no mark. -/
def lastDirection? (ds : List Direction) : Option Direction :=
  (ds.reverse.dropWhile (· = .nonspacing)).head?

/-- Whether a label that runs to the left holds together: it does not mix
digits, and ends in a letter or a number. -/
def isLeftward (ds : List Direction) : Bool :=
  ds.all inLeftward && !(ds.contains .europeanNumber && ds.contains .arabicNumber) &&
    (lastDirection? ds).any fun d => d.isLeftward || d = .europeanNumber

/-- Whether a label that runs to the right holds together: it ends in a
letter or a number. -/
def isRightward (ds : List Direction) : Bool :=
  ds.all inRightward && (lastDirection? ds).any fun d => d = .right || d = .europeanNumber

/-- Whether a label has one direction. -/
def isDirected (cs : List Char) : Bool :=
  match cs.map Direction.ofChar with
  | [] => true
  | .left :: ds => isLeftward (.left :: ds)
  | .arabicLetter :: ds => isLeftward (.arabicLetter :: ds)
  | .right :: ds => isRightward (.right :: ds)
  | _ => false

/-! ## Reading -/

/-- What a label in Punycode begins with. -/
def mark : List Char := "xn--".toList

/-- Characters a label can have at most to be written in Punycode. -/
def longest : Nat := 1000

/-- Characters a label in Punycode can have at most to be read. -/
def longestWritten : Nat := 2000

/-- Whether the characters of a label may stand together. -/
def holdsTogether (cs : List Char) : Bool :=
  !mark.isPrefixOf cs && !cs.head?.any Mark.isMark && joinersFit [] cs

/-- Whether a label that was read from Punycode is in its one spelling. -/
def isSpelled (cs : List Char) : Bool := cs.all Mapping.keeps && Composition.compose cs == cs

/-- Reads a label behind the mark of Punycode. What is written so needs
characters beyond ASCII, and then does not end in a hyphen. -/
def ofPunycode? (cs : List Char) : Option (List Char) :=
  if cs.getLast? = none ∨ cs.getLast? = some '-' ∨ longestWritten < cs.length then none
  else (Punycode.decode? cs).filter fun label => isSpelled label && holdsTogether label

/-- The label a mapped text is for, if it may stand in a domain. -/
def read? (cs : List Char) : Option (List Char) :=
  if cs.all isAscii then
    if mark.isPrefixOf cs then ofPunycode? (cs.drop mark.length) else some cs
  else if cs.length ≤ longest ∧ holdsTogether cs then some cs
  else none

end Label

end Url

end DebugClient
