import DebugClient.Url.Domain.Label
import DebugClient.Text.Utf8
/-!
# Domains — names of hosts in any script

A domain is labels with points between them. It is mapped and composed
first, which may bring points with it; then every label has to be one that
may stand in a domain, and all of them have to have a direction if one
holds a character that runs to the left. What counts afterwards is the
mapped text, in which labels in Punycode stay as they were written.
-/

namespace DebugClient

namespace Url

/-- Splits at every occurrence of a separator. -/
def splitAt (sep : Char) : List Char → List (List Char)
  | [] => [[]]
  | c :: rest =>
    if c = sep then [] :: splitAt sep rest
    else
      match splitAt sep rest with
      | [] => [[c]]
      | part :: parts => (c :: part) :: parts

namespace Domain

/-- Characters of ASCII that no domain may hold. -/
def forbidden (c : Char) : Bool :=
  c.toNat ≤ 0x20 || c.toNat = 0x7f || "#%/:<>?@[\\]^|".toList.contains c

/-- The domain a text is mapped to, if all its characters may stand there. -/
def mapped? (cs : List Char) : Option (List Char) :=
  ((Mapping.imageOf? cs).map Composition.compose).filter fun text => !text.any forbidden

/-- Whether a text holds a character that runs to the left. -/
def runsLeftward (cs : List Char) : Bool := cs.any fun c => (Direction.ofChar c).isLeftward

/-- Whether the directions of labels go together. -/
def areDirected (labels : List (List Char)) : Bool :=
  !labels.any runsLeftward || labels.all Label.isDirected

/-- The mapped text of a domain, if the text is one. -/
def read? (cs : List Char) : Option (List Char) := do
  let text ← mapped? cs
  let labels ← (splitAt '.' text).mapM Label.read?
  if text ≠ [] ∧ areDirected labels then some text else none

end Domain

end Url

end DebugClient
