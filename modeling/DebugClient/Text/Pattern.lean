/-!
# Patterns — alternatives of literal characters

A breakpoint that has to match several spellings of a URL is sent as a
regular expression. The only ones needed are alternatives of character
sequences, some of whose characters come in a choice. `Pattern` is their
structure, `Pattern.Matches` what they match as a whole text, and
`Pattern.text` the expression in the notation of the backend, every
character with a meaning in it escaped.
-/

namespace DebugClient

namespace Pattern

/-- One position of a sequence. -/
inductive Item where
  /-- This character. -/
  | char (c : Char)
  /-- One of these characters, ASCII letters. -/
  | anyOf (cs : List Char)
  deriving DecidableEq

/-- Whether an item matches a character. -/
def Item.Matches : Item → Char → Prop
  | .char c, d => d = c
  | .anyOf cs, d => d ∈ cs

end Pattern

/-- A pattern: alternatives, each a sequence of items. -/
structure Pattern where
  /-- The alternatives. -/
  alternatives : List (List Pattern.Item)

namespace Pattern

/-- The sequence that matches one text. -/
def literal (cs : List Char) : List Item := cs.map .char

/-- Whether a sequence matches a whole text, item by item. -/
def SequenceMatches : List Item → List Char → Prop
  | [], [] => True
  | i :: items, c :: cs => i.Matches c ∧ SequenceMatches items cs
  | _, _ => False

/-- Whether a pattern matches a whole text: one alternative does. -/
def Matches (p : Pattern) (cs : List Char) : Prop :=
  ∃ items ∈ p.alternatives, SequenceMatches items cs

/-- Characters with a meaning in the notation. -/
def isMeta (c : Char) : Bool :=
  "\\.+*?()|[]\x7b\x7d^$#&-~".toList.contains c

/-- A character that stands for itself. -/
def escape (c : Char) : List Char := if isMeta c then ['\\', c] else [c]

/-- The notation of an item. -/
def Item.text : Item → List Char
  | .char c => escape c
  | .anyOf cs => '[' :: cs ++ [']']

/-- The notation of a pattern. -/
def text (p : Pattern) : String :=
  String.ofList (['|'].intercalate (p.alternatives.map fun items => items.flatMap Item.text))

/-! ## Small facts -/

/-- A literal matches its own text and no other. -/
theorem sequenceMatches_literal_iff {cs ds : List Char} :
    SequenceMatches (literal cs) ds ↔ ds = cs := by
  induction cs generalizing ds with
  | nil => cases ds <;> simp [literal, SequenceMatches]
  | cons c cs ih =>
    cases ds with
    | nil => simp [literal, SequenceMatches]
    | cons d ds =>
      have := @ih ds
      simp only [literal] at this
      simp [literal, SequenceMatches, Item.Matches, this]

end Pattern

end DebugClient
