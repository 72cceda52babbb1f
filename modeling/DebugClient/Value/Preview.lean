import DebugClient.Text.Blank
import DebugClient.Value.Primitive
/-!
# Previews — a JSON value in a line

A JSON value that is shown like an object of the debugged program has a
description: the previews of its children between brackets, as many as
fit. `Preview.fill` is the rule: a child is added while the text so far
and the child make up no more than a hundred characters, and the first
that does not fit is replaced by an ellipsis. Separators are not counted
until they are part of the text so far.
-/

namespace DebugClient

namespace Preview

/-- How many characters a text and its next child may have. -/
def budget : Nat := 100

/-- Stands for the children left out. -/
def ellipsis : List Char := [',', '\u2026']

/-- Adds children to a text while they fit. -/
def fill (first : Bool) (text : List Char) : List (List Char) → List Char
  | [] => text
  | child :: rest =>
    if budget < text.length + child.length then text ++ ellipsis
    else fill false ((if first then text else text ++ [',', ' ']) ++ child) rest

/-- The children between brackets. -/
def enclose (opening closing : Char) (children : List (List Char)) : List Char :=
  fill true [opening] children ++ [closing]

/-- A text in one line and in quotes. -/
def quoted (cs : List Char) : List Char :=
  '"' :: (cs.map fun c => if c = '\n' then '\u21b5' else c) ++ ['"']

/-- Whether a member name cannot stand without quotes: it is empty, begins
or ends with white space, or holds a line end. -/
def needsQuotes (name : List Char) : Bool :=
  name.isEmpty || name.head?.any isBlank || name.getLast?.any isBlank || name.contains '\n'

/-- A member name. -/
def memberName (name : List Char) : List Char := if needsQuotes name then quoted name else name

mutual

/-- The description of a JSON value. -/
def describe : Json → List Char
  | .null => "null".toList
  | .bool b => (if b then "true" else "false").toList
  | .int n => (Double.ofInt n).toText.toList
  | .double d => d.toText.toList
  | .str s => s.toList
  | .arr items => enclose '[' ']' (children items)
  | .obj members => enclose '\x7b' '\x7d' (namedChildren members)

/-- A JSON value as a child of another: texts are in quotes. -/
def child : Json → List Char
  | .null => "null".toList
  | .bool b => (if b then "true" else "false").toList
  | .int n => (Double.ofInt n).toText.toList
  | .double d => d.toText.toList
  | .str s => quoted s.toList
  | .arr items => enclose '[' ']' (children items)
  | .obj members => enclose '\x7b' '\x7d' (namedChildren members)

/-- The children of an array. -/
def children : List Json → List (List Char)
  | [] => []
  | j :: rest => child j :: children rest

/-- The children of an object, each behind its name. -/
def namedChildren : List (String × Json) → List (List Char)
  | [] => []
  | (n, j) :: rest => (memberName n.toList ++ ':' :: ' ' :: child j) :: namedChildren rest

end

end Preview

end DebugClient
