import DebugClient.Double.Shortest
import DebugClient.Json.Number
/-!
# JSON — reading and writing text

Reading goes in two machines. `Lexer` takes one character at a time and
yields tokens; `Reader` takes one token at a time and keeps the open
containers on a stack, so that a text is read in one pass and nothing
bounds its depth. What comes out is a `Tree`: the text's structure as
written, with repeated members, and with a hole where a string holds
half a surrogate pair or a numeral exceeds the doubles. A `Tree` without
holes has a value (`Tree.value?`), in which the last of repeated members
stands; a reader that skips parts of a document looks at the `Tree`
itself.

Writing (`Json.text`) is compact, with members in their order.
-/

namespace DebugClient

namespace Json

/-! ## Tokens -/

/-- A lexical unit of a JSON text. -/
inductive Token where
  /-- An opening bracket. -/
  | openArray
  /-- A closing bracket. -/
  | closeArray
  /-- An opening brace. -/
  | openObject
  /-- A closing brace. -/
  | closeObject
  /-- A comma. -/
  | comma
  /-- A colon. -/
  | colon
  /-- The word for no value. -/
  | null
  /-- A truth word. -/
  | bool (b : Bool)
  /-- A numeral and the number it denotes. -/
  | number (value : Option Json)
  /-- A string and the text it denotes. -/
  | string (value : Option String)

/-- The text of code units, with surrogates paired; `none` if one stands
alone. -/
def ofUnits : List Nat → Option (List Char)
  | [] => some []
  | u :: rest =>
    if 0xD800 ≤ u ∧ u < 0xDC00 then
      match rest with
      | v :: rest =>
        if 0xDC00 ≤ v ∧ v < 0xE000 then
          (ofUnits rest).map (Char.ofNat (0x10000 + (u - 0xD800) * 0x400 + (v - 0xDC00)) :: ·)
        else none
      | [] => none
    else if 0xDC00 ≤ u ∧ u < 0xE000 then none
    else (ofUnits rest).map (Char.ofNat u :: ·)

/-- Where the lexer stands. Characters of an unfinished unit are kept in
reverse. -/
inductive Lexer where
  /-- Between units. -/
  | between
  /-- Inside a word. -/
  | word (seen : List Char)
  /-- Inside a numeral. -/
  | numeral (seen : List Char)
  /-- Inside a string. -/
  | string (seen : List Nat)
  /-- Behind a backslash. -/
  | escape (seen : List Nat)
  /-- Inside a four-digit escape: digits left, value so far. -/
  | unit (seen : List Nat) (left : Nat) (value : Nat)

namespace Lexer

/-- Characters that only separate. -/
def isBlank (c : Char) : Bool := c = ' ' || c = '\n' || c = '\t' || c = '\r'

/-- Characters a numeral may hold. -/
def inNumeral (c : Char) : Bool :=
  c.isDigit || c = '-' || c = '+' || c = '.' || c = 'e' || c = 'E'

/-- The token of a finished word. -/
def wordToken (w : List Char) : Option Token :=
  if w = ['n', 'u', 'l', 'l'] then some .null
  else if w = ['t', 'r', 'u', 'e'] then some (.bool true)
  else if w = ['f', 'a', 'l', 's', 'e'] then some (.bool false)
  else none

/-- The token of a punctuation mark. -/
def mark? (c : Char) : Option Token :=
  match c with
  | '[' => some .openArray
  | ']' => some .closeArray
  | '{' => some .openObject
  | '}' => some .closeObject
  | ',' => some .comma
  | ':' => some .colon
  | _ => none

/-- What a single-character escape stands for. -/
def escaped? (c : Char) : Option Nat :=
  match c with
  | '"' => some 0x22
  | '\\' => some 0x5C
  | '/' => some 0x2F
  | 'b' => some 0x08
  | 'f' => some 0x0C
  | 'n' => some 0x0A
  | 'r' => some 0x0D
  | 't' => some 0x09
  | _ => none

/-- The value of a hexadecimal digit. -/
def hexDigit? (c : Char) : Option Nat :=
  if c.isDigit then some (c.toNat - '0'.toNat)
  else if 'a' ≤ c ∧ c ≤ 'f' then some (c.toNat - 'a'.toNat + 10)
  else if 'A' ≤ c ∧ c ≤ 'F' then some (c.toNat - 'A'.toNat + 10)
  else none

/-- The step from between two units. -/
def start (c : Char) : Option (Lexer × List Token) :=
  if isBlank c then some (.between, [])
  else if c = '"' then some (.string [], [])
  else if c = '-' || c.isDigit then some (.numeral [c], [])
  else if c.isAlpha then some (.word [c], [])
  else (mark? c).map fun t => (.between, [t])

/-- Finishes a word or numeral at the character behind it. -/
def endUnit (token : Option Token) (c : Char) : Option (Lexer × List Token) := do
  let t ← token
  let (l, ts) ← start c
  return (l, t :: ts)

/-- The token of a finished numeral. -/
def numeralToken (seen : List Char) : Option Token :=
  (Numeral.read? seen.reverse).map fun n => .number n.value?

/-- One character: where the lexer stands then, and the tokens it has
finished. -/
def step (l : Lexer) (c : Char) : Option (Lexer × List Token) :=
  match l with
  | .between => start c
  | .word seen => if c.isAlpha then some (.word (c :: seen), []) else endUnit (wordToken seen.reverse) c
  | .numeral seen => if inNumeral c then some (.numeral (c :: seen), []) else endUnit (numeralToken seen) c
  | .string seen =>
    if c = '"' then some (.between, [.string ((ofUnits seen.reverse).map String.ofList)])
    else if c = '\\' then some (.escape seen, [])
    else if c.toNat < 0x20 then none
    else some (.string (c.toNat :: seen), [])
  | .escape seen =>
    if c = 'u' then some (.unit seen 4 0, [])
    else (escaped? c).map fun u => (.string (u :: seen), [])
  | .unit seen left value =>
    (hexDigit? c).map fun d =>
      let value := 16 * value + d
      if left ≤ 1 then (.string (value :: seen), []) else (.unit seen (left - 1) value, [])

/-- The tokens still owed at the end of the text. -/
def finish : Lexer → Option (List Token)
  | .between => some []
  | .word seen => (wordToken seen.reverse).map ([·])
  | .numeral seen => (numeralToken seen).map ([·])
  | _ => none

end Lexer

/-! ## Structure -/

/-- A JSON text as written. -/
inductive Tree where
  /-- The null value. -/
  | null
  /-- A truth value. -/
  | bool (b : Bool)
  /-- A number, if the numeral denotes one. -/
  | number (value : Option Json)
  /-- A text, if the string denotes one. -/
  | string (value : Option String)
  /-- Items in their order. -/
  | arr (items : List Tree)
  /-- Members in their order, repeated ones included. -/
  | obj (members : List (Option String × Tree))
  deriving Inhabited

/-- A container whose end has not been read. What it holds so far is in
reverse. -/
inductive Pending where
  /-- An array. -/
  | arr (items : List Tree)
  /-- An object between members. -/
  | obj (members : List (Option String × Tree))
  /-- An object inside the member of a name. -/
  | member (members : List (Option String × Tree)) (name : Option String)

/-- Where the reader stands, and the containers around it, innermost
first. -/
inductive Reader where
  /-- A value has to follow. -/
  | value (around : List Pending)
  /-- Behind an opening bracket. -/
  | firstItem (around : List Pending)
  /-- Behind an opening brace. -/
  | firstMember (around : List Pending)
  /-- A member name has to follow. -/
  | name (members : List (Option String × Tree)) (around : List Pending)
  /-- A colon has to follow. -/
  | colon (members : List (Option String × Tree)) (name : Option String) (around : List Pending)
  /-- A value has ended. -/
  | ended (t : Tree) (around : List Pending)

namespace Reader

/-- The step at the beginning of a value. -/
def begin (around : List Pending) : Token → Option Reader
  | .null => some (.ended .null around)
  | .bool b => some (.ended (.bool b) around)
  | .number v => some (.ended (.number v) around)
  | .string v => some (.ended (.string v) around)
  | .openArray => some (.firstItem around)
  | .openObject => some (.firstMember around)
  | _ => none

/-- One token. -/
def step (r : Reader) (t : Token) : Option Reader :=
  match r, t with
  | .value around, t => begin around t
  | .firstItem around, .closeArray => some (.ended (.arr []) around)
  | .firstItem around, t => begin (.arr [] :: around) t
  | .firstMember around, .closeObject => some (.ended (.obj []) around)
  | .firstMember around, .string n => some (.colon [] n around)
  | .firstMember _, _ => none
  | .name members around, .string n => some (.colon members n around)
  | .name _ _, _ => none
  | .colon members n around, .colon => some (.value (.member members n :: around))
  | .colon _ _ _, _ => none
  | .ended v (.arr items :: around), .comma => some (.value (.arr (v :: items) :: around))
  | .ended v (.arr items :: around), .closeArray => some (.ended (.arr (v :: items).reverse) around)
  | .ended v (.member members n :: around), .comma => some (.name ((n, v) :: members) around)
  | .ended v (.member members n :: around), .closeObject =>
    some (.ended (.obj ((n, v) :: members).reverse) around)
  | .ended _ _, _ => none

/-- The tree read, if the text may end here. -/
def result : Reader → Option Tree
  | .ended t [] => some t
  | _ => none

/-- Several tokens. -/
def steps (r : Reader) (ts : List Token) : Option Reader := ts.foldlM step r

end Reader

/-- Reads characters with both machines. -/
def readChars (l : Lexer) (r : Reader) : List Char → Option Tree
  | [] => do
    let ts ← l.finish
    (← r.steps ts).result
  | c :: rest => do
    let (l, ts) ← l.step c
    readChars l (← r.steps ts) rest

/-- The structure of a JSON text. -/
def readTree (text : String) : Option Tree := readChars .between (.value []) text.toList

namespace Tree

mutual

/-- The value of a tree without holes, nested at most `depth` deep. The
last of repeated members stands. -/
def valueWithin (depth : Nat) : Tree → Option Json
  | .null => some .null
  | .bool b => some (.bool b)
  | .number v => v
  | .string v => v.map .str
  | .arr items =>
    match depth with
    | 0 => none
    | depth + 1 => (valuesWithin depth items).map .arr
  | .obj members =>
    match depth with
    | 0 => none
    | depth + 1 => (membersWithin depth members).map Json.object

/-- The values of array items. -/
def valuesWithin (depth : Nat) : List Tree → Option (List Json)
  | [] => some []
  | t :: rest =>
    match valueWithin depth t, valuesWithin depth rest with
    | some j, some js => some (j :: js)
    | _, _ => none

/-- The values of object members. -/
def membersWithin (depth : Nat) : List (Option String × Tree) → Option (List (String × Json))
  | [] => some []
  | (n, t) :: rest =>
    match n, valueWithin depth t, membersWithin depth rest with
    | some n, some j, some js => some ((n, j) :: js)
    | _, _, _ => none

end

/-- The deepest nesting a document may have. -/
def maxDepth : Nat := 127

/-- The value of a tree. -/
def value? (t : Tree) : Option Json := t.valueWithin maxDepth

end Tree

/-- Reads a JSON text. -/
def read? (text : String) : Option Json := (readTree text).bind Tree.value?

/-! ## Writing -/

/-- The four hexadecimal digits of a code unit. -/
def unitDigits (u : Nat) : List Char :=
  let ds := Nat.toDigits 16 u
  List.replicate (4 - ds.length) '0' ++ ds

/-- Appends a character of a string, escaped where it has to be. -/
def pushEscaped (out : String) (c : Char) : String :=
  if c = '"' then out ++ "\\\""
  else if c = '\\' then out ++ "\\\\"
  else if c.toNat < 0x20 then out ++ "\\u" ++ String.ofList (unitDigits c.toNat)
  else out.push c

/-- Appends a string in quotes. -/
def pushString (out : String) (s : String) : String :=
  (s.toList.foldl pushEscaped (out.push '"')).push '"'

/-- The numeral of a finite double, with a point where it would otherwise
read as an integer. -/
def doubleText (d : Double) : String :=
  let text := if d = Double.negZero then "-0" else d.toText
  if text.toList.all fun c => c.isDigit || c = '-' then text ++ ".0" else text

mutual

/-- Appends a value. -/
def push (out : String) : Json → String
  | .null => out ++ "null"
  | .bool b => out ++ (if b then "true" else "false")
  | .int n => out ++ toString n
  | .double d => out ++ doubleText d
  | .str s => pushString out s
  | .arr items => (pushItems (out.push '[') true items).push ']'
  | .obj members => (pushMembers (out.push '\x7b') true members).push '\x7d'

/-- Appends array items, each behind a comma but the first. -/
def pushItems (out : String) (first : Bool) : List Json → String
  | [] => out
  | j :: rest => pushItems (push (if first then out else out.push ',') j) false rest

/-- Appends members, each behind a comma but the first. -/
def pushMembers (out : String) (first : Bool) : List (String × Json) → String
  | [] => out
  | (n, j) :: rest =>
    pushMembers (push ((pushString (if first then out else out.push ',') n).push ':') j) false rest

end

/-- The compact text of a value. -/
def text (j : Json) : String := push "" j

end Json

end DebugClient
