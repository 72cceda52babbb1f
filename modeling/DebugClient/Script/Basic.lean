import DebugClient.Location.Basic
import DebugClient.Wire.Event
/-!
# Scripts

A `Script` holds what was reported when it was parsed and never changes.
What does change, its source map URL and whether its source has been
fetched, the session keeps under the script's `key`: two scripts of one
identifier, one parsed after the other was forgotten, differ in it.
-/

namespace DebugClient

/-- Tells apart the objects that the sessions of a process have made. -/
structure Key where
  /-- Place of the session that made it. -/
  seat : Nat
  /-- Its number in that session. -/
  number : Nat
  deriving DecidableEq

/-- The key after a key. -/
def Key.next (k : Key) : Key := { k with number := k.number + 1 }

/-- A script the backend has reported. -/
structure Script where
  /-- Tells it apart from every other script. -/
  key : Key
  /-- Identifier. -/
  scriptId : ScriptId
  /-- URL; empty for an anonymous script. -/
  sourceUrl : String
  /-- First line inside its resource. -/
  lineOffset : Nat
  /-- First column on that line. -/
  columnOffset : Nat
  /-- Last line. -/
  endLine : Nat
  /-- Last column on that line. -/
  endColumn : Nat
  /-- Context it was compiled in. -/
  contextId : ContextId
  /-- Hash of the content. -/
  hash : String
  /-- Whether it runs in a context of an extension. -/
  isContentScript : Bool
  /-- Whether it replaces a script that was edited. -/
  isLiveEdit : Bool
  /-- Whether the URL is declared in the source. -/
  hasSourceUrl : Bool
  /-- Length of the source. -/
  length : Nat
  /-- Whether it is a module. -/
  isModule : Bool
  /-- Language of the source. -/
  language : ScriptLanguage
  /-- Whether it failed to compile. -/
  hasSyntaxError : Bool
  /-- Where it was created from. -/
  originStackTrace : Option Wire.StackTrace
  /-- Name given by the embedder. -/
  embedderName : Option String
  /-- The source map URL it was reported with. -/
  reportedMapUrl : Option String

namespace Script

/-- A text that is there and not empty. -/
def nonEmpty (text : Option String) : Option String := text.filter (· ≠ "")

/-- The script of a report. -/
def ofReport (key : Key) (r : Wire.ScriptReport) (hasSyntaxError isContentScript : Bool) : Script where
  key := key
  scriptId := r.scriptId
  sourceUrl := r.url
  lineOffset := r.startLine
  columnOffset := r.startColumn
  endLine := r.endLine
  endColumn := r.endColumn
  contextId := r.executionContextId
  hash := r.hash
  isContentScript := isContentScript
  isLiveEdit := r.isLiveEdit
  hasSourceUrl := r.hasSourceUrl
  length := r.length
  isModule := r.isModule
  language := r.language
  hasSyntaxError := hasSyntaxError
  originStackTrace := r.stackTrace
  embedderName := r.embedderName
  reportedMapUrl := nonEmpty r.sourceMapUrl

/-- Whether the script has no URL. -/
def isAnonymous (s : Script) : Bool := s.sourceUrl == ""

/-- Whether the script is a WebAssembly module. -/
def isWasm (s : Script) : Bool := s.language == .webAssembly

/-- Whether the script starts inside its resource, as a script in a
document does. -/
def isInline (s : Script) : Bool := !s.isWasm && (s.lineOffset != 0 || s.columnOffset != 0)

/-- Whether the script starts at a position or in front of it. Without a
column only the lines count. -/
def startsBy (s : Script) (line : Nat) (column : Option Nat) : Bool :=
  decide (s.lineOffset < line) ||
    (line == s.lineOffset && column.all fun c => decide (s.columnOffset ≤ c))

/-- Whether the script ends at a position or behind it. Without a column
only the lines count. -/
def endsBy (s : Script) (line : Nat) (column : Option Nat) : Bool :=
  decide (line < s.endLine) ||
    (line == s.endLine && column.all fun c => decide (c ≤ s.endColumn))

/-- Whether the script covers a position. -/
def contains (s : Script) (line : Nat) (column : Option Nat) : Bool :=
  s.startsBy line column && s.endsBy line column

/-- A place in the script. -/
def location (s : Script) (line : Nat) (column : Option Nat) (inline : Nat) : Location :=
  ⟨s.scriptId, line, column, inline⟩

/-- The identity of the source map of a script: the same for two scripts
of one URL in one context that declare the same map. -/
def mapIdentity (context : ContextId) (sourceUrl : String) (mapUrl : Option String) : Option String :=
  (nonEmpty mapUrl).map fun url => s!"{context}:{sourceUrl}:{url}"

/-- Without a column a script covers the lines from its first to its
last. -/
theorem contains_none_iff {s : Script} {line : Nat} :
    s.contains line none = true ↔ s.lineOffset ≤ line ∧ line ≤ s.endLine := by
  simp [contains, startsBy, endsBy]
  omega

end Script

end DebugClient
