import DebugClient.Text.Pattern
import DebugClient.Text.Percent
/-!
# File URLs — the spellings of a local script

The backend may know a local script by its `file://` URL or by the path
on its disk, so a breakpoint by such a URL is set by a pattern that
matches both. The path is the URL behind the scheme with its percent
escapes undone; on Windows the slashes turn, and the drive letter
matches in either case.
-/

namespace DebugClient

namespace FileUrl

/-- What follows a beginning in a text that has it. -/
def behind? (beginning text : List Char) : Option (List Char) :=
  if beginning.isPrefixOf text then some (text.drop beginning.length) else none

/-- The path of a `file://` URL on the disk; `none` for other URLs. -/
def path? (windows : Bool) (url : List Char) : Option (List Char) :=
  let decoded := Percent.decode url
  if windows then
    (behind? "file:///".toList decoded).map fun path =>
      path.map fun c => if c = '/' then '\\' else c
  else behind? "file://".toList decoded

/-- The letter of a path that begins with a drive. -/
def drive? (path : List Char) : Option Char :=
  match path with
  | d :: ':' :: '\\' :: _ => if d.isAlpha then some d else none
  | _ => none

/-- The sequence that matches a path. -/
def pathItems (windows : Bool) (path : List Char) : List Pattern.Item :=
  match drive? path with
  | some d =>
    if windows then .anyOf [d.toUpper, d.toLower] :: Pattern.literal path.tail
    else Pattern.literal path
  | none => Pattern.literal path

/-- The pattern of a `file://` URL: its path or itself. -/
def pattern? (windows : Bool) (url : String) : Option Pattern :=
  (path? windows url.toList).map fun path =>
    ⟨[pathItems windows path, Pattern.literal url.toList]⟩

end FileUrl

end DebugClient
