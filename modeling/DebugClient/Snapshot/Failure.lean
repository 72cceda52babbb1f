import DebugClient.Link
import DebugClient.Misuse
/-!
# Snapshots of failures — a word for the kind, and the text

A misuse and a failed request are shown alike: under a word that stands
for what went wrong, beside the text that says it.
-/

namespace DebugClient

/-- A failure under the word for its kind. -/
def Json.failure (word text : String) : Json := .obj [("error", .str word), ("message", .str text)]

namespace Misuse

/-- The word for a misuse. -/
def word : Misuse → String
  | .frameNotRestartable => "FrameNotRestartable"
  | .noFrameSelected => "NoCallFrameSelected"
  | .notAnArray => "NotAnArray"
  | .notABuffer => "NotAnArrayBuffer"
  | .notAFunction => "NotAFunction"
  | .indexOutOfRange _ _ => "IndexOutOfRange"
  | .bytesOutOfBounds _ _ _ => "ByteRangeOutOfBounds"
  | .callFailed => "CallFailed"

/-- A misuse. -/
def snapshot (m : Misuse) : Json := .failure m.word m.message

end Misuse

namespace LinkError

/-- The word for a failed request. -/
def word : LinkError → String
  | .refused _ => "Remote"
  | .unwritable _ _ => "Serialize"
  | .malformed _ _ => "Deserialize"
  | .closed => "Closed"

/-- A failed request. -/
def snapshot (e : LinkError) : Json := .failure e.word e.message

end LinkError

end DebugClient
