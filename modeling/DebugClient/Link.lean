import DebugClient.Json.Basic
/-!
# The link to the backend — how a request can fail

A request is refused by the backend, answered in a shape that cannot be
read, or lost with the connection. None of these ends a session: what
was asked for is then simply not there, or the text of the failure is
the answer.
-/

namespace DebugClient

/-- Why a request has no answer. -/
inductive LinkError where
  /-- The backend refused it. -/
  | refused (text : String)
  /-- Its parameters have no written form. -/
  | unwritable (method detail : String)
  /-- The answer has the wrong shape. -/
  | malformed (method detail : String)
  /-- The connection is gone. -/
  | closed
  deriving DecidableEq

namespace LinkError

/-- The text of a failure. -/
def message : LinkError → String
  | .refused text => text
  | .unwritable method detail => s!"failed to serialize params for {method}: {detail}"
  | .malformed method detail => s!"malformed response for {method}: {detail}"
  | .closed => "connection closed"

/-- The backend's own words, if it refused. -/
def refusal? : LinkError → Option String
  | .refused text => some text
  | _ => none

end LinkError

/-- The answer to a request. -/
abbrev Reply := Except LinkError Json

end DebugClient
