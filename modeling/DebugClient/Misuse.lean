/-!
# Misuse — requests that break a contract

Failures of the backend are no errors of a session; only a caller that
asks for what cannot be is told so.
-/

namespace DebugClient

/-- How a caller broke a contract. -/
inductive Misuse where
  /-- The frame cannot be started again. -/
  | frameNotRestartable
  /-- No frame is selected. -/
  | noFrameSelected
  /-- The value is no array. -/
  | notAnArray
  /-- The value is no buffer. -/
  | notABuffer
  /-- The value is no function. -/
  | notAFunction
  /-- The index is past the length. -/
  | indexOutOfRange (index length : Nat)
  /-- The byte range does not fit. -/
  | bytesOutOfBounds (start finish length : Nat)
  /-- The call on the backend gave nothing. -/
  | callFailed
  deriving DecidableEq

namespace Misuse

/-- The text of a misuse. -/
def message : Misuse → String
  | .frameNotRestartable => "call frame cannot be restarted"
  | .noFrameSelected => "no call frame selected"
  | .notAnArray => "object is empty or not an array"
  | .notABuffer => "object is not an arraybuffer"
  | .notAFunction => "object is empty or not a function"
  | .indexOutOfRange index length => s!"index {index} is out of range for length {length}"
  | .bytesOutOfBounds start finish length =>
    s!"byte range {start}..{finish} is out of bounds for length {length}"
  | .callFailed => "function call threw or returned no value"

end Misuse

end DebugClient
