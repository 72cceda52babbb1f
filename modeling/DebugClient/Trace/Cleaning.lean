import DebugClient.Wire.Trace
/-!
# Cleaning — traces without their markers

The trace of an `async function` begins with a frame that only marks the
await, and is dropped (`TraceLink.clean`). A link that is then without
frames says nothing and is left out of the chain, unless it is the first.
-/

namespace DebugClient

namespace Wire

/-- The description of the body of an asynchronous function. -/
def asyncFunction : String := "async function"

/-- A link without the frame that marks an await. -/
def TraceLink.clean (l : TraceLink) : TraceLink :=
  if l.description = some asyncFunction then { l with callFrames := l.callFrames.tail } else l

/-- A trace without markers and without the links they leave empty. -/
def StackTrace.clean (t : StackTrace) : StackTrace where
  link := t.link.clean
  parents := (t.parents.map TraceLink.clean).filter fun l => !l.callFrames.isEmpty

@[simp] theorem TraceLink.clean_description (l : TraceLink) : l.clean.description = l.description := by
  unfold clean
  split <;> rfl

@[simp] theorem TraceLink.clean_parentId (l : TraceLink) : l.clean.parentId = l.parentId := by
  unfold clean
  split <;> rfl

end Wire

end DebugClient
