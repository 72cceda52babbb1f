import DebugClient.Misuse
import DebugClient.Session.Listings
/-!
# Views — values as arrays, buffers and functions

A value is seen as an array, a buffer or a function only if it is one
(`asArray?`, `asBuffer?`, `asFunction?`). Elements and bytes are fetched
within the length its description gives.
-/

namespace DebugClient

/-- Where a function is defined and what it is called. -/
structure FunctionDetails where
  /-- Where it is defined. -/
  location : Option Location
  /-- Its name. -/
  name : String

namespace Value

/-! ## Arrays -/

/-- The value, if it is an array or a typed array. -/
def asArray? (v : Value) : Except Misuse Value :=
  if v.type = .object ∧ (v.subtype = some .array ∨ v.subtype = some .typedarray) then .ok v
  else .error .notAnArray

/-- Source of the function that reads an element. -/
def indexing : String := "function(index) \x7b return this[index]; \x7d"

/-- The element of an array at an index. -/
def element (v : Value) (index : Nat) : Work (Except Misuse Value) := do
  if v.arrayLength ≤ index then return .error (.indexOutOfRange index v.arrayLength)
  else
    let outcome ← v.call indexing [{ value := some (.int index) }]
    match outcome.object, outcome.threw with
    | some object, false => return .ok object
    | _, _ => return .error .callFailed

/-! ## Buffers -/

/-- The value, if it is a buffer. -/
def asBuffer? (v : Value) : Except Misuse Value :=
  if v.type = .object ∧ v.subtype = some .arraybuffer then .ok v else .error .notABuffer

/-- Source of the function that reads bytes. -/
def slicing : String :=
  "function(offset, length) \x7b return [...new Uint8Array(this, offset, length)]; \x7d"

/-- The wire form of bytes. -/
def bytesCodec : Codec (List Nat) := .list (.natBelow 256)

/-- The bytes of a buffer from a place to another, or to its end. -/
def bytes (v : Value) (start : Nat) (finish? : Option Nat) : Work (Except Misuse (List Nat)) := do
  let length := v.bufferLength
  let finish := finish?.getD length
  if length ≤ start ∨ finish < start ∨ length < finish then
    return .error (.bytesOutOfBounds start finish length)
  else
    let json ← v.callJson slicing
      [{ value := some (.int start) }, { value := some (.int (finish - start : Nat)) }]
    match json.bind bytesCodec.read with
    | some bs => return .ok bs
    | none => return .error .callFailed

/-! ## Functions -/

/-- The value, if it is a function. -/
def asFunction? (v : Value) : Except Misuse Value :=
  if v.type = .function then .ok v else .error .notAFunction

/-- The slot that holds the function a bound function calls. -/
def targetSlot : String := "[[TargetFunction]]"

/-- The slot that holds where a function is defined. -/
def locationSlot : String := "[[FunctionLocation]]"

/-- The function a bound function calls; none if it is not bound. -/
def boundTarget? (v : Value) : Work (Option Value) := do
  let listing ← v.listOwn false false
  return ((listing.internal.getD []).find? (·.name == targetSlot)).bind (·.value)

/-- The location a slot holds. -/
def slotLocation? (slot : Value) : Option Location :=
  match slot.primitive? with
  | some (.json j) => (Wire.Location.codec.read j).map .ofWire
  | _ => none

/-- The text a property holds. -/
def heldText? (p : Property) : Option String :=
  match p.value.bind primitive? with
  | some (.string s) => some s
  | _ => none

/-- Where a listed function is defined and what it is called. Of slots and
properties of one name the last counts. -/
def detailsOf (properties internal : List Property) : FunctionDetails where
  location :=
    (((internal.filter (·.name == locationSlot)).filterMap (·.value)).getLast?).bind slotLocation?
  name := (((properties.filter (·.name == "name")).filterMap heldText?).getLast?).getD ""

/-- Where a function is defined and what it is called. -/
def functionDetails (v : Value) : Work (Option FunctionDetails) := do
  let listing ← v.listAll false false false
  return listing.properties.map fun properties => detailsOf properties (listing.internal.getD [])

/-- Where a function is defined, as far as its session exists. -/
def knownDetails (v : Value) : Work (Option FunctionDetails) := do
  if v.handle?.isSome && (← Flow.look (·.live)) then Session.holding v.functionDetails
  else return none

/-- The details of the function a function calls in the end. A bound target
that was fetched for it is released again. -/
def targetDetails (v : Value) : Work (Option FunctionDetails) := do
  let target? ← v.boundTarget?
  let details ← (target?.getD v).knownDetails
  match target? with
  | some target => target.release
  | none => pure ()
  return details

end Value

end DebugClient
