import DebugClient.Value.Property
import DebugClient.Wire.Reply
/-!
# Fresh values — keys for what is made

Every handle gets a key no other handle has: the place of the session
that made it, and a number in that session. Making values is therefore a
computation that counts keys, `Fresh`; a value without an identifier takes
none.
-/

namespace DebugClient

/-- Makes something that holds keys; the state is the next free key. -/
abbrev Fresh := StateM Key

namespace Fresh

/-- A key nothing else has. -/
def key : Fresh Key := fun k => (k, k.next)

end Fresh

namespace Value

/-- The value of a wire object: a handle if it is named, and otherwise a
primitive. -/
def ofRemote (o : Wire.RemoteObject) : Fresh Value :=
  match o.objectId with
  | some id => do return .handle (.ofRemote (← Fresh.key) id o)
  | none => return .primitive (.ofRemote o)

/-- The object that holds the variables of a scope. -/
def scopeOfRemote (o : Wire.RemoteObject) (ref : ScopeRef) : Fresh Value :=
  match o.objectId with
  | some id => do return .scope (.ofRemote (← Fresh.key) id o) ref
  | none => return .primitive (.ofRemote o)

/-- The value of a wire object that may be absent. -/
def ofRemote? : Option Wire.RemoteObject → Fresh (Option Value)
  | some o => do return some (← ofRemote o)
  | none => return none

/-- The accessor of a wire object; an undefined one is none. -/
def accessor? (o : Option Wire.RemoteObject) : Fresh (Option Value) :=
  ofRemote? (o.filter (·.type ≠ .undefined))

end Value

namespace Property

/-- A property of an object. A property with a value has no accessors. -/
def ofWire (p : Wire.Property) : Fresh Property := do
  let value ← Value.ofRemote? p.value
  let symbol ← Value.ofRemote? p.symbol
  let getter ← if p.value.isSome then pure none else Value.accessor? p.getter
  let setter ← if p.value.isSome then pure none else Value.accessor? p.setter
  return {
    name := p.name
    value, symbol, getter, setter
    enumerable := p.enumerable
    writable := p.writable.getD false
    isOwn := p.isOwn.getD false
    wasThrown := p.wasThrown.getD false }

/-- A private member of an object. -/
def ofPrivate (p : Wire.PrivateProperty) : Fresh Property := do
  let value ← Value.ofRemote? p.value
  let getter ← if p.value.isSome then pure none else Value.accessor? p.getter
  let setter ← if p.value.isSome then pure none else Value.accessor? p.setter
  return { name := p.name, value, getter, setter, isOwn := true, isPrivate := true }

/-- The name of the slot that identifies an object across snapshots; it is
never shown. -/
def stableId : String := "[[StableObjectId]]"

/-- The internal slots that are shown: those that have a value. -/
def shownSlots (slots : List Wire.InternalProperty) : List (String × Wire.RemoteObject) :=
  slots.filterMap fun s => if s.name = stableId then none else s.value.map (s.name, ·)

/-- An internal slot. It cannot be written. -/
def ofSlot (slot : String × Wire.RemoteObject) : Fresh Property := do
  return { name := slot.1, value := some (← Value.ofRemote slot.2), writable := false }

end Property

/-- The listing of an answer. -/
def Listing.ofReply (r : Wire.Reply.Properties) : Fresh Listing := do
  let named ← r.result.mapM Property.ofWire
  let privates ← (r.privates.getD []).mapM Property.ofPrivate
  let internal ← (Property.shownSlots (r.internal.getD [])).mapM Property.ofSlot
  return { properties := some (named ++ privates), internal := some internal }

/-! ## Small facts -/

namespace Fresh

variable {α β γ : Type}

/-- What is made of a list is made of its first, and then of the others. -/
theorem mapM_cons (f : α → Fresh β) (x : α) (l : List α) (k : Key) :
    ((x :: l).mapM f k).1 = (f x k).1 :: (l.mapM f (f x k).2).1 := by
  rw [List.mapM_cons]
  rfl

/-- What does not depend on the keys is read off the list. -/
theorem map_mapM {f : α → Fresh β} {g : β → γ} {g' : α → γ} (same : ∀ x k, g (f x k).1 = g' x)
    (l : List α) (k : Key) : (l.mapM f k).1.map g = l.map g' := by
  induction l generalizing k with
  | nil => rfl
  | cons x rest ih => rw [mapM_cons, List.map_cons, List.map_cons, same, ih]

/-- What is made of each of a list is made of one of them. -/
theorem mem_mapM {f : α → Fresh β} {l : List α} {k : Key} {y : β} (there : y ∈ (l.mapM f k).1) :
    ∃ x ∈ l, ∃ k', y = (f x k').1 := by
  induction l generalizing k with
  | nil => cases there
  | cons x rest ih =>
    rw [mapM_cons] at there
    rcases List.mem_cons.1 there with rfl | later
    · exact ⟨x, .head _, k, rfl⟩
    · obtain ⟨z, hz, made⟩ := ih later
      exact ⟨z, .tail _ hz, made⟩

end Fresh

/-- A handle counts one key. -/
theorem Value.ofRemote_handle {o : Wire.RemoteObject} {id : ObjectId} (h : o.objectId = some id)
    (k : Key) : Value.ofRemote o k = (.handle (.ofRemote k id o), k.next) := by
  unfold Value.ofRemote
  rw [h]
  rfl

/-- A primitive counts none. -/
theorem Value.ofRemote_primitive {o : Wire.RemoteObject} (h : o.objectId = none) (k : Key) :
    Value.ofRemote o k = (.primitive (.ofRemote o), k) := by
  unfold Value.ofRemote
  rw [h]
  rfl

theorem Value.ofRemote?_made {o : Option Wire.RemoteObject} {k : Key} {v : Value}
    (is : (Value.ofRemote? o k).1 = some v) : ∃ r k', o = some r ∧ v = (Value.ofRemote r k').1 := by
  cases o with
  | none => cases is
  | some r => exact ⟨r, k, rfl, (Option.some.inj is).symm⟩

theorem Property.ofWire_made (w : Wire.Property) (k : Key) :
    (Property.ofWire w k).1.name = w.name ∧
      (Property.ofWire w k).1.value = (Value.ofRemote? w.value k).1 := by
  obtain ⟨name, value⟩ := w
  cases value <;> exact ⟨rfl, rfl⟩

theorem Property.ofPrivate_made (w : Wire.PrivateProperty) (k : Key) :
    (Property.ofPrivate w k).1.name = w.name ∧
      (Property.ofPrivate w k).1.value = (Value.ofRemote? w.value k).1 := by
  obtain ⟨name, value⟩ := w
  cases value <;> exact ⟨rfl, rfl⟩

end DebugClient
