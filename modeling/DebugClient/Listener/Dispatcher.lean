/-!
# Dispatchers — listeners in the order they came

A dispatcher hands every event to the listeners it has at that moment, in
the order they were added. A listener may add, remove or dispatch while
it is called; so `Dispatcher.notify` fixes the listeners before it calls
the first of them.
-/

namespace DebugClient

/-- Names a listener of one dispatcher. -/
abbrev ListenerId := Nat

/-- Listeners of one kind of event. -/
structure Dispatcher (α : Type) where
  /-- The listeners, in the order they were added. -/
  listeners : List (ListenerId × α) := []
  /-- The name the next listener gets. -/
  nextId : ListenerId := 0
  deriving Inhabited

namespace Dispatcher

variable {α σ : Type}

/-- Adds a listener at the end. -/
def add (d : Dispatcher α) (listener : α) : ListenerId × Dispatcher α :=
  (d.nextId, ⟨d.listeners ++ [(d.nextId, listener)], d.nextId + 1⟩)

/-- Whether a listener of a name is there. -/
def has (d : Dispatcher α) (id : ListenerId) : Bool := d.listeners.any (·.1 == id)

/-- Removes the listener of a name. -/
def remove (d : Dispatcher α) (id : ListenerId) : Dispatcher α :=
  { d with listeners := d.listeners.filter (·.1 != id) }

/-- Whether there is no listener. -/
def isEmpty (d : Dispatcher α) : Bool := d.listeners.isEmpty

/-- Calls every listener there is now, in order; what a call does to the
dispatcher itself is part of the state it changes. -/
def notify (d : Dispatcher α) (call : α → σ → σ) (s : σ) : σ :=
  d.listeners.foldl (fun s l => call l.2 s) s

@[simp] theorem listeners_add (d : Dispatcher α) (l : α) :
    (d.add l).2.listeners = d.listeners ++ [(d.nextId, l)] := rfl

@[simp] theorem nextId_add (d : Dispatcher α) (l : α) : (d.add l).2.nextId = d.nextId + 1 := rfl

@[simp] theorem nextId_remove (d : Dispatcher α) (id : ListenerId) :
    (d.remove id).nextId = d.nextId := rfl

/-- A removed listener is gone. -/
@[simp] theorem has_remove_self (d : Dispatcher α) (id : ListenerId) :
    (d.remove id).has id = false := by
  simp [has, remove]

/-- Every other listener stays. -/
theorem has_remove_of_ne (d : Dispatcher α) {id other : ListenerId} (h : other ≠ id) :
    (d.remove id).has other = d.has other := by
  simp only [has, remove, List.any_filter]
  congr 1
  funext l
  by_cases hl : l.1 = other
  · simp [hl, h]
  · simp [hl]

end Dispatcher

end DebugClient
