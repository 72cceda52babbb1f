import DebugClient.Listener.Dispatcher
/-!
# Routers — a dispatcher for each breakpoint

The resolutions of a breakpoint go to those who listen for that
breakpoint. A dispatcher exists only while it has listeners, so the names
of its listeners begin anew when the last one has left.
-/

namespace DebugClient

/-- Dispatchers by breakpoint. -/
structure Router (α : Type) where
  /-- The dispatchers that have listeners, at most one a breakpoint. -/
  routes : List (String × Dispatcher α) := []
  deriving Inhabited

namespace Router

variable {α σ : Type}

/-- The dispatcher of a breakpoint, empty if there is none. -/
def route (r : Router α) (breakpoint : String) : Dispatcher α :=
  (r.routes.lookup breakpoint).getD {}

/-- Sets the dispatcher of a breakpoint; an empty one is dropped. -/
def setRoute (r : Router α) (breakpoint : String) (d : Dispatcher α) : Router α :=
  let others := r.routes.filter (·.1 != breakpoint)
  ⟨if d.isEmpty then others else (breakpoint, d) :: others⟩

/-- Adds a listener for a breakpoint. -/
def add (r : Router α) (breakpoint : String) (listener : α) : ListenerId × Router α :=
  let (id, d) := (r.route breakpoint).add listener
  (id, r.setRoute breakpoint d)

/-- Whether a breakpoint has a listener of a name. -/
def has (r : Router α) (breakpoint : String) (id : ListenerId) : Bool :=
  (r.route breakpoint).has id

/-- Removes the listener of a name from a breakpoint. -/
def remove (r : Router α) (breakpoint : String) (id : ListenerId) : Router α :=
  r.setRoute breakpoint ((r.route breakpoint).remove id)

/-- Calls the listeners of a breakpoint. -/
def notify (r : Router α) (breakpoint : String) (call : α → σ → σ) (s : σ) : σ :=
  (r.route breakpoint).notify call s

end Router

end DebugClient
