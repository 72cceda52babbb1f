import DebugClient.Wire.RemoteObject
/-!
# Registries — debugger agents by identity

A stack trace may go on in another debugger agent, which is named by the
identity the backend gave it. The registry, shared by the sessions of a
process, says which session has which identity. After a navigation every
identity may have changed; `stale` asks for a resync before the next
lookup.
-/

namespace DebugClient

/-- Sessions by the identity of their agents. -/
structure Registry where
  /-- The place of the session of each identity, one an identity. -/
  entries : List (DebuggerId × Nat) := []
  /-- Whether identities may have changed. -/
  stale : Bool := false
  deriving DecidableEq, Inhabited

namespace Registry

/-- The place of the session of an identity. -/
def find? (r : Registry) (id : DebuggerId) : Option Nat := r.entries.lookup id

/-- Forgets an identity. -/
def unregister (r : Registry) (id : DebuggerId) : Registry :=
  { r with entries := r.entries.filter (·.1 != id) }

/-- Gives an identity to a session. -/
def register (r : Registry) (id : DebuggerId) (session : Nat) : Registry :=
  { r with entries := (r.unregister id).entries ++ [(id, session)] }

/-- Asks for a resync before the next lookup. -/
def markStale (r : Registry) : Registry := { r with stale := true }

end Registry

end DebugClient
