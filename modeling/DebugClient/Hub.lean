import DebugClient.Session.Events
/-!
# Hubs — the sessions of a process

The sessions of a process share a registry. To find a session by the
identity of its agent, the identities are renewed first if a navigation
may have changed them: every registered session that is enabled is
enabled again, one after another. Each of them is held from the beginning
until its turn is over.

A session that is no longer held by anyone is still in its place, for the
values and frames that know it, but is not found any more.
-/

namespace DebugClient

/-- The sessions of a process. -/
structure Hub where
  /-- The sessions, in the order they were connected. -/
  sessions : List Session := []
  /-- Sessions by identity. -/
  registry : Registry := {}

namespace Hub

/-- The session at a place, with the shared registry. -/
def session? (h : Hub) (seat : Nat) : Option Session :=
  (h.sessions[seat]?).map fun s => { s with registry := h.registry }

/-- Puts a session in its place, and its registry in the place of the
shared one. -/
def put (h : Hub) (seat : Nat) (s : Session) : Hub :=
  ⟨h.sessions.set seat s, s.registry⟩

/-- Connects a session for a target. -/
def connect (h : Hub) (target : Target) (settings : Settings) : Hub :=
  let s := Session.connect h.sessions.length target settings
  { h with sessions := h.sessions ++ [s] }

/-- Stands for a session where there is none. -/
def absent : Session :=
  { seat := 0, target := .root ⟨0, "", .other⟩, settings := {}, holders := 0 }

/-- Work of the session at a place. -/
def within {α : Type} (seat : Nat) (work : Work α) : Flow Hub α :=
  work.within (fun h => (h.session? seat).getD absent) fun s h => h.put seat s

/-- Changes the session at a place. -/
def change (h : Hub) (seat : Nat) (f : Session → Session) : Hub :=
  match h.session? seat with
  | some s => h.put seat (f s)
  | none => h

/-- One more holds the session at a place. -/
def acquire (seat : Nat) (h : Hub) : Hub := h.change seat Session.acquire

/-- One less holds the session at a place. -/
def letGo (seat : Nat) (h : Hub) : Hub := h.change seat Session.letGo

/-- Holds the session at a place as long as work lasts. -/
def holding {α : Type} (seat : Nat) (work : Flow Hub α) : Flow Hub α :=
  work.between (acquire seat) (letGo seat)

/-- Whether the session at a place still exists. -/
def isLive (h : Hub) (seat : Nat) : Bool := (h.sessions[seat]?).any (·.live)

/-- The places of the registered sessions that still exist. -/
def registered (h : Hub) : List Nat := (h.registry.entries.map (·.2)).filter h.isLive

/-- Renews the identity of a session, if its agent is enabled. -/
def renew (seat : Nat) : Flow Hub Unit :=
  within seat do
    if ← Flow.look Session.isEnabled then Session.syncIdentity

/-- Renews the identity of a session that is held for it, and lets it go. -/
def renewHeld (seat : Nat) : Flow Hub Unit := do
  renew seat
  Flow.modify (letGo seat)

/-- Renews the identities of all registered sessions. -/
def renewAll : Flow Hub Unit := do
  let seats ← Flow.look registered
  Flow.modify fun h => seats.foldl (fun h seat => h.acquire seat) h
  Flow.forEach renewHeld seats

/-- Whether identities have to be renewed; from now on they need not. -/
def takeStale (h : Hub) : Bool × Hub :=
  (h.registry.stale, { h with registry := { h.registry with stale := false } })

/-- The place of the session of an identity. -/
def find? (h : Hub) (id : DebuggerId) : Option Nat := (h.registry.find? id).filter h.isLive

/-- Finds the session of an identity, renewing identities first if that is
due. -/
def resolve (id : DebuggerId) : Flow Hub (Option Nat) := do
  if ← Flow.act takeStale then renewAll
  Flow.look (·.find? id)

end Hub

end DebugClient
