import DebugClient.Link
/-!
# Peers — a backend that answers from a script

A `Peer` stands in for the backend of one target. It knows the answers to
requests by their method: those laid down for one request each are used
up first, in turn, and after them the standing one counts. It may also be
told to hold requests back; whoever rehearses answers those later, and
they use no answer up.
-/

namespace DebugClient

/-- A backend that answers from a script. -/
structure Peer where
  /-- Answers to every request of a method. -/
  standing : List (String × Reply) := []
  /-- Answers to one request of a method each. -/
  once : List (String × Reply) := []
  /-- How many of the next requests of a method are held back. -/
  holds : List (String × Nat) := []

namespace Peer

/-- Lays down the standing answer of a method. -/
def respond (p : Peer) (method : String) (reply : Reply) : Peer :=
  { p with standing := (method, reply) :: p.standing.filter (·.1 != method) }

/-- Lays down the answer to one more request of a method. -/
def respondOnce (p : Peer) (method : String) (reply : Reply) : Peer :=
  { p with once := p.once ++ [(method, reply)] }

/-- How many of the next requests of a method are held back. -/
def holdsOf (p : Peer) (method : String) : Nat := (p.holds.lookup method).getD 0

/-- Holds back so many of the next requests of a method. -/
def setHolds (p : Peer) (method : String) (count : Nat) : Peer :=
  { p with holds := (method, count) :: p.holds.filter (·.1 != method) }

/-- Holds back so many more requests of a method. -/
def hold (p : Peer) (method : String) (count : Nat) : Peer :=
  p.setHolds method (p.holdsOf method + count)

/-- The answer to a request that finds nothing laid down: nothing at all,
or an identity of the agent, which is made of the number of the peer. -/
def plain (number : Nat) (method : String) : Json :=
  if method = "Debugger.enable" then .obj [("debuggerId", .str ("debugger-" ++ toString number))]
  else .obj []

/-- Answers a request; there is no answer yet if it is held back. -/
def serve (p : Peer) (number : Nat) (method : String) : Option Reply × Peer :=
  if 0 < p.holdsOf method then (none, p.setHolds method (p.holdsOf method - 1))
  else
    match p.once.find? (·.1 == method) with
    | some (_, reply) => (some reply, { p with once := p.once.eraseP (·.1 == method) })
    | none => (some ((p.standing.lookup method).getD (.ok (plain number method))), p)

/-! ## Small facts -/

/-- A request that is held back uses no answer up. -/
theorem serve_of_held {p : Peer} {method : String} (h : 0 < p.holdsOf method) (number : Nat) :
    (p.serve number method).1 = none ∧ (p.serve number method).2.once = p.once := by
  simp [serve, h, setHolds]

/-- A standing answer is not used up. -/
theorem serve_standing {p : Peer} {method : String} {reply : Reply} (number : Nat)
    (held : p.holdsOf method = 0) (once : p.once.find? (·.1 == method) = none)
    (standing : p.standing.lookup method = some reply) :
    p.serve number method = (some reply, p) := by
  simp [serve, held, once, standing]

end Peer

end DebugClient
