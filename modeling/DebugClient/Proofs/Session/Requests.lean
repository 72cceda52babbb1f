import DebugClient.Proofs.Flow.Protocol
import DebugClient.Session.Enablement
/-!
# Requests — commands that are sent, and their answers

A flow that sends a command and waits for the answer waits once, whatever
protocol it keeps to: it may wait at a phase that the protocol moves to, and
goes on with the answer (`obeys_reply`, `obeys_call`). That a session is held
meanwhile is no concern of the protocol but of how the flow may end
(`obeys_holding`).
-/

namespace DebugClient

namespace Session

/-- Sends commands; the tickets name their answers. -/
def issuedAll : List Wire.Command → Session → List Ticket × Session
  | [], s => ([], s)
  | command :: rest, s =>
    let (ticket, t) := issue command s
    let (tickets, u) := issuedAll rest t
    (ticket :: tickets, u)

variable {P ρ α : Type} {π : Flow.Protocol P Session ρ} {p : P} {s₀ s : Session}
  {command : Wire.Command} {ticket : Ticket} {read : Json → Option α}

theorem obeys_issueAll {Q : P → Session → List Ticket → Session → Prop} {commands : List Wire.Command} :
    (issueAll commands).Obeys π Q p s₀ s ↔
      Q p s₀ (s.issuedAll commands).1 (s.issuedAll commands).2 := by
  induction commands generalizing s Q with
  | nil => exact Iff.rfl
  | cons command rest ih =>
    rw [issueAll, Flow.obeys_seq, Work.issue, Flow.obeys_act, Flow.obeys_seq]
    exact ih

/-- An answer is waited for, and taken. -/
theorem obeys_reply {Q : P → Session → Except LinkError α → Session → Prop} :
    (Work.reply ticket command read).Obeys π Q p s₀ s ↔
      ∃ q, π.moves p s₀ q s ∧ ∀ t, π.given t → t.isAnswered ticket = true →
        Q q t (Work.decode command read (t.takeReply ticket).1) (t.takeReply ticket).2 := Iff.rfl

/-- A command is sent, and its answer taken. -/
theorem obeys_call {Q : P → Session → Except LinkError α → Session → Prop} :
    (Work.call command read).Obeys π Q p s₀ s ↔
      ∃ q, π.moves p s₀ q (s.issue command).2 ∧ ∀ t, π.given t → t.isAnswered s.nextTicket = true →
        Q q t (Work.decode command read (t.takeReply s.nextTicket).1) (t.takeReply s.nextTicket).2 :=
  Iff.rfl

/-- A command is sent, and its answer does not matter. -/
theorem obeys_send {Q : P → Session → Unit → Session → Prop} :
    (Work.send command).Obeys π Q p s₀ s ↔
      ∃ q, π.moves p s₀ q (s.issue command).2 ∧ ∀ t, π.given t → t.isAnswered s.nextTicket = true →
        Q q t () (t.takeReply s.nextTicket).2 := Iff.rfl

/-- A session is held while a flow does its work. -/
theorem obeys_holding {Q : P → Session → α → Session → Prop} {m : Work α} :
    (holding m).Obeys π Q p s₀ s ↔ m.Obeys π (fun p s₀ a s => Q p s₀ a s.letGo) p s₀ s.acquire := by
  rw [holding, Flow.between, Flow.obeys_bind, Flow.obeys_modify, Flow.obeys_bind]
  rfl

end Session

end DebugClient
