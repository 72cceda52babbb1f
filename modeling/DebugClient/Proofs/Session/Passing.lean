import DebugClient.Proofs.Flow.Keeping
import DebugClient.Session.Events
/-!
# Passing — what calls do besides

Much of what a call does has nothing to do with what is proved of it. It
sends requests, asks policies, takes their answers and steps on: such
changes are made in passing (`Passing`). What is so of a call whatever is
done in passing is `Aloof`, and flows that do nothing else carry it.

Enabling and disabling do little more: they switch the agent (`Switching`),
and disabling clears the global object at its end.
-/

namespace DebugClient

namespace Session

/-- A change in passing. -/
inductive Passing : Session → Session → Prop where
  /-- A request is sent. -/
  | issue (command : Wire.Command) (s : Session) : Passing s (issue command s).2
  /-- Its answer is taken. -/
  | takeReply (ticket : Ticket) (s : Session) : Passing s (takeReply ticket s).2
  /-- A policy is asked. -/
  | inquire (question : Inquiry) (s : Session) : Passing s (inquire question s).2
  /-- Its answer is taken. -/
  | takeAdvice (ticket : Ticket) (s : Session) : Passing s (takeAdvice ticket s).2
  /-- One more holds the session. -/
  | acquire (s : Session) : Passing s s.acquire
  /-- One less holds it. -/
  | letGo (s : Session) : Passing s s.letGo
  /-- A vetoed pause steps over. -/
  | stepOver (s : Session) : Passing s s.setAutoStepOver
  /-- A pause is asked for, or not. -/
  | pausing (on : Bool) (s : Session) : Passing s (setPausing on s)

/-- A switch of the agent. -/
inductive Switching : Session → Session → Prop where
  /-- It is on or off. -/
  | turn (enablement : Enablement) (s : Session) : Switching s (s.setEnablement enablement)
  /-- It is said to be. -/
  | said (s : Session) : Switching s (s.report .wasEnabled)
  /-- It gets an identity. -/
  | identify (id : DebuggerId) (s : Session) : Switching s (s.identify id)

variable {P ρ α : Type} {π : Flow.Protocol P Session ρ} {J : P → Session → Session → Prop}

/-- **What is so of a call is aloof** if it lets the call wait, and changes
in passing leave it so. -/
structure Aloof (π : Flow.Protocol P Session ρ) (J : P → Session → Session → Prop) : Prop where
  /-- The call may wait. -/
  lets : π.Lets J
  /-- Changes in passing do not matter. -/
  passing : ∀ {p s₀ s s'}, Passing s s' → J p s₀ s → J p s₀ s'

namespace Aloof

variable (h : Aloof π J)

include h

theorem issue (command : Wire.Command) : (Work.issue command).Carries π J :=
  Flow.carries_act fun _ _ s => h.passing (.issue command s)

theorem issueAll (commands : List Wire.Command) : (Session.issueAll commands).Carries π J := by
  induction commands with
  | nil => exact Flow.carries_done []
  | cons command rest ih =>
    exact Flow.carries_seq (h.issue command) fun _ => Flow.carries_seq ih fun _ => Flow.carries_done _

theorem settle (ticket : Ticket) : (Work.settle ticket).Carries π J :=
  Flow.carries_seq (Flow.carries_await h.lets _) fun _ =>
    Flow.carries_seq (Flow.carries_act fun _ _ s => h.passing (.takeReply ticket s)) fun _ =>
      Flow.carries_done ()

theorem send (command : Wire.Command) : (Work.send command).Carries π J :=
  Flow.carries_seq (h.issue command) h.settle

theorem reply (ticket : Ticket) (command : Wire.Command) (read : Json → Option α) :
    (Work.reply ticket command read).Carries π J :=
  Flow.carries_seq (Flow.carries_await h.lets _) fun _ =>
    Flow.carries_seq (Flow.carries_act fun _ _ s => h.passing (.takeReply ticket s)) fun _ =>
      Flow.carries_done _

theorem consult (question : Inquiry) : (Work.consult question).Carries π J :=
  Flow.carries_seq (Flow.carries_act fun _ _ s => h.passing (.inquire question s)) fun ticket =>
    Flow.carries_seq (Flow.carries_await h.lets _) fun _ =>
      Flow.carries_act fun _ _ s => h.passing (.takeAdvice ticket s)

theorem holding {m : Work α} (hm : m.Carries π J) : (Session.holding m).Carries π J :=
  Flow.carries_seq (Flow.carries_modify fun _ _ s => h.passing (.acquire s)) fun _ =>
    Flow.carries_seq hm fun _ =>
      Flow.carries_seq (Flow.carries_modify fun _ _ s => h.passing (.letGo s)) fun _ =>
        Flow.carries_done _

/-! ### Stops -/

theorem skipList (mode : StepMode) : (Session.skipList mode).Carries π J := by
  refine Flow.carries_seq Flow.carries_read fun s => ?_
  split
  · refine Flow.carries_seq (h.consult _) fun advice => ?_
    split <;> exact Flow.carries_done _
  · exact Flow.carries_done _

theorem stepOn : Session.stepOn.Carries π J := by
  refine Flow.carries_seq (Flow.carries_look _) fun _ => Flow.carries_ite ?_ ?_
  · refine Flow.carries_seq (Flow.carries_modify fun _ _ s => h.passing (.stepOver s)) fun _ => ?_
    exact Flow.carries_seq (h.skipList _) fun _ => h.send _
  · exact Flow.carries_seq (h.skipList _) fun _ => h.send _

theorem resume : Session.resume.Carries π J :=
  Flow.carries_seq (h.issue _) fun _ =>
    Flow.carries_seq (Flow.carries_modify fun _ _ s => h.passing (.pausing false s)) fun _ =>
      h.settle _

theorem instrumentation (r : Wire.PauseReport) : (handleInstrumentation r).Carries π J := by
  refine Flow.carries_seq Flow.carries_read fun s => ?_
  split
  · exact Flow.carries_seq (h.consult _) fun _ => h.resume
  · exact h.resume

theorem expand (frames : List CallFrame) : (Session.expand frames).Carries π J := by
  refine Flow.carries_seq (Flow.carries_look _) fun _ => Flow.carries_ite ?_ (Flow.carries_done _)
  refine Flow.carries_seq (h.consult _) fun advice => ?_
  split <;> exact Flow.carries_done _

/-! ### The agent -/

section Agent

variable (switching : ∀ {p s₀ s s'}, Switching s s' → J p s₀ s → J p s₀ s')

include switching

theorem enable : Session.enable.Carries π J := by
  refine Flow.carries_seq Flow.carries_read fun s => Flow.carries_ite (Flow.carries_done ()) ?_
  refine Flow.carries_seq (Flow.carries_modify fun _ _ s => switching (.turn .enabling s)) fun _ => ?_
  refine Flow.carries_seq (h.issue _) fun ticket => Flow.carries_seq (h.issueAll _) fun sent => ?_
  refine Flow.carries_seq (Flow.carries_modify fun _ _ s => switching (.said s)) fun _ => ?_
  refine Flow.carries_seq (h.reply _ _ _) fun identity => ?_
  refine Flow.carries_seq (Flow.carries_forEach h.settle sent) fun _ => ?_
  refine Flow.carries_seq (Flow.carries_look _) fun on => Flow.carries_ite ?_ (Flow.carries_done ())
  cases identity with
  | ok id =>
    exact Flow.carries_modify fun _ _ s hs =>
      switching (.identify id _) (switching (.turn .enabled s) hs)
  | error e => exact Flow.carries_modify fun _ _ s => switching (.turn .disabled s)

theorem disable (finish : ∀ {p s₀ s}, J p s₀ s → J p s₀ s.finishDisabling) :
    Session.disable.Carries π J := by
  refine Flow.carries_seq (Flow.carries_look _) fun on => Flow.carries_ite ?_ (Flow.carries_done ())
  refine Flow.carries_seq (Flow.carries_modify fun _ _ s => switching (.turn .disabled s)) fun _ => ?_
  refine Flow.carries_seq (h.send _) fun _ => Flow.carries_seq (h.send _) fun _ => ?_
  exact Flow.carries_modify fun _ _ _ => finish

end Agent

end Aloof

end Session

end DebugClient
