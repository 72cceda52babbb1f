import DebugClient.Hub.Evaluation
import DebugClient.Proofs.Flow.Keeping
import DebugClient.Proofs.Flow.Parts
import DebugClient.Proofs.Session.Driving
import DebugClient.Proofs.Session.Journal
import DebugClient.Proofs.Session.Requests
/-!
# Support — evaluations that the backend has to end early

Evaluations in contexts and in frames, and probes, of one runtime: the
system in which they meet, and what each of them does from one wait to the
next. The path of a call is what it did so far, a pair of states for each
stretch from one wait to the next, newest first. `Saw` says that a call
has learned on its path that the backend ends evaluations early; a call
that needs to know asks for the evaluation only then
(`obeys_program`).
-/

namespace DebugClient

/-! ## One session alone -/

namespace Hub

variable {α : Type}

/-- A hub of one session. -/
def only (s : Session) : Hub := ⟨[s], s.registry⟩

/-- What a hub does that has one session, as work of the session. -/
def alone (m : Flow Hub α) : Work α := m.within only fun h s => (h.session? 0).getD s

end Hub

/-! ## Evaluations that end early -/

/-- A command asks for an evaluation that has to be ended early. -/
def Wire.Command.endsEarly : Wire.Command → Bool
  | .evaluate e => e.throwOnSideEffect || e.timeout.isSome
  | .evaluateOnCallFrame e => e.throwOnSideEffect || e.timeout.isSome
  | _ => false

namespace Session

/-- The probe in a context. -/
def probeIn (context : ContextId) : Wire.Command :=
  .evaluate { expression := probe, contextId := some context, throwOnSideEffect := true }

/-- A command asks for an evaluation that has to be ended early, and is not
a probe. -/
def EndsEarly (command : Wire.Command) : Prop :=
  command.endsEarly = true ∧ ∀ context, command ≠ probeIn context

/-- The answer to a probe that was ended at its side effect. -/
def showsSupport : Reply → Bool
  | .ok json => (Wire.Reply.evaluation json).any (·.endedBySideEffect)
  | .error _ => false

/-! ## The system -/

/-- What is asked of a runtime. -/
inductive EvaluationCall where
  /-- To evaluate in a context, or in the selected frame if there is one. -/
  | inContext (context : ExecutionContext) (options : EvaluationOptions)
      (userGesture awaitPromise : Bool)
  /-- To evaluate in a frame of the runtime. -/
  | inFrame (frame : CallFrame) (isHere : frame.seat = 0) (options : EvaluationOptions)
  /-- To find out whether evaluations can be ended at a side effect. -/
  | probe

namespace EvaluationCall

/-- The work of a call, with its outcome or what was found out. -/
def program : EvaluationCall → Work (Outcome ⊕ Bool)
  | inContext c o userGesture awaitPromise => do
    return .inl (← Hub.alone (Hub.evaluateIn 0 c o userGesture awaitPromise))
  | inFrame f _ o => do
    return .inl (← Hub.alone (Hub.onFrame f (·.evaluate o)))
  | probe => do
    return .inr (← checkSideEffects)

/-- Whether the backend has to be able to end the evaluation. -/
def endsEarly : EvaluationCall → Bool
  | inContext _ o _ _ => o.endsEarly
  | inFrame _ _ o => o.endsEarly
  | probe => false

end EvaluationCall

/-- What happens to the runtime meanwhile. -/
inductive EvaluationNews where
  /-- An answer comes in. -/
  | answer (response : Response)
  /-- A frame of the runtime is selected, or none: execution stops or goes
  on. -/
  | select (frame : Option { f : CallFrame // f.seat = 0 })
  /-- Contexts come and go. -/
  | contexts (contexts : List ExecutionContext)
  /-- Other policies are installed. -/
  | install (policies : Policies)

/-- What the news does to the session. -/
def EvaluationNews.apply : EvaluationNews → Session → Session
  | answer response, s => response.apply s
  | select frame, s => s.select (frame.map Subtype.val)
  | contexts those, s => { s with contexts := those }
  | install policies, s => s.install policies

/-- Evaluations of one runtime, with what happens while they wait. Every
stretch of a call is noted under its number. -/
def evaluating : Flow.System EvaluationCall EvaluationNews Session (Outcome ⊕ Bool)
    (Nat × (Session × Session)) where
  program := EvaluationCall.program
  outside := EvaluationNews.apply
  note number _ before after := [(number, (before, after))]

/-! ## Paths -/

/-- **A call has learned of support** on its path: it was known when the
call began, or the probe the call sent first was answered so. -/
inductive Saw : List (Session × Session) → Prop where
  /-- Support was known. -/
  | known {s t : Session} (known : s.sideEffectSupport = some true) : Saw [(s, t)]
  /-- The probe was answered. -/
  | answered {s₀ t₀ s t : Session} {ticket : Ticket} {context : ContextId} {reply : Reply}
      (sent : t₀.journal = .request ticket (probeIn context) :: s₀.journal)
      (answer : s.replies.lookup ticket = some reply) (shows : showsSupport reply = true) :
      Saw [(s, t), (s₀, t₀)]
  /-- It was learned before. -/
  | later {stretch : Session × Session} {path : List (Session × Session)} (saw : Saw path) :
      Saw (stretch :: path)

/-- A call that goes on in a state learns of support, or has learned. -/
def Sees (path : List (Session × Session)) (s : Session) : Prop := ∀ t, Saw ((s, t) :: path)

theorem Saw.sees {path : List (Session × Session)} {s t : Session} (saw : Saw ((s, t) :: path)) :
    Sees path s := by
  intro u
  cases saw with
  | known known => exact .known known
  | answered sent answer shows => exact .answered sent answer shows
  | later saw => exact .later saw

/-- The commands a call has sent on its path, newest first. -/
def sent (path : List (Session × Session)) : List Wire.Command :=
  path.flatMap fun stretch => commandsOf (stretch.2.saidSince stretch.1.journal.length)

/-- A call under way that has to know of support has learned of it, or it
has not gone on since it began. -/
def EvaluationCall.Pends (c : EvaluationCall) (path : List (Session × Session)) : Prop :=
  c.endsEarly = true → Saw path ∨ path.length = 1

/-- What is due of a call that has ended: if it has to know of support and
has not learned of it, it was refused, and has sent nothing but a probe at
most. -/
def EvaluationCall.Due (c : EvaluationCall) (path : List (Session × Session))
    (result : Outcome ⊕ Bool) : Prop :=
  c.endsEarly = true → ¬ Saw path →
    result = .inl (.failed unsupported) ∧ (sent path = [] ∨ ∃ context, sent path = [probeIn context])

/-- The selected frame is one of this runtime. -/
def SelectsHere (s : Session) : Prop := ∀ f, s.selected = some f → f.seat = 0

/-- **What a call does on a stretch** of its path: it asks for an early end
only if it has learned of support, and it does not make support known
otherwise. -/
structure Stretch (path : List (Session × Session)) (s t : Session) : Prop where
  /-- What is asked for, under new tickets. -/
  journal : ∃ new, t.journal = new ++ s.journal ∧ ∀ ticket command,
    .request ticket command ∈ new → s.nextTicket ≤ ticket ∧ (EndsEarly command → Sees path s)
  /-- Tickets are given out. -/
  tickets : s.nextTicket ≤ t.nextTicket
  /-- What is known. -/
  support : t.sideEffectSupport = some true → s.sideEffectSupport = some true ∨ Sees path s
  /-- Answers are taken. -/
  replies : t.replies ⊆ s.replies
  /-- The selected frame stays one of this runtime. -/
  here : SelectsHere s → SelectsHere t

/-- What a call may do from one wait to the next. Its phase is its path. -/
def EvaluationCall.protocol (c : EvaluationCall) :
    Flow.Protocol (List (Session × Session)) Session (Outcome ⊕ Bool) where
  given := SelectsHere
  moves path s path' t := path' = (s, t) :: path ∧ Stretch path s t ∧ c.Pends path'
  ends path s result t := Stretch path s t ∧ c.Due ((s, t) :: path) result

/-! ## Stretches -/

section Stretches

variable {path : List (Session × Session)} {s₀ s s' : Session}

/-- A call that goes on does nothing that matters here. -/
structure Silent (s s' : Session) : Prop where
  /-- Nothing is said. -/
  journal : s'.journal = s.journal
  /-- No ticket is given out. -/
  tickets : s'.nextTicket = s.nextTicket
  /-- What is known stays so. -/
  support : s'.sideEffectSupport = s.sideEffectSupport
  /-- Answers are taken. -/
  replies : s'.replies ⊆ s.replies
  /-- The same frame is selected. -/
  selected : s'.selected = s.selected

theorem Silent.refl (s : Session) : Silent s s := ⟨rfl, rfl, rfl, List.Subset.refl _, rfl⟩

theorem Silent.here (silent : Silent s s') (here : SelectsHere s) : SelectsHere s' :=
  fun f is => here f (silent.selected ▸ is)

theorem silent_acquire (s : Session) : Silent s s.acquire := ⟨rfl, rfl, rfl, List.Subset.refl _, rfl⟩

theorem silent_letGo (s : Session) : Silent s s.letGo := ⟨rfl, rfl, rfl, List.Subset.refl _, rfl⟩

theorem silent_takeReply (ticket : Ticket) (s : Session) : Silent s (s.takeReply ticket).2 :=
  ⟨rfl, rfl, rfl, List.filter_sublist.subset, rfl⟩

theorem silent_takeAdvice (ticket : Ticket) (s : Session) : Silent s (s.takeAdvice ticket).2 :=
  ⟨rfl, rfl, rfl, List.Subset.refl _, rfl⟩

theorem silent_mint {α : Type} (making : Fresh α) (s : Session) : Silent s (s.mint making).2 :=
  ⟨rfl, rfl, rfl, List.Subset.refl _, rfl⟩

theorem Silent.stretch (silent : Silent s s') : Stretch path s s' :=
  ⟨⟨[], silent.journal, by simp⟩, Nat.le_of_eq silent.tickets.symm,
    fun is => .inl (silent.support ▸ is), silent.replies, fun here => silent.here here⟩

theorem Stretch.aside (h : Stretch path s₀ s) (silent : Silent s s') : Stretch path s₀ s' := by
  obtain ⟨⟨new, grown, learned⟩, given, known, taken, here⟩ := h
  refine ⟨⟨new, silent.journal.trans grown, learned⟩, ?_, fun is => known (silent.support ▸ is),
    List.Subset.trans silent.replies taken, fun is => silent.here (here is)⟩
  exact silent.tickets ▸ given

/-- A request on a stretch, which is to be ended early only if the call has
learned of support. -/
theorem Stretch.issue (h : Stretch path s₀ s) {command : Wire.Command}
    (allowed : EndsEarly command → Sees path s₀) : Stretch path s₀ (s.issue command).2 := by
  obtain ⟨⟨new, grown, learned⟩, given, known, taken, here⟩ := h
  refine ⟨⟨.request s.nextTicket command :: new, ?_, fun ticket other there => ?_⟩,
    Nat.le_succ_of_le given, known, taken, here⟩
  · exact congrArg (Signal.request s.nextTicket command :: ·) grown
  · rcases List.mem_cons.1 there with is | there
    · cases is
      exact ⟨given, allowed⟩
    · exact learned ticket other there

/-- A question on a stretch. -/
theorem Stretch.inquire (h : Stretch path s₀ s) (question : Inquiry) :
    Stretch path s₀ (s.inquire question).2 := by
  obtain ⟨⟨new, grown, learned⟩, given, known, taken, here⟩ := h
  refine ⟨⟨.inquiry s.nextTicket question :: new, ?_, fun ticket command there => ?_⟩,
    Nat.le_succ_of_le given, known, taken, here⟩
  · exact congrArg (Signal.inquiry s.nextTicket question :: ·) grown
  · rcases List.mem_cons.1 there with is | there
    · cases is
    · exact learned ticket command there

end Stretches

/-! ## Finding out -/

section Checking

variable {c : EvaluationCall} {path : List (Session × Session)} {s₀ s s' : Session}

/-- A call knows whether there is support, and has sent nothing but a probe
at most. -/
structure Checked (path : List (Session × Session)) (s₀ : Session) (supported : Bool)
    (s : Session) : Prop where
  /-- It has learned of support if there is. -/
  sees : supported = true → Sees path s₀
  /-- What it did since. -/
  stretch : Stretch path s₀ s
  /-- Nothing was said since. -/
  journal : s.journal = s₀.journal
  /-- A probe may have been sent. -/
  sent : sent path = [] ∨ ∃ context, sent path = [probeIn context]

/-- What is made of the answer to a probe is whether it shows support. -/
theorem probeSupports_decode (command : Wire.Command) (reply : Reply) :
    probeSupports (Work.decode command Wire.Reply.evaluation reply) = showsSupport reply := by
  cases reply with
  | error e => rfl
  | ok json =>
    rw [Work.decode, showsSupport]
    cases Wire.Reply.evaluation json <;> rfl

/-- The answer that was taken, if it shows support. -/
theorem lookup_of_showsSupport {ticket : Ticket}
    (shows : showsSupport (s.takeReply ticket).1 = true) :
    ∃ reply, s.replies.lookup ticket = some reply ∧ showsSupport reply = true := by
  unfold takeReply at shows
  cases found : s.replies.lookup ticket with
  | none =>
    rw [found] at shows
    cases shows
  | some reply =>
    rw [found] at shows
    exact ⟨reply, rfl, shows⟩

/-- A probe is all that was sent. -/
theorem sent_probe {t₀ : Session} {ticket : Ticket} {context : ContextId}
    (sends : t₀.journal = .request ticket (probeIn context) :: s₀.journal) :
    sent [(s₀, t₀)] = [probeIn context] := by
  have said : t₀.saidSince s₀.journal.length = [.request ticket (probeIn context)] :=
    saidSince_eq sends
  simp [sent, said, commandsOf, Signal.command?]

/-- The answer to the probe tells whether there is support. -/
theorem checked_answer {t₀ t : Session} {ticket : Ticket} {context : ContextId}
    (sends : t₀.journal = .request ticket (probeIn context) :: s₀.journal) {supported : Bool}
    (is : supported = probeSupports
      (Work.decode (probeIn context) Wire.Reply.evaluation (t.takeReply ticket).1)) :
    Checked [(s₀, t₀)] t supported (keepSupport supported (t.takeReply ticket).2) := by
  rw [probeSupports_decode] at is
  have sees : supported = true → Sees [(s₀, t₀)] t := by
    intro shows u
    obtain ⟨reply, answer, shows⟩ := lookup_of_showsSupport (is.symm.trans shows)
    exact .answered sends answer shows
  have stretch : Stretch [(s₀, t₀)] t (t.takeReply ticket).2 := (silent_takeReply ticket t).stretch
  exact ⟨sees, ⟨stretch.journal, stretch.tickets, fun is => .inr (sees (Option.some.inj is)),
    stretch.replies, stretch.here⟩, rfl, .inr ⟨context, sent_probe sends⟩⟩

theorem obeys_checkSideEffects (silent : Silent s₀ s) :
    checkSideEffects.Obeys c.protocol
      (fun path s₀ supported s => Checked path s₀ supported s) [] s₀ s := by
  have unsent : sent [] = [] := rfl
  unfold checkSideEffects
  rw [Flow.obeys_seq, Flow.obeys_read]
  split
  · rename_i supported known
    have before : s₀.sideEffectSupport = some supported := silent.support ▸ known
    exact ⟨fun is t => .known (is ▸ before), silent.stretch, silent.journal, .inl unsent⟩
  · exact ⟨nofun, silent.stretch, silent.journal, .inl unsent⟩
  · rename_i context _ _
    have sends : (s.issue (probeIn context.id)).2.journal =
        .request s.nextTicket (probeIn context.id) :: s₀.journal :=
      congrArg (Signal.request s.nextTicket (probeIn context.id) :: ·) silent.journal
    have stretch : Stretch [] s₀ (s.issue (probeIn context.id)).2 :=
      silent.stretch.issue fun early => absurd rfl (early.2 context.id)
    rw [Flow.obeys_seq, obeys_call]
    refine ⟨_, ⟨rfl, stretch, fun _ => .inr rfl⟩, fun t _ _ => ?_⟩
    exact checked_answer sends rfl

end Checking

/-! ## Evaluating -/

section Evaluating

variable {c : EvaluationCall} {ρ : Type}
  {π : Flow.Protocol (List (Session × Session)) Session ρ}
  {may refused : List (Session × Session) → Session → Session → Prop}
  {path : List (Session × Session)} {s₀ s s' : Session} {α : Type}

/-- **What evaluations rest on.** A call that may ask for its evaluation may
wait, may put a question, and may send what has to be ended early only if
the call has to be; it may from the beginning if it does not have to be,
and otherwise by what it has found out. A call that has found out that
there is no support is refused. -/
structure Grounds (c : EvaluationCall) (π : Flow.Protocol (List (Session × Session)) Session ρ)
    (may refused : List (Session × Session) → Session → Session → Prop) : Prop where
  /-- It may wait. -/
  lets : π.Lets may
  /-- What does not matter. -/
  aside : ∀ {path s₀ s s'}, Silent s s' →
    (may path s₀ s → may path s₀ s') ∧ (refused path s₀ s → refused path s₀ s')
  /-- It may put a question. -/
  inquire : ∀ {path s₀ s} question, may path s₀ s → may path s₀ (s.inquire question).2
  /-- It may send a request. -/
  issue : ∀ {path s₀ s} (command : Wire.Command),
    (command.endsEarly = true → c.endsEarly = true) →
      may path s₀ s → may path s₀ (s.issue command).2
  /-- It does not have to be ended early. -/
  free : ∀ {s₀ s}, c.endsEarly = false → Silent s₀ s → may [] s₀ s
  /-- What it finds out. -/
  found : ∀ {s₀ s}, Silent s₀ s → checkSideEffects.Obeys π (fun path s₀ supported s =>
    (supported = true → may path s₀ s) ∧ (supported = false → refused path s₀ s)) [] s₀ s

namespace Grounds

variable (grounds : Grounds c π may refused)
include grounds

theorem carries_override (f : CallFrame) (options : EvaluationOptions) :
    (f.override options).Carries π may := by
  refine Flow.carries_seq (Flow.carries_look _) fun on => Flow.carries_ite ?_ (Flow.carries_done _)
  refine Flow.carries_seq ?_ fun answer? => ?_
  · refine Flow.carries_seq (Flow.carries_act fun _ _ _ => grounds.inquire _) fun ticket => ?_
    refine Flow.carries_seq (Flow.carries_await grounds.lets _) fun _ => ?_
    exact Flow.carries_act fun _ _ s => (grounds.aside (silent_takeAdvice ticket s)).1
  · split <;> exact Flow.carries_done _

/-- Asking for an evaluation that need not be ended early, or may be. -/
theorem carries_call (command : Wire.Command) (read : Json → Option α)
    (allowed : command.endsEarly = true → c.endsEarly = true) :
    (Work.call command read).Carries π may := by
  refine Flow.carries_seq (Flow.carries_act fun _ _ _ => grounds.issue command allowed) fun ticket => ?_
  refine Flow.carries_seq (Flow.carries_await grounds.lets _) fun _ => ?_
  refine Flow.carries_seq (Flow.carries_act fun _ _ s => ?_) fun _ => Flow.carries_done _
  exact (grounds.aside (silent_takeReply ticket s)).1

theorem carries_outcome (reply : Except LinkError Wire.EvaluateReply) :
    (outcome reply).Carries π may := by
  cases reply with
  | error e => exact Flow.carries_done _
  | ok r =>
    refine Flow.carries_seq (Flow.carries_act fun _ _ s => ?_) fun _ => Flow.carries_done _
    exact (grounds.aside (silent_mint _ s)).1

variable {o : EvaluationOptions}

/-- Whether a call may ask for its evaluation. -/
theorem obeys_allows (silent : Silent s₀ s) (same : c.endsEarly = o.endsEarly) :
    (allows o).Obeys π (fun path s₀ allowed s =>
      (allowed = true → may path s₀ s) ∧ (allowed = false → refused path s₀ s)) [] s₀ s := by
  unfold allows
  split
  · exact grounds.found silent
  · rename_i free
    exact ⟨fun _ => grounds.free (by simpa [same] using free) silent, nofun⟩

/-- A flow that asks whether it may evaluate and then does, or is refused. -/
theorem obeys_allowed {m : Work Outcome} (silent : Silent s₀ s) (same : c.endsEarly = o.endsEarly)
    (carries : m.Carries π may) :
    (allows o >>= fun allowed => if allowed then m else pure (.failed unsupported)).Obeys π
      (fun path s₀ result s => may path s₀ s ∨ result = .failed unsupported ∧ refused path s₀ s)
      [] s₀ s := by
  rw [Flow.obeys_seq]
  refine (grounds.obeys_allows silent same).mono fun path s₀ allowed s h => ?_
  cases allowed with
  | false => exact .inr ⟨rfl, h.2 rfl⟩
  | true => exact (carries _ _ _ (h.1 rfl)).mono fun _ _ _ _ => .inl

theorem obeys_evaluate (silent : Silent s₀ s) (same : c.endsEarly = o.endsEarly) (f : CallFrame) :
    (f.evaluate o).Obeys π (fun path s₀ result s =>
      may path s₀ s ∨ result = .failed unsupported ∧ refused path s₀ s) [] s₀ s := by
  refine grounds.obeys_allowed silent same ?_
  refine Flow.carries_seq (grounds.carries_override f o) fun result? => ?_
  cases result? with
  | some result => exact Flow.carries_done _
  | none => exact Flow.carries_seq (grounds.carries_call _ _ same.trans) grounds.carries_outcome

theorem obeys_evaluateIn (silent : Silent s₀ s) (same : c.endsEarly = o.endsEarly)
    (context : ExecutionContext) (userGesture awaitPromise : Bool) :
    (evaluateIn context o userGesture awaitPromise).Obeys π (fun path s₀ result s =>
      may path s₀ s ∨ result = .failed unsupported ∧ refused path s₀ s) [] s₀ s :=
  grounds.obeys_allowed silent same
    (Flow.carries_seq (grounds.carries_call _ _ same.trans) grounds.carries_outcome)

end Grounds

end Evaluating

/-! ## Whole calls -/

section Calls

variable {c : EvaluationCall} {ρ : Type}
  {π : Flow.Protocol (List (Session × Session)) Session ρ}
  {may refused : List (Session × Session) → Session → Session → Prop}
  {path : List (Session × Session)} {s₀ s s' : Session} {α : Type}

theorem obeys_alone {Q : List (Session × Session) → Session → α → Session → Prop} {m : Work α} :
    (Hub.alone (Hub.within 0 m)).Obeys π Q path s₀ s ↔ m.Obeys π Q path s₀ s :=
  Flow.obeys_part (fun _ => rfl) fun _ _ => rfl

/-- A hub of one session is looked at. -/
theorem obeys_alone_look {β : Type} {Q : List (Session × Session) → Session → β → Session → Prop}
    {f : Hub → α} {k : α → Flow Hub β} :
    (Hub.alone (Flow.look f >>= k)).Obeys π Q path s₀ s ↔
      (Hub.alone (k (f (Hub.only s)))).Obeys π Q path s₀ s := Iff.rfl

theorem obeys_alone_holding {Q : List (Session × Session) → Session → α → Session → Prop}
    {m : Work α} (h : m.Obeys π (fun path s₀ a s => Q path s₀ a s.letGo) path s₀ s.acquire) :
    (Hub.alone (Hub.holding 0 (Hub.within 0 m))).Obeys π Q path s₀ s := by
  rw [Hub.alone, Hub.holding, Flow.between, Flow.within_bind, Flow.obeys_bind]
  change (Flow.within Hub.only _ _).Obeys π Q path s₀ s.acquire
  rw [Flow.within_bind, Flow.obeys_bind]
  exact obeys_alone.2 h

/-- The frame that is selected in a hub of one session. -/
theorem selected_of_selected? {frame : CallFrame} (is : Hub.selected? 0 (Hub.only s) = some frame) :
    s.selected = some frame := by
  obtain ⟨live, there, is⟩ := Option.bind_eq_some_iff.1 is
  obtain rfl : s = live := Option.some.inj (Option.eq_some_of_filter_eq_some there)
  exact is

/-- **A call ends where it may evaluate, or is refused.** -/
theorem Grounds.obeys_program (grounds : Grounds c π may refused) (here : SelectsHere s) :
    c.program.Obeys π (fun path s₀ result s => may path s₀ s ∨
      (c.endsEarly = true → result = .inl (.failed unsupported)) ∧ refused path s₀ s) [] s s := by
  cases c with
  | inContext context o userGesture awaitPromise =>
    rw [EvaluationCall.program, Flow.obeys_seq, Hub.evaluateIn, obeys_alone_look]
    split
    · refine obeys_alone.2 ((grounds.obeys_evaluateIn (Silent.refl s) rfl context userGesture
        awaitPromise).mono fun _ _ _ _ h => ?_)
      exact h.imp_right fun is => ⟨fun _ => congrArg Sum.inl is.1, is.2⟩
    · rename_i frame is
      rw [Hub.onFrame, here frame (selected_of_selected? is)]
      refine obeys_alone_holding ((grounds.obeys_evaluate (silent_acquire s) rfl frame).mono
        fun _ _ _ s h => ?_)
      refine h.imp (grounds.aside (silent_letGo s)).1 fun is => ⟨fun _ => ?_, ?_⟩
      · exact congrArg Sum.inl is.1
      · exact (grounds.aside (silent_letGo s)).2 is.2
  | inFrame f isHere o =>
    rw [EvaluationCall.program, Flow.obeys_seq, Hub.onFrame, isHere]
    refine obeys_alone.2 ((grounds.obeys_evaluate (Silent.refl s) rfl f).mono fun _ _ _ _ h => ?_)
    exact h.imp_right fun is => ⟨fun _ => congrArg Sum.inl is.1, is.2⟩
  | probe =>
    rw [EvaluationCall.program, Flow.obeys_seq]
    refine (grounds.found (Silent.refl s)).mono fun _ _ supported _ h => ?_
    cases supported with
    | true => exact .inl (h.1 rfl)
    | false => exact .inr ⟨nofun, h.2 rfl⟩

end Calls

/-! ## Learning of support -/

section Learning

variable {c : EvaluationCall} {path : List (Session × Session)} {s₀ s s' : Session}

/-- A call may ask for its evaluation: if that is to be ended early, the
call has learned of support. -/
structure Permitted (c : EvaluationCall) (path : List (Session × Session)) (s₀ s : Session) :
    Prop where
  /-- It has learned of support if it has to. -/
  sees : c.endsEarly = true → Sees path s₀
  /-- What it did since. -/
  stretch : Stretch path s₀ s

theorem Checked.aside {supported : Bool} (h : Checked path s₀ supported s) (silent : Silent s s') :
    Checked path s₀ supported s' :=
  ⟨h.sees, h.stretch.aside silent, silent.journal.trans h.journal, h.sent⟩

theorem grounds_permitted (c : EvaluationCall) :
    Grounds c c.protocol (Permitted c) (fun path s₀ s => Checked path s₀ false s) where
  lets := by
    intro path s₀ s h
    refine ⟨_, ⟨rfl, h.stretch, fun is => .inl (h.sees is s)⟩, fun t _ => ⟨fun is u => ?_, ?_⟩⟩
    · exact .later (h.sees is s)
    · exact (Silent.refl t).stretch
  aside silent := ⟨fun h => ⟨h.sees, h.stretch.aside silent⟩, fun h => h.aside silent⟩
  inquire question h := ⟨h.sees, h.stretch.inquire question⟩
  issue command allowed h := ⟨h.sees, h.stretch.issue fun early => h.sees (allowed early.1)⟩
  free is silent := ⟨fun early => absurd (is.symm.trans early) (by decide), silent.stretch⟩
  found silent := (obeys_checkSideEffects silent).mono fun _ _ _ _ checked =>
    ⟨fun is => ⟨fun _ => checked.sees is, checked.stretch⟩, fun is => is ▸ checked⟩

/-- **Every call keeps to its protocol.** -/
theorem obeys_program (c : EvaluationCall) (here : SelectsHere s) :
    c.program.Obeys c.protocol c.protocol.ends [] s s := by
  refine ((grounds_permitted c).obeys_program here).mono fun path s₀ result s h => ?_
  rcases h with permitted | ⟨is, checked⟩
  · exact ⟨permitted.stretch, fun early unseen => absurd (permitted.sees early s) unseen⟩
  · refine ⟨checked.stretch, fun early _ => ⟨is early, ?_⟩⟩
    have same : sent ((s₀, s) :: path) = sent path := by
      have said : s.saidSince s₀.journal.length = [] := saidSince_eq checked.journal
      simp [sent, said, commandsOf]
    exact same ▸ checked.sent

end Learning

end Session

end DebugClient
