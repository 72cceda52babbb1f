import DebugClient.Proofs.Flow.Records
import DebugClient.Proofs.Session.Expanding
import DebugClient.Proofs.Session.Passing
/-!
# Stops — events that stop execution and let it go on

A target that stops says so, and says so when it goes on. That it goes on
takes effect at once; a stop takes effect when its frames have been
expanded, and other events may be taken in meanwhile. What took effect is
in the journal: a pause was held, a run to a location ended there, or a
pause was forgotten (`StopEffect`).

Each event has one effect, and a stop before a script runs has none
(`StopCall.Due`). A handler that waits has had it, or it waits for frames
(`Stage`): so it is when the event comes (`comes_to`), and when its handler
goes on it is had (`goes_to`). Where no frames are expanded nothing waits for
them: such stops are prompt.
-/

namespace DebugClient

/-! ## Effects -/

/-- What comes of a stop, or of going on. -/
inductive StopEffect where
  /-- A pause is held, shown or not. -/
  | held
  /-- A run to a location ended at a stop, which is not shown. -/
  | swallowed
  /-- No pause is held any more. -/
  | cleared
  deriving DecidableEq

/-- Whether the session is paused after an effect, if it was so before. -/
def StopEffect.holds : StopEffect → Bool → Bool
  | held, _ => true
  | swallowed, paused => paused
  | cleared, _ => false

/-- The effect a signal tells of. A pause that is vetoed shows in the
verdict, and any other one is reported. -/
def Signal.stopEffect? : Signal → Option StopEffect
  | .judged _ false => some .held
  | .debugger (.paused _) => some .held
  | .debugger .resumed => some .cleared
  | .reached _ => some .swallowed
  | _ => none

namespace Session

/-- The effects of stops, newest first. -/
def stopEffects (s : Session) : List StopEffect := s.journal.filterMap Signal.stopEffect?

/-- Whether a session is paused after effects, newest first, if it was so
before. -/
def holdsAfter (effects : List StopEffect) (paused : Bool) : Bool :=
  effects.foldr StopEffect.holds paused

/-- The effects a session has had since it was in another state. -/
def effectsSince (before after : Session) : List StopEffect :=
  after.stopEffects.take (after.stopEffects.length - before.stopEffects.length)

theorem effectsSince_eq {before after : Session} {new : List StopEffect}
    (h : after.stopEffects = new ++ before.stopEffects) : effectsSince before after = new := by
  simp [effectsSince, h]

/-! ## The system -/

/-- An event that stops execution or lets it go on. -/
inductive StopCall where
  /-- Execution stopped. -/
  | paused (report : Wire.PauseReport)
  /-- Execution goes on. -/
  | resumed

/-- The event. -/
def StopCall.event : StopCall → Wire.Event
  | paused r => .paused r
  | resumed => .resumed

/-- Execution stopped, and not before a script runs. -/
def StopCall.IsStop (c : StopCall) : Prop := ∃ r, c = .paused r ∧ r.reason ≠ .instrumentation

/-- The effects the event has had once its handler ends, newest first. -/
def StopCall.Due : StopCall → List StopEffect → Prop
  | paused r, effects =>
    if r.reason = .instrumentation then effects = [] else effects = [.held] ∨ effects = [.swallowed]
  | resumed, effects => effects = [.cleared]

/-- Two records of one event that has had its effects are as long. -/
theorem StopCall.length_due {c : StopCall} {effects effects' : List StopEffect} (h : c.Due effects)
    (h' : c.Due effects') : effects.length = effects'.length := by
  cases c with
  | resumed => rw [h, h']
  | paused r =>
    by_cases before : r.reason = .instrumentation
    · rw [Due, if_pos before] at h h'
      rw [h, h']
    · rw [Due, if_neg before] at h h'
      rcases h with rfl | rfl <;> rcases h' with rfl | rfl <;> rfl

/-- That no pause is held any more is an effect of going on. -/
theorem StopCall.resumed_of_cleared {c : StopCall} {effects : List StopEffect} (h : c.Due effects)
    (cleared : .cleared ∈ effects) : c = .resumed := by
  cases c with
  | resumed => rfl
  | paused r =>
    rw [Due] at h
    split at h
    · simp [h] at cleared
    · rcases h with rfl | rfl <;> simp at cleared

/-- A stop has an effect. -/
theorem StopCall.IsStop.not_due {c : StopCall} (stop : c.IsStop) : ¬ c.Due [] := by
  obtain ⟨r, rfl, stop⟩ := stop
  simp [Due, stop]

/-- What happens meanwhile. -/
inductive StopNews where
  /-- The backend answers a request. -/
  | answer (ticket : Ticket) (reply : Reply)
  /-- A policy answers: frames were expanded, say. -/
  | advise (ticket : Ticket) (advice : Advice)
  /-- A run to a location begins. -/
  | aim (destination : Destination)
  /-- Other policies are installed. -/
  | install (policies : Policies)

/-- No policy that expands frames is installed. -/
def StopNews.Plain : StopNews → Prop
  | install policies => policies.expandsFrames = false
  | _ => True

/-- What the news does to a session. -/
def StopNews.apply : StopNews → Session → Session
  | answer ticket reply, s => s.answer ticket reply
  | advise ticket advice, s => s.advise ticket advice
  | aim destination, s => s.setDestination destination
  | install policies, s => { s with policies }

/-- Events that stop execution or let it go on, with what happens while
their handlers wait. The effects are noted under the numbers of the
events. -/
def stopping : Flow.System StopCall StopNews Session Unit (Nat × StopEffect) where
  program c := dispatch c.event
  outside := StopNews.apply
  note number _ before after := (effectsSince before after).map (number, ·)

/-- A session after events and news, in any order. -/
def afterStops (s : Session) (moves : List (Flow.Move StopCall StopNews)) :
    Flow.Pool StopCall (Work Unit) Session Unit (Nat × StopEffect) :=
  Flow.Pool.play stopping { state := s } moves

/-! ## What of a session stops are about -/

/-- What of a session stops are about. -/
structure Bearing where
  /-- Whether the agent is enabled. -/
  enabled : Bool
  /-- Whether frames are expanded. -/
  expands : Bool
  /-- Whether a pause is held. -/
  paused : Bool
  /-- The effects so far. -/
  effects : List StopEffect

/-- What of a session stops are about. -/
def bearing (s : Session) : Bearing :=
  ⟨s.isEnabled, s.policies.expandsFrames, s.isPaused, s.stopEffects⟩

/-- A session takes events in; if stops are prompt, it expands no frames. -/
def TakesStops (prompt : Prop) (s : Session) : Prop :=
  s.isEnabled = true ∧ (prompt → s.policies.expandsFrames = false)

/-- **How far a call is** that had some effects when it left its last wait
in a state: since then the session had those effects that the call has had
since, of which it is paused or not. -/
structure Far (all had : List StopEffect) (s₀ s : Session) : Prop where
  /-- The agent is enabled, or not, as before. -/
  enabled : s.isEnabled = s₀.isEnabled
  /-- Frames are expanded, or not, as before. -/
  expands : s.policies.expandsFrames = s₀.policies.expandsFrames
  /-- The call had effects that the session had. -/
  effects : ∃ new, all = new ++ had ∧ s.stopEffects = new ++ s₀.stopEffects ∧
    s.isPaused = holdsAfter new s₀.isPaused
  /-- What was said remains. -/
  said : s₀.journal <:+ s.journal

theorem Far.refl (s : Session) (had : List StopEffect) : Far had had s s :=
  ⟨rfl, rfl, ⟨[], rfl, rfl, rfl⟩, List.suffix_refl _⟩

/-- What has nothing to do with stops changes nothing. -/
theorem Far.aside {all had : List StopEffect} {s₀ s s' : Session} (h : Far all had s₀ s)
    (same : s'.bearing = s.bearing) (said : s.journal <:+ s'.journal) : Far all had s₀ s' := by
  obtain ⟨enabled, expands, ⟨new, rfl, effects, paused⟩, before⟩ := h
  refine ⟨(congrArg Bearing.enabled same).trans enabled,
    (congrArg Bearing.expands same).trans expands, ⟨new, rfl, ?_, ?_⟩, before.trans said⟩
  · exact (congrArg Bearing.effects same).trans effects
  · exact (congrArg Bearing.paused same).trans paused

/-- A call has an effect. -/
theorem Far.more {all had : List StopEffect} {s₀ s s' : Session} (h : Far all had s₀ s)
    {effect : StopEffect}
    (same : s'.bearing =
      { s.bearing with paused := effect.holds s.isPaused, effects := effect :: s.stopEffects })
    (said : s.journal <:+ s'.journal) : Far (effect :: all) had s₀ s' := by
  obtain ⟨enabled, expands, ⟨new, rfl, effects, paused⟩, before⟩ := h
  have holds : s'.isPaused = effect.holds s.isPaused := congrArg Bearing.paused same
  have more : s'.stopEffects = effect :: s.stopEffects := congrArg Bearing.effects same
  refine ⟨(congrArg Bearing.enabled same).trans enabled,
    (congrArg Bearing.expands same).trans expands, ⟨effect :: new, rfl, ?_, ?_⟩, before.trans said⟩
  · rw [more, effects]
    rfl
  · rw [holds, paused]
    rfl

/-! ### Passing and selecting -/

theorem bearing_passing {s s' : Session} (change : Passing s s') : s'.bearing = s.bearing := by
  cases change <;> rfl

theorem journal_passing {s s' : Session} (change : Passing s s') : s.journal <:+ s'.journal := by
  cases change with
  | issue command => exact List.suffix_cons _ _
  | inquire question => exact List.suffix_cons _ _
  | _ => exact List.suffix_refl _

theorem bearing_select (s : Session) (frame : Option CallFrame) :
    (s.select frame).bearing = s.bearing := by
  unfold select
  split <;> rfl

theorem journal_select (s : Session) (frame : Option CallFrame) :
    s.journal <:+ (s.select frame).journal := by
  unfold select
  split
  · exact List.suffix_refl _
  · exact List.suffix_cons _ _

/-! ### What has an effect -/

section Effects

variable {all had : List StopEffect} {s₀ s : Session}

/-- Going on forgets the pause. -/
theorem bearing_resumed (s : Session) :
    s.resumed.bearing = { s.bearing with paused := false, effects := .cleared :: s.stopEffects } := by
  have forgotten : s.clearPause.bearing = { s.bearing with paused := false } := bearing_select _ _
  have effects : s.clearPause.stopEffects = s.stopEffects := congrArg Bearing.effects forgotten
  have said : s.resumed.bearing =
      { s.clearPause.bearing with effects := .cleared :: s.clearPause.stopEffects } := rfl
  rw [said, forgotten, effects]

theorem far_resumed (far : Far all had s₀ s) : Far (.cleared :: all) had s₀ s.resumed :=
  far.more (bearing_resumed s)
    ((journal_select { s with isPausing := false, pause := none } none).trans (List.suffix_cons _ _))

/-- A session that takes in a pause holds it, whatever the verdict. -/
theorem far_present (far : Far all had s₀ s) (d : PauseDetails) :
    Far (.held :: all) had s₀ (present d s).2 := by
  have noted : s.journal <:+ ((s.hold d).noteVerdict d).journal := by
    unfold noteVerdict
    split
    · exact List.suffix_cons _ _
    · exact List.suffix_refl _
  unfold present
  dsimp only
  by_cases shown : (s.hold d).verdict d = true
  · rw [if_pos shown]
    have shows : ((s.hold d).noteVerdict d).journal <:+ (((s.hold d).noteVerdict d).display d).journal :=
      (List.suffix_cons _ _).trans (journal_select (({ (s.hold d).noteVerdict d with
        autoStepOver := false }).report (.paused d)) _)
    refine far.more ((bearing_select _ _).trans ?_) (noted.trans shows)
    change (⟨_, _, _, .held :: ((s.hold d).noteVerdict d).stopEffects⟩ : Bearing) = _
    unfold noteVerdict
    rw [shown]
    split <;> rfl
  · -- Only a policy can veto, and then the verdict is in the journal.
    rw [if_neg shown]
    have policy : (s.hold d).policies.beforePaused.isSome = true := by
      unfold verdict at shown
      split at shown
      · exact absurd rfl shown
      · rename_i found
        rw [found]
        rfl
    refine far.more ?_ noted
    rw [noteVerdict, if_pos policy, Bool.eq_false_iff.2 shown]
    rfl

/-- A stop at the end of a run is swallowed, and any other one is not. -/
theorem far_arrive (far : Far all had s₀ s) (d : PauseDetails) :
    (∃ listener t, arrive d s = (some listener, t) ∧ Far (.swallowed :: all) had s₀ t) ∨
      ∃ t, arrive d s = (none, t) ∧ Far all had s₀ t := by
  obtain ⟨aim, -, -, arrives⟩ | ⟨-, arrives⟩ := arrive_cases d s
  · exact .inl ⟨_, _, arrives, far.more rfl (List.suffix_cons _ _)⟩
  · exact .inr ⟨_, arrives, far.aside rfl (List.suffix_refl _)⟩

end Effects

/-! ## What handlers do -/

/-- What a call may do from one wait to the next, by which it has had its
effects. -/
def StopCall.protocol (c : StopCall) : Flow.Protocol (List StopEffect) Session Unit where
  given _ := True
  moves had s₀ all s := c.Due all ∧ Far all had s₀ s
  ends had s₀ _ s := ∃ all, c.Due all ∧ Far all had s₀ s

/-- By what a session has said, a policy was asked to expand the frames of a
stop as the stop arrived. -/
def AskedFrames (r : Wire.PauseReport) (met : Session) (said : List Signal) : Prop :=
  .inquiry met.nextTicket (.expand (met.known r)) :: met.journal <:+ said

/-- **Where the handler of an event waits** that has had some effects, by what
the session has said. Stops that are prompt do not wait for frames. -/
inductive Stage (prompt : Prop) (said : List Signal) (c : StopCall) :
    List StopEffect → Work Unit → Prop where
  /-- It has had its effects. -/
  | settled {all : List StopEffect} {m : Work Unit} (due : c.Due all)
      (stands : m.Stands c.protocol c.protocol.ends all) : Stage prompt said c all m
  /-- It waits for its frames. -/
  | expanding {r : Wire.PauseReport} {met : Session} (late : ¬ prompt) (is : c = .paused r)
      (stop : r.reason ≠ .instrumentation) (asked : AskedFrames r met said) :
      Stage prompt said c [] (awaitsFrames r met.nextTicket (met.known r))

theorem Stage.mono {prompt : Prop} {said more : List Signal} {c : StopCall} {all : List StopEffect}
    {m : Work Unit} (h : Stage prompt said c all m) (grown : said <:+ more) :
    Stage prompt more c all m := by
  cases h with
  | settled due stands => exact .settled due stands
  | expanding late is stop asked => exact .expanding late is stop (asked.trans grown)

/-- Stops that are prompt have had their effects. -/
theorem Stage.due {prompt : Prop} {said : List Signal} {c : StopCall} {all : List StopEffect}
    {m : Work Unit} (h : Stage prompt said c all m) (early : prompt) : c.Due all := by
  cases h with
  | settled due _ => exact due
  | expanding late _ _ _ => exact absurd early late

/-- What has an effect as it goes on is a stop that has had none. -/
theorem Stage.late {prompt : Prop} {said : List Signal} {c : StopCall} {had new : List StopEffect}
    {m : Work Unit} (h : Stage prompt said c had m) (due : c.Due (new ++ had)) (more : new ≠ []) :
    had = [] ∧ c.IsStop := by
  cases h with
  | expanding _ is stop _ => exact ⟨rfl, _, is, stop⟩
  | settled before _ =>
    have same := StopCall.length_due due before
    rw [List.length_append] at same
    exact absurd (List.length_eq_zero_iff.1 (by omega)) more

/-- **A handler has come to a wait or its end** since it left its last wait in a
state, and has had some effects. -/
structure Reached (prompt : Prop) (c : StopCall) (had : List StopEffect) (s₀ : Session)
    (r : Work Unit × Session) (all : List StopEffect) : Prop where
  /-- The effects it has had. -/
  far : Far all had s₀ r.2
  /-- At its end it has had what is due. -/
  ended : ∀ x, r.1.result? = some x → c.Due all
  /-- Otherwise it waits. -/
  waits : r.1.result? = none → Stage prompt r.2.journal c all r.1

section Handlers

variable {prompt : Prop} {c : StopCall} {had all : List StopEffect} {s₀ s : Session}
  {r : Wire.PauseReport} {m : Work Unit}

/-- A call that has had what is due may wait, and what it does in passing
has no effect. -/
theorem aloof_far (due : c.Due all) : Aloof c.protocol (Far all) where
  lets _ _ _ h := ⟨all, ⟨due, h⟩, fun t _ => .refl t all⟩
  passing change far := far.aside (bearing_passing change) (journal_passing change)

/-- A handler that keeps to its protocol has had what is due. -/
theorem reached_of_protocol {r : Work Unit × Session}
    (h : (∃ x, r.1 = .done x ∧ c.protocol.ends had s₀ x r.2) ∨
      ∃ all, r.1.Stands c.protocol c.protocol.ends all ∧ c.protocol.moves had s₀ all r.2) :
    ∃ all, c.Due all ∧ Reached prompt c had s₀ r all := by
  obtain ⟨_, is, all, due, far⟩ | ⟨all, stands, due, far⟩ := h
  · refine ⟨all, due, far, fun _ _ => due, fun none => ?_⟩
    rw [is] at none
    cases none
  · exact ⟨all, due, far, fun _ _ => due, fun _ => .settled due stands⟩

/-- **A stop that is taken in** has its effect. -/
theorem obeys_takePause (stop : r.reason ≠ .instrumentation) (far : Far [] had s₀ s)
    (d : PauseDetails) :
    (takePause d).Obeys (StopCall.paused r).protocol (StopCall.paused r).protocol.ends had s₀ s := by
  have held : (StopCall.paused r).Due [.held] := by simp [StopCall.Due, stop]
  have swallowed : (StopCall.paused r).Due [.swallowed] := by simp [StopCall.Due, stop]
  rw [takePause, Flow.obeys_seq, Flow.obeys_act]
  obtain ⟨listener, t, arrives, far⟩ | ⟨t, arrives, far⟩ := far_arrive far d
  · rw [arrives]
    exact ⟨_, swallowed, far⟩
  · rw [arrives]
    have presented := far_present far d
    change (presenting d).Obeys _ _ _ _ _
    rw [presenting, Flow.obeys_seq, Flow.obeys_act]
    -- A pause that is vetoed is held all the same; stepping on has no effect of its own.
    split
    · exact ⟨_, held, presented⟩
    · exact ((aloof_far held).stepOn _ _ _ presented).mono fun _ _ _ _ far => ⟨_, held, far⟩

/-- That execution goes on takes effect as it is said. -/
theorem toWait_resumed (on : s.isEnabled = true) :
    (dispatch StopCall.resumed.event).toWait s = (.done (), s.resumed) := by
  change (if true && !s.isEnabled then return () else Flow.modify Session.resumed : Work Unit).toWait s = _
  rw [on]
  rfl

/-- **Where an event leads** as it comes: it has its effect, or is a stop that
waits for frames. -/
theorem comes_to (c : StopCall) (takes : TakesStops prompt s) :
    ∃ all, (all = [] ∨ c.Due all) ∧ Reached prompt c [] s ((dispatch c.event).toWait s) all := by
  have start : Far [] [] s s := .refl s []
  have due {m : Work Unit} {s' : Session} (h : m.Obeys c.protocol c.protocol.ends [] s s') :
      ∃ all, (all = [] ∨ c.Due all) ∧ Reached prompt c [] s (m.toWait s') all := by
    obtain ⟨all, due, reached⟩ := reached_of_protocol h.toWait
    exact ⟨all, .inr due, reached⟩
  cases c with
  | resumed =>
    rw [toWait_resumed takes.1]
    refine ⟨[.cleared], .inr rfl, far_resumed start, fun _ _ => rfl, fun waits => ?_⟩
    cases waits
  | paused r =>
    by_cases before : r.reason = .instrumentation
    · have none : (StopCall.paused r).Due [] := by rw [StopCall.Due, if_pos before]
      have handles : (dispatch (StopCall.paused r).event).toWait s = (handleInstrumentation r).toWait s := by
        change (if true && !s.isEnabled then return () else handlePaused r : Work Unit).toWait s = _
        rw [takes.1, handlePaused, if_pos before]
        rfl
      rw [handles]
      exact due (((aloof_far none).instrumentation r _ _ _ start).mono fun _ _ _ _ far => ⟨[], none, far⟩)
    · have handles : (dispatch (StopCall.paused r).event).toWait s = _ := toWait_stop takes.1 before
      rw [handles]
      split
      · rename_i on
        have late : ¬ prompt := fun early => Bool.false_ne_true ((takes.2 early).symm.trans on)
        refine ⟨[], .inl rfl, start.aside rfl (List.suffix_cons _ _), fun _ ended => ?_, fun _ => ?_⟩
        · cases ended
        · exact .expanding late rfl before (List.suffix_refl _)
      · have made : Far [] [] s (s.minted r) := start.aside rfl (List.suffix_refl _)
        exact due (obeys_takePause before made _)

/-- **Where a handler leads that goes on**: it has had what is due. -/
theorem goes_to {said : List Signal} (stage : Stage prompt said c had m) (ready : m.moves s = true) :
    ∃ all, c.Due all ∧ Reached prompt c had s (m.pass s) all := by
  cases stage with
  | settled due stands => exact reached_of_protocol (stands.pass trivial ready)
  | @expanding r met late is stop asked =>
    subst is
    obtain ⟨answer, answered⟩ := Lookup.exists_lookup ready
    have taken : Far [] [] s (s.takeAdvice met.nextTicket).2 := (Far.refl s []).aside rfl (List.suffix_refl _)
    rw [pass_awaitsFrames answered]
    exact reached_of_protocol (obeys_takePause stop taken _).toWait

end Handlers

end Session

end DebugClient
