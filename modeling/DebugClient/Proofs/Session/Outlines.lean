import DebugClient.Proofs.Session.Journal
import DebugClient.Session.Events
/-!
# Outlines — a session as far as it is driven

A session is driven by what stops it, lets it go on, steps it and clears
it. A `Stance` is what of the session this is about, and its `log` the
signals that tell of it. Here is what each change of a session does to
them; whatever is not named here changes neither.
-/

namespace DebugClient

/-! ## The log -/

/-- A signal asks the backend or a policy. -/
def Signal.asks : Signal → Bool
  | .request _ _ | .inquiry _ _ => true
  | _ => false

/-- A signal tells of driving: it asks, or tells of a pause, its end, or a
run to a location. -/
def Signal.drives : Signal → Bool
  | .request _ _ | .inquiry _ _ | .judged _ _ | .reached _ => true
  | .debugger (.paused _) | .debugger .globalObjectCleared => true
  | _ => false

/-- What of a session driving is about. -/
structure Stance where
  /-- Whether the agent is enabled. -/
  enabled : Bool
  /-- Whether a policy shows frames. -/
  expands : Bool
  /-- Whether a policy names ranges to skip. -/
  skips : Bool
  /-- The pause. -/
  pause : Option PauseDetails
  /-- The frame that is selected. -/
  selected : Option Key
  /-- Whether a vetoed pause steps over. -/
  stepsOver : Bool
  /-- The run to a location that is under way. -/
  destination : Option Destination

namespace Stance

/-- Execution goes on. -/
def running (v : Stance) : Stance := { v with pause := none, selected := none }

/-- The global object is gone. -/
def cleared (v : Stance) : Stance := { v.running with stepsOver := false }

/-- The first frame of the pause. -/
def top? (v : Stance) : Option CallFrame := v.pause.bind (·.frames.head?)

end Stance

namespace Session

/-- What of a session driving is about. -/
def stance (s : Session) : Stance where
  enabled := s.isEnabled
  expands := s.policies.expandsFrames
  skips := s.policies.skipsRanges
  pause := s.pause
  selected := s.selected.map (·.key)
  stepsOver := s.autoStepOver
  destination := s.destination

/-- The signals that tell of driving, newest first. -/
def log (s : Session) : List Signal := s.journal.filter Signal.drives

/-- The signals of driving since a session was in another state. -/
def logSince (before after : Session) : List Signal :=
  after.log.take (after.log.length - before.log.length)

theorem logSince_eq {before after : Session} {new : List Signal}
    (h : after.log = new ++ before.log) : logSince before after = new := by
  simp [logSince, h]

/-! ## Outlines -/

/-- A session, as far as driving goes. -/
structure Outline where
  /-- The stance. -/
  stance : Stance
  /-- The log. -/
  log : List Signal
  /-- The next free ticket. -/
  nextTicket : Ticket
  /-- Answers of policies that have not been taken. -/
  advice : List (Ticket × Advice)

/-- A session, as far as driving goes. -/
def outline (s : Session) : Outline := ⟨s.stance, s.log, s.nextTicket, s.advice⟩

theorem outline_emit (s : Session) {signal : Signal} (aside : signal.drives = false) :
    (s.emit signal).outline = s.outline := by
  simp [outline, log, emit, stance, isEnabled, aside]

theorem outline_select (s : Session) (frame : Option CallFrame) :
    (s.select frame).outline =
      { s.outline with stance := { s.stance with selected := frame.map (·.key) } } := by
  unfold select
  split
  · rename_i same
    rw [← same]
    rfl
  · exact outline_emit { s with selected := frame } rfl

theorem outline_clearPause (s : Session) :
    s.clearPause.outline = { s.outline with stance := s.stance.running } :=
  outline_select { s with isPausing := false, pause := none } none

theorem outline_resumed (s : Session) :
    s.resumed.outline = { s.outline with stance := s.stance.running } :=
  (outline_emit s.clearPause rfl).trans (outline_clearPause s)

theorem outline_emitAll {α : Type} (signal : α → Signal) (aside : ∀ a, (signal a).drives = false)
    (l : List α) (s : Session) : (l.foldl (fun s a => s.emit (signal a)) s).outline = s.outline :=
  foldl_same (fun s a => outline_emit s (aside a)) l s

theorem outline_setEnablement (s : Session) (enablement : Enablement) :
    (s.setEnablement enablement).outline =
      { s.outline with stance := { s.stance with enabled := enablement != .disabled } } := rfl

/-- Whether it is enabled or being enabled does not matter. -/
theorem outline_setEnablement_self (s : Session) {enablement : Enablement}
    (same : (enablement != .disabled) = s.isEnabled) :
    (s.setEnablement enablement).outline = s.outline := by
  rw [outline_setEnablement, same]
  rfl

theorem outline_detachAll (s : Session) (scripts : List Script) :
    (s.detachAll scripts).outline = s.outline :=
  outline_emitAll (fun script => .maps (.detach script)) (fun _ => rfl) scripts s

theorem outline_forgetScripts (s : Session) :
    s.forgetScripts.outline = { s.outline with stance := { s.stance with stepsOver := false } } := by
  have detached := outline_detachAll { s with catalog := s.catalog.clear.2 } s.catalog.clear.1
  have forgotten : s.forgetScripts.outline =
      { ({ s with catalog := s.catalog.clear.2 }.detachAll s.catalog.clear.1).outline with
        stance := { ({ s with catalog := s.catalog.clear.2 }.detachAll s.catalog.clear.1).stance with
          stepsOver := false } } := rfl
  rw [forgotten, detached]
  exact congrArg (fun o : Outline => { s.outline with stance := { o.stance with stepsOver := false } }) detached

theorem outline_clearGlobalObject (s : Session) :
    s.clearGlobalObject.outline =
      { s.outline with
        stance := s.stance.cleared, log := .debugger .globalObjectCleared :: s.log } := by
  have cleared : s.clearGlobalObject.outline =
      { s.clearPause.forgetScripts.outline with
        log := .debugger .globalObjectCleared :: s.clearPause.forgetScripts.outline.log } := rfl
  have stance : s.clearPause.stance = s.stance.running := congrArg Outline.stance (outline_clearPause s)
  rw [cleared, outline_forgetScripts, outline_clearPause, stance]
  rfl

theorem outline_finishDisabling (s : Session) :
    s.finishDisabling.outline =
      { s.outline with
        stance := s.stance.cleared, log := .debugger .globalObjectCleared :: s.log } := by
  have gone : ∀ t : Session, t.giveUpIdentity.outline = t.outline := by
    intro t
    unfold giveUpIdentity
    split <;> rfl
  rw [finishDisabling, gone]
  exact (outline_emit _ rfl).trans (outline_clearGlobalObject { s with isPausing := false })

theorem outline_identify (s : Session) (id : DebuggerId) : (s.identify id).outline = s.outline := by
  unfold identify withdraw
  refine (outline_emit _ rfl).trans ?_
  split
  · split <;> rfl
  · rfl

theorem outline_dropContextMaps (s : Session) (id : ContextId) :
    (s.dropContextMaps id).outline = s.outline := outline_detachAll _ _

theorem outline_clearContexts (s : Session) :
    s.clearContexts.outline =
      { s.outline with
        stance := s.stance.cleared, log := .debugger .globalObjectCleared :: s.log } := by
  refine Eq.trans ?_ (outline_clearGlobalObject s)
  exact outline_emitAll (fun c => .runtime (.contextDestroyed c)) (fun _ => rfl) _ _

/-- Without its last context a session loses the global object. -/
theorem outline_destroyContext (s : Session) (id : ContextId) :
    (s.destroyContext id).outline = s.outline ∨
      (s.destroyContext id).outline =
        { s.outline with
          stance := s.stance.cleared, log := .debugger .globalObjectCleared :: s.log } := by
  have dropped := outline_dropContextMaps s id
  unfold destroyContext
  dsimp only
  split
  · exact .inl dropped
  rename_i context _
  have told : ({ s.dropContextMaps id with
      contexts := (s.dropContextMaps id).contexts.filter (·.id != id) }.tell
        (.contextDestroyed context)).outline = s.outline := (outline_emit _ rfl).trans dropped
  split
  · refine .inr ((outline_clearGlobalObject _).trans ?_)
    exact congrArg (fun o : Outline => { o with
      stance := o.stance.cleared, log := .debugger .globalObjectCleared :: o.log }) told
  · exact .inl told

theorem outline_attachMap (s : Session) (script : Script) :
    (s.attachMap script).outline = s.outline := by
  unfold attachMap giveWay
  split
  · refine (outline_emit _ rfl).trans ?_
    split
    · split <;> rfl
    · rfl
  · rfl

theorem outline_parsed (s : Session) (r : Wire.ScriptReport) (hasSyntaxError : Bool) :
    (parsed r hasSyntaxError s).2.outline = s.outline := by
  unfold parsed
  split
  · rfl
  dsimp only
  generalize Script.ofReport s.nextKey r hasSyntaxError (ofExtension r) = script
  have registered : ({ s with nextKey := s.nextKey.next }.register script).outline = s.outline :=
    outline_emit _ rfl
  have attached : (if hasSyntaxError then { s with nextKey := s.nextKey.next }.register script
      else ({ s with nextKey := s.nextKey.next }.register script).attachMap script).outline =
        s.outline := by
    split
    · exact registered
    · exact (outline_attachMap _ script).trans registered
  split
  · exact (outline_emitAll (fun script => .debugger (.scriptDiscarded script)) (fun _ => rfl) _ _).trans
      attached
  · exact attached

/-! ## Pauses -/

/-- The verdict on a pause, as it is in the journal. -/
def judgement (s : Session) (d : PauseDetails) : List Signal :=
  if s.policies.beforePaused.isSome then [.judged d (s.verdict d)] else []

/-- A pause is shown if the policy says so, and without one. -/
theorem judgement_of_shown {s : Session} {d : PauseDetails} (shown : (present d s).1 = true) :
    (s.hold d).judgement d = [] ∨ (s.hold d).judgement d = [.judged d true] := by
  have verdict : (s.hold d).verdict d = true := shown
  unfold judgement
  split
  · exact .inr (by rw [verdict])
  · exact .inl rfl

/-- Only a policy can veto. -/
theorem judgement_of_vetoed {s : Session} {d : PauseDetails} (vetoed : (present d s).1 = false) :
    (s.hold d).judgement d = [.judged d false] := by
  have verdict : (s.hold d).verdict d = false := vetoed
  unfold judgement
  split
  · rw [verdict]
  · rename_i none
    rw [Session.verdict, Option.not_isSome_iff_eq_none.1 none] at verdict
    cases verdict

theorem outline_noteVerdict (s : Session) (d : PauseDetails) :
    (s.noteVerdict d).outline = { s.outline with log := s.judgement d ++ s.log } := by
  unfold noteVerdict judgement
  split <;> rfl

theorem outline_display (s : Session) (d : PauseDetails) :
    (s.display d).outline =
      { s.outline with
        stance := { s.stance with selected := d.frames.head?.map (·.key), stepsOver := false }
        log := .debugger (.paused d) :: s.log } :=
  outline_select _ _

/-- A session that takes in a pause holds it; only a pause that is shown is
reported and selected from. -/
theorem outline_present (s : Session) (d : PauseDetails) :
    (present d s).2.outline =
      if (present d s).1 then
        { s.outline with
          stance := { s.stance with
            pause := some d, selected := d.frames.head?.map (·.key), stepsOver := false }
          log := .debugger (.paused d) :: ((s.hold d).judgement d ++ s.log) }
      else
        { s.outline with
          stance := { s.stance with pause := some d }
          log := (s.hold d).judgement d ++ s.log } := by
  have noted := outline_noteVerdict (s.hold d) d
  unfold present
  dsimp only
  by_cases shown : (s.hold d).verdict d = true
  · rw [if_pos shown, if_pos shown, outline_display, noted]
    have stance : ((s.hold d).noteVerdict d).stance = (s.hold d).stance := congrArg Outline.stance noted
    have log : ((s.hold d).noteVerdict d).log = (s.hold d).judgement d ++ (s.hold d).log :=
      congrArg Outline.log noted
    rw [stance, log]
    rfl
  · rw [if_neg shown, if_neg shown, noted]
    rfl

/-- Whether the run to a location that is under way ends at a stop. -/
def arrivesAt (s : Session) (d : PauseDetails) : Bool :=
  s.destination.any fun destination => Destination.reachedBy destination d

end Session

end DebugClient
