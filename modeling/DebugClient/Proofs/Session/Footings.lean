import DebugClient.Proofs.Session.Journal
import DebugClient.Proofs.Session.Taking
/-!
# Footings — whether the agent is on, and what was taken in

A session is told of by the `Mark`s in its journal: that its agent was
switched on or off, that a script or a pause was taken in, that execution
went on, and that the global object was cleared. The `Footing` of a session
has its marks beside what they are about.

What is done in passing leaves the footing as it is. Events do little to
it, and nothing that would take a script or a pause in, except the two that
bring one (`footing_parsed`, `footing_present`).
-/

namespace DebugClient

/-! ## Marks -/

/-- What a journal tells of the agent, of scripts and of pauses. -/
inductive Mark where
  /-- The agent was switched on or off. -/
  | switched (on : Bool)
  /-- A script was taken in. -/
  | script
  /-- A pause was taken in, shown or not. -/
  | pause
  /-- Execution went on. -/
  | resumed
  /-- The global object was cleared. -/
  | cleared
  deriving DecidableEq

/-- What a signal tells. A pause that is vetoed shows in the verdict, and
any other one is reported. -/
def Signal.mark? : Signal → Option Mark
  | .debugger .wasEnabled => some (.switched true)
  | .debugger .wasDisabled => some (.switched false)
  | .debugger (.scriptParsed _) => some .script
  | .debugger (.paused _) => some .pause
  | .judged _ false => some .pause
  | .debugger .resumed => some .resumed
  | .debugger .globalObjectCleared => some .cleared
  | _ => none

namespace Mark

/-- Whether the agent is said to be on. -/
def switch? : Mark → Option Bool
  | switched on => some on
  | _ => none

/-- Whether a script is held after a mark, if it is about that. -/
def script? : Mark → Option Bool
  | script => some true
  | cleared => some false
  | _ => none

/-- Whether a pause is held after a mark, if it is about that. -/
def pause? : Mark → Option Bool
  | pause => some true
  | resumed => some false
  | cleared => some false
  | _ => none

/-- What those who listen were told of the agent, newest first. -/
def switches (marks : List Mark) : List Bool := marks.filterMap switch?

/-- A script was taken in since the global object was last cleared. -/
def tookScript (marks : List Mark) : Bool := (marks.findSome? script?).getD false

/-- A pause was taken in since execution last went on or the global object
was last cleared. -/
def tookPause (marks : List Mark) : Bool := (marks.findSome? pause?).getD false

end Mark

/-! ## Footings -/

/-- Whether the agent is on, and what was taken in. -/
structure Footing where
  /-- Whether the agent is enabled. -/
  enablement : Enablement
  /-- Whether a policy shows frames. -/
  expands : Bool
  /-- Whether a pause is held. -/
  paused : Bool
  /-- Whether a frame is selected. -/
  selects : Bool
  /-- The marks, newest first. -/
  marks : List Mark

namespace Footing

/-- The footing after a mark. -/
def mark (mark : Mark) (f : Footing) : Footing := { f with marks := mark :: f.marks }

/-- The pause is forgotten. -/
def running (f : Footing) : Footing := { f with paused := false, selects := false }

/-- The pause is forgotten, and the global object is cleared. -/
def clear (f : Footing) : Footing := f.running.mark .cleared

end Footing

namespace Session

/-- The marks in the journal, newest first. -/
def marks (s : Session) : List Mark := s.journal.filterMap Signal.mark?

/-- Whether the agent is on, and what was taken in. -/
def footing (s : Session) : Footing where
  enablement := s.enablement
  expands := s.policies.expandsFrames
  paused := s.isPaused
  selects := s.selected.isSome
  marks := s.marks

theorem isEnabled_iff_footing {s : Session} :
    s.isEnabled = true ↔ s.footing.enablement ≠ .disabled := by
  simp [isEnabled, footing]

theorem footing_emit (s : Session) {signal : Signal} (unmarked : signal.mark? = none) :
    (s.emit signal).footing = s.footing := by
  simp [footing, marks, emit, isPaused, unmarked]

theorem footing_emitAll {α : Type} (signal : α → Signal) (unmarked : ∀ a, (signal a).mark? = none)
    (l : List α) (s : Session) : (l.foldl (fun s a => s.emit (signal a)) s).footing = s.footing :=
  foldl_same (fun s a => footing_emit s (unmarked a)) l s

theorem footing_passing {s s' : Session} (change : Passing s s') : s'.footing = s.footing := by
  cases change <;> rfl

theorem footing_select (s : Session) (frame : Option CallFrame) :
    (s.select frame).footing = { s.footing with selects := frame.isSome } := by
  unfold select
  split
  · rename_i same
    have selects : s.selected.isSome = frame.isSome := by
      simpa using congrArg Option.isSome same
    rw [← selects]
    rfl
  · exact footing_emit { s with selected := frame } rfl

theorem footing_clearPause (s : Session) : s.clearPause.footing = s.footing.running :=
  footing_select { s with isPausing := false, pause := none } none

theorem footing_resumed (s : Session) : s.resumed.footing = s.footing.running.mark .resumed :=
  congrArg (Footing.mark .resumed) (footing_clearPause s)

theorem footing_detachAll (s : Session) (scripts : List Script) :
    (s.detachAll scripts).footing = s.footing :=
  footing_emitAll (fun script => .maps (.detach script)) (fun _ => rfl) scripts s

theorem footing_clearGlobalObject (s : Session) : s.clearGlobalObject.footing = s.footing.clear := by
  have forgotten : s.clearPause.forgetScripts.footing = s.clearPause.footing :=
    footing_detachAll { s.clearPause with catalog := {} } _
  exact congrArg (Footing.mark .cleared) (forgotten.trans (footing_clearPause s))

theorem footing_giveUpIdentity (s : Session) : s.giveUpIdentity.footing = s.footing := by
  unfold giveUpIdentity
  split <;> rfl

theorem footing_finishDisabling (s : Session) :
    s.finishDisabling.footing = s.footing.clear.mark (.switched false) := by
  rw [finishDisabling, footing_giveUpIdentity]
  exact congrArg (Footing.mark (.switched false)) (footing_clearGlobalObject { s with isPausing := false })

theorem footing_identify (s : Session) (id : DebuggerId) : (s.identify id).footing = s.footing := by
  unfold identify withdraw
  refine (footing_emit _ rfl).trans ?_
  split <;> [split; skip] <;> rfl

/-! ## Events -/

theorem footing_arrive (d : PauseDetails) (s : Session) : (arrive d s).2.footing = s.footing := by
  obtain ⟨aim, -, -, arrives⟩ | ⟨-, arrives⟩ := arrive_cases d s <;> rw [arrives] <;> rfl

/-- A session that takes in a pause holds it, whatever the verdict. -/
theorem footing_present (d : PauseDetails) (s : Session) :
    ∃ selects, (present d s).2.footing =
      Footing.mark .pause { s.footing with paused := true, selects := selects } := by
  unfold present
  dsimp only
  by_cases shown : (s.hold d).verdict d = true
  · have noted : ((s.hold d).noteVerdict d).footing = (s.hold d).footing := by
      unfold noteVerdict
      rw [shown]
      split <;> rfl
    rw [if_pos shown]
    refine ⟨d.frames.head?.isSome, (footing_select _ _).trans ?_⟩
    have reported : ({ (s.hold d).noteVerdict d with autoStepOver := false }.report (.paused d)).footing =
        ((s.hold d).noteVerdict d).footing.mark .pause := rfl
    rw [reported, noted]
    rfl
  · -- Only a policy can veto, and then the verdict is in the journal.
    rw [if_neg shown]
    have policy : (s.hold d).policies.beforePaused.isSome = true := by
      unfold verdict at shown
      split at shown
      · exact absurd rfl shown
      · rename_i found
        rw [found]
        rfl
    rw [noteVerdict, if_pos policy, Bool.eq_false_iff.2 shown]
    exact ⟨s.selected.isSome, rfl⟩

theorem footing_attachMap (s : Session) (script : Script) :
    (s.attachMap script).footing = s.footing := by
  unfold attachMap giveWay
  split
  · refine (footing_emit _ rfl).trans ?_
    split <;> [split; skip] <;> rfl
  · rfl

/-- A script that is not known is taken in. -/
theorem footing_parsed (r : Wire.ScriptReport) (failed : Bool) (s : Session) :
    (parsed r failed s).2 = s ∨ (parsed r failed s).2.footing = s.footing.mark .script := by
  unfold parsed
  split
  · exact .inl rfl
  refine .inr ?_
  dsimp only
  generalize Script.ofReport s.nextKey r failed (ofExtension r) = x
  have registered : ({ s with nextKey := s.nextKey.next }.register x).footing =
      s.footing.mark .script := rfl
  have attached : (if failed = true then { s with nextKey := s.nextKey.next }.register x
      else ({ s with nextKey := s.nextKey.next }.register x).attachMap x).footing =
        s.footing.mark .script := by
    split
    · exact registered
    · exact (footing_attachMap _ x).trans registered
  split
  · refine Eq.trans ?_ attached
    exact footing_emitAll (fun y => .debugger (.scriptDiscarded y)) (fun _ => rfl) _ _
  · exact attached

theorem footing_destroyContext (id : ContextId) (s : Session) :
    (s.destroyContext id).footing = s.footing ∨ (s.destroyContext id).footing = s.footing.clear := by
  have dropped : (s.dropContextMaps id).footing = s.footing := footing_detachAll _ _
  unfold destroyContext
  dsimp only
  split
  · exact .inl dropped
  · have told := footing_emit { s.dropContextMaps id with
      contexts := (s.dropContextMaps id).contexts.filter (·.id != id) }
      (rfl : (Signal.runtime (.contextDestroyed ‹_›)).mark? = none)
    split
    · exact .inr ((footing_clearGlobalObject _).trans (congrArg _ (told.trans dropped)))
    · exact .inl (told.trans dropped)

/-- **What an event does to the footing** if it brings neither a script nor
a pause: nothing, or execution goes on, or the global object goes. -/
theorem footing_taking {s s' : Session} (taking : Taking s s') :
    s'.footing = s.footing ∨ s'.footing = s.footing.running.mark .resumed ∨
      s'.footing = s.footing.clear := by
  cases taking with
  | mint making => exact .inl rfl
  | arrive d => exact .inl (footing_arrive d s)
  | resumed => exact .inr (.inl (footing_resumed s))
  | resolved r =>
    exact .inl (footing_emitAll
      (fun l : ListenerId × String => .resolved l.2 (.ofWire r.location)) (fun _ => rfl) _ s)
  | createContext r => exact .inl rfl
  | destroyContext id => exact (footing_destroyContext id s).imp_right .inr
  | clearContexts =>
    refine .inr (.inr (Eq.trans ?_ (footing_clearGlobalObject s)))
    exact footing_emitAll (fun c => .runtime (.contextDestroyed c)) (fun _ => rfl) _ _
  | thrownBy t => exact .inl rfl
  | revoked r => exact .inl rfl
  | consoleCalled c => exact .inl rfl

end Session

end DebugClient
