import DebugClient.Proofs.Flow.Mirrors
import DebugClient.Proofs.Session.Driving
/-!
# Blindness — what a session does not look at

What a session has said is written down and never read, and where the run to a
location ends is looked at by stops only. So a change of a session is the same
with another past in front of it and with another run under way (`following`),
and a call that makes such changes only goes the same way on both (`Blind`).
-/

namespace DebugClient

namespace Session

/-- A session that has said something before, and has another run to a location
under way. -/
def following (s : Session) (past : List Signal) (aim : Option Destination) : Session :=
  { s with journal := s.journal ++ past, destination := aim }

section Changes

variable {α : Type} (s : Session) (past : List Signal) (aim : Option Destination)

/-- Signals that are written one after another. -/
theorem foldl_following {f : Session → α → Session}
    (hf : ∀ s a, f (following s past aim) a = (f s a).following past aim) (l : List α) :
    l.foldl f (s.following past aim) = (l.foldl f s).following past aim := by
  induction l generalizing s with
  | nil => rfl
  | cons a rest ih =>
    rw [List.foldl_cons, List.foldl_cons, hf]
    exact ih (f s a)

/-! ### Pauses -/

theorem select_following (frame : Option CallFrame) :
    (s.following past aim).select frame = (s.select frame).following past aim := by
  unfold select
  by_cases same : s.selected.map (·.key) = frame.map (·.key)
  · rw [if_pos same, if_pos (show (s.following past aim).selected.map _ = _ from same)]
  · rw [if_neg same, if_neg (show ¬ (s.following past aim).selected.map _ = _ from same)]
    rfl

theorem clearPause_following :
    (s.following past aim).clearPause = s.clearPause.following past aim :=
  select_following { s with isPausing := false, pause := none } past aim none

theorem resumed_following : (s.following past aim).resumed = s.resumed.following past aim := by
  rw [resumed, clearPause_following]
  rfl

theorem noteVerdict_following (d : PauseDetails) :
    (s.following past aim).noteVerdict d = (s.noteVerdict d).following past aim := by
  unfold noteVerdict
  change (if s.policies.beforePaused.isSome then _ else _) = _
  split <;> rfl

theorem present_following (d : PauseDetails) :
    present d (s.following past aim) =
      ((present d s).1, (present d s).2.following past aim) := by
  have noted := noteVerdict_following (s.hold d) past aim d
  have held : (s.following past aim).hold d = (s.hold d).following past aim := rfl
  have verdict : ((s.hold d).following past aim).verdict d = (s.hold d).verdict d := rfl
  simp only [present, held, noted, verdict]
  split
  · refine congrArg (Prod.mk _) ?_
    exact select_following (({ (s.hold d).noteVerdict d with autoStepOver := false }).report (.paused d))
      past aim d.frames.head?
  · rfl

/-! ### Scripts -/

theorem detachAll_following (scripts : List Script) :
    (s.following past aim).detachAll scripts = (s.detachAll scripts).following past aim :=
  foldl_following s past aim (fun _ _ => rfl) scripts

theorem forgetScripts_following :
    (s.following past aim).forgetScripts = s.forgetScripts.following past aim :=
  congrArg (fun t : Session => { t with autoStepOver := false })
    (detachAll_following { s with catalog := s.catalog.clear.2 } past aim s.catalog.clear.1)

theorem clearGlobalObject_following :
    (s.following past aim).clearGlobalObject = s.clearGlobalObject.following past aim := by
  rw [clearGlobalObject, clearPause_following, forgetScripts_following]
  rfl

theorem giveWay_following (previous : Option Script) (script : Script) :
    (s.following past aim).giveWay previous script =
      (s.giveWay previous script).following past aim := by
  unfold giveWay
  split
  · split <;> rfl
  · rfl

theorem attachMap_following (script : Script) :
    (s.following past aim).attachMap script = (s.attachMap script).following past aim := by
  have url : (s.following past aim).mapUrl script = s.mapUrl script := rfl
  have identity : (s.following past aim).mapIdentity script = s.mapIdentity script := rfl
  simp only [attachMap, url, identity]
  split
  · rename_i url identity _ _
    exact congrArg (·.order (.attach script url))
      (giveWay_following { s with catalog := (s.catalog.bind identity script).2 } past aim _ script)
  · rfl

theorem discard_following (script : Script) :
    (s.following past aim).discard script = (s.discard script).following past aim :=
  foldl_following { s with catalog := (s.catalog.discard script).2 } past aim (fun _ _ => rfl) _

theorem parsed_following (r : Wire.ScriptReport) (hasSyntaxError : Bool) :
    parsed r hasSyntaxError (s.following past aim) =
      ((parsed r hasSyntaxError s).1, (parsed r hasSyntaxError s).2.following past aim) := by
  have catalog : (s.following past aim).catalog = s.catalog := rfl
  have key : (s.following past aim).nextKey = s.nextKey := rfl
  simp only [parsed, catalog, key]
  split
  · rfl
  refine congrArg (Prod.mk _) ?_
  generalize Script.ofReport s.nextKey r hasSyntaxError (ofExtension r) = script
  -- The script is registered first, and what comes after does not look back either.
  have after (t : Session) :
      (if hasSyntaxError then t.following past aim else (t.following past aim).attachMap script) =
        (if hasSyntaxError then t else t.attachMap script).following past aim := by
    split
    · rfl
    · exact attachMap_following t past aim script
  have attached := after ({ s with nextKey := s.nextKey.next }.register script)
  split
  · exact (congrArg (·.discard script) attached).trans (discard_following _ past aim script)
  · exact attached

theorem dropContextMaps_following (id : ContextId) :
    (s.following past aim).dropContextMaps id = (s.dropContextMaps id).following past aim :=
  detachAll_following { s with catalog := (s.catalog.unbindContext id).2 } past aim _

/-! ### Contexts -/

theorem clearContexts_following :
    (s.following past aim).clearContexts = s.clearContexts.following past aim := by
  unfold clearContexts
  rw [clearGlobalObject_following]
  exact foldl_following { s.clearGlobalObject with contexts := [] } past aim (fun _ _ => rfl) _

theorem destroyContext_following (id : ContextId) :
    (s.following past aim).destroyContext id = (s.destroyContext id).following past aim := by
  simp only [destroyContext, dropContextMaps_following]
  generalize s.dropContextMaps id = t
  have context : (t.following past aim).context? id = t.context? id := rfl
  rw [context]
  split
  · rfl
  · rename_i context _
    have told := clearGlobalObject_following
      ({ t with contexts := t.contexts.filter (·.id != id) }.tell (.contextDestroyed context)) past aim
    change (if (t.contexts.filter (·.id != id)).isEmpty then _ else _) =
      following (if (t.contexts.filter (·.id != id)).isEmpty then _ else _) past aim
    split
    · exact told
    · rfl

theorem resolved_following (r : Wire.Resolution) :
    (s.following past aim).resolved r = (s.resolved r).following past aim :=
  foldl_following s past aim (fun _ _ => rfl) _

/-! ### The agent -/

theorem giveUpIdentity_following :
    (s.following past aim).giveUpIdentity = s.giveUpIdentity.following past aim := by
  simp only [giveUpIdentity, following]
  split <;> rfl

theorem finishDisabling_following :
    (s.following past aim).finishDisabling = s.finishDisabling.following past aim := by
  have cleared := clearGlobalObject_following { s with isPausing := false } past aim
  unfold finishDisabling
  rw [← giveUpIdentity_following]
  exact congrArg (fun t : Session => (t.report .wasDisabled).giveUpIdentity) cleared

theorem withdraw_following (previous : Option DebuggerId) (id : DebuggerId) :
    (s.following past aim).withdraw previous id = (s.withdraw previous id).following past aim := by
  unfold withdraw
  split
  · split <;> rfl
  · rfl

theorem identify_following (id : DebuggerId) :
    (s.following past aim).identify id = (s.identify id).following past aim := by
  have withdrawn := withdraw_following { s with debuggerId := some id } past aim s.debuggerId id
  exact congrArg (fun t : Session =>
    { t with registry := t.registry.register id t.seat }.report .readyToPause) withdrawn

end Changes

/-! ## Sessions that differ in what is not looked at -/

/-- **Two sessions that are the same but for their pasts**, and for the runs to a
location that are under way, which may differ as is allowed. -/
def Parted (past past' : List Signal) (allowed : Option Destination → Option Destination → Prop)
    (s s' : Session) : Prop :=
  ∃ t : Session, ∃ aim aim', allowed aim aim' ∧ s = t.following past aim ∧
    s' = t.following past' aim'

section Differences

variable {α : Type} {past past' : List Signal}
  {allowed allowed' : Option Destination → Option Destination → Prop} {s s' : Session}

theorem Parted.mono (h : Parted past past' allowed s s')
    (wider : ∀ a a', allowed a a' → allowed' a a') : Parted past past' allowed' s s' := by
  obtain ⟨t, aim, aim', allows, is, is'⟩ := h
  exact ⟨t, aim, aim', wider aim aim' allows, is, is'⟩

/-- What does not look at the difference keeps it. -/
theorem Parted.change {f : Session → Session}
    (hf : ∀ s past aim, f (following s past aim) = (f s).following past aim)
    (h : Parted past past' allowed s s') : Parted past past' allowed (f s) (f s') := by
  obtain ⟨t, aim, aim', allows, rfl, rfl⟩ := h
  exact ⟨f t, aim, aim', allows, hf t past aim, hf t past' aim'⟩

theorem Parted.act {f : Session → α × Session}
    (hf : ∀ s past aim, f (following s past aim) = ((f s).1, (f s).2.following past aim))
    (h : Parted past past' allowed s s') :
    (f s).1 = (f s').1 ∧ Parted past past' allowed (f s).2 (f s').2 := by
  obtain ⟨t, aim, aim', allows, rfl, rfl⟩ := h
  rw [hf t past aim, hf t past' aim']
  exact ⟨rfl, (f t).2, aim, aim', allows, rfl, rfl⟩

/-- What is read elsewhere is the same. -/
theorem Parted.reads {f : Session → α} (h : Parted past past' allowed s s')
    (hf : ∀ s past aim, f (following s past aim) = f s) : f s = f s' := by
  obtain ⟨t, aim, aim', -, rfl, rfl⟩ := h
  rw [hf, hf]

end Differences

/-- The runs under way are the same, or they are the two that are given. -/
def SameOr (own other aim aim' : Option Destination) : Prop :=
  aim = aim' ∨ aim = own ∧ aim' = other

/-- **Sessions are alike** if they differ at most in their pasts and in the runs
to a location that are under way. They stay so if both go on saying the same, and
as long as not both are in the same run it is those that were under way. -/
def likeness : Flow.Likeness Session where
  alike s s' := ∃ past past', Parted past past' (fun _ _ => True) s s'
  since s s' := Parted s.journal s'.journal (SameOr s.destination s'.destination)
  start := by
    rintro _ _ ⟨past, past', t, aim, aim', -, rfl, rfl⟩
    exact ⟨{ t with journal := [] }, aim, aim', .inr ⟨rfl, rfl⟩, rfl, rfl⟩
  stop _ _ _ _ h := ⟨_, _, h.mono fun _ _ _ => trivial⟩

/-- **Work is blind** if it goes the same way on sessions that are alike. -/
abbrev Blind {α : Type} (m : Work α) : Prop := m.Mirrors likeness

section Work

variable {s s' : Session}

/-- What is read elsewhere is the same. -/
theorem reads_alike {α : Type} {f : Session → α} (h : likeness.alike s s')
    (hf : ∀ s past aim, f (following s past aim) = f s) : f s = f s' := by
  obtain ⟨_, _, parted⟩ := h
  exact parted.reads hf

theorem blind_change {f : Session → Session}
    (hf : ∀ s past aim, f (following s past aim) = (f s).following past aim) :
    Blind (Flow.modify f) :=
  Flow.mirrors_modify fun _ _ _ _ h => h.change hf

theorem blind_act {α : Type} {f : Session → α × Session}
    (hf : ∀ s past aim, f (following s past aim) = ((f s).1, (f s).2.following past aim)) :
    Blind (Flow.act f) :=
  Flow.mirrors_act fun _ _ _ _ h => h.act hf

theorem blind_look {α : Type} {f : Session → α}
    (hf : ∀ s past aim, f (following s past aim) = f s) : Blind (Flow.look f) :=
  Flow.mirrors_look fun _ _ h => reads_alike h hf

theorem blind_await {ready : Session → Bool}
    (hf : ∀ s past aim, ready (following s past aim) = ready s) : Blind (Flow.await ready) :=
  Flow.mirrors_await fun _ _ h => reads_alike h hf

theorem blind_issue (command : Wire.Command) : Blind (Work.issue command) :=
  blind_act fun _ _ _ => rfl

theorem blind_settle (ticket : Ticket) : Blind (Work.settle ticket) :=
  (blind_await fun _ _ _ => rfl).seq fun _ =>
    Flow.Mirrors.seq (blind_act fun _ _ _ => rfl) fun _ => Flow.mirrors_done ()

theorem blind_send (command : Wire.Command) : Blind (Work.send command) :=
  (blind_issue command).seq blind_settle

theorem blind_reply {α : Type} (ticket : Ticket) (command : Wire.Command)
    (read : Json → Option α) : Blind (Work.reply ticket command read) :=
  (blind_await fun _ _ _ => rfl).seq fun _ =>
    Flow.Mirrors.seq (blind_act fun _ _ _ => rfl) fun _ => Flow.mirrors_done _

theorem blind_consult (question : Inquiry) : Blind (Work.consult question) :=
  Flow.Mirrors.seq (blind_act fun _ _ _ => rfl) fun _ =>
    (blind_await fun _ _ _ => rfl).seq fun _ => blind_act fun _ _ _ => rfl

theorem blind_holding {m : Work Unit} (hm : Blind m) : Blind (holding m) :=
  Flow.mirrors_between (fun _ _ _ _ h => h.change fun _ _ _ => rfl) hm
    fun _ _ _ _ h => h.change fun _ _ _ => rfl

/-! ### Stepping -/

theorem blind_skipList (mode : StepMode) : Blind (skipList mode) := by
  refine Flow.mirrors_read (fun s s' h => ?_) fun s => ?_
  · have installed : s.policies.skipsRanges = s'.policies.skipsRanges :=
      reads_alike h (f := (·.policies.skipsRanges)) fun _ _ _ => rfl
    have top : s.pause.bind (·.frames.head?) = s'.pause.bind (·.frames.head?) :=
      reads_alike h (f := fun s => s.pause.bind (·.frames.head?)) fun _ _ _ => rfl
    rw [installed, top]
  split
  · refine (blind_consult _).seq fun answer? => ?_
    split <;> exact Flow.mirrors_done _
  · exact Flow.mirrors_done _

theorem blind_stepInto : Blind stepInto := (blind_skipList _).seq fun _ => blind_send _

theorem blind_stepIntoAsync : Blind stepIntoAsync := (blind_skipList _).seq fun _ => blind_send _

theorem blind_stepOver : Blind stepOver :=
  (blind_change fun _ _ _ => rfl).seq fun _ => (blind_skipList _).seq fun _ => blind_send _

theorem blind_stepOut : Blind stepOut := (blind_skipList _).seq fun _ => blind_send _

theorem blind_stepOn : Blind stepOn := by
  refine (blind_look fun _ _ _ => rfl).seq fun stepsOver => ?_
  split
  · exact blind_stepOver
  · exact blind_stepInto

theorem blind_pauseTarget : Blind pauseTarget := by
  refine (blind_change fun _ _ _ => rfl).seq fun _ => ?_
  refine Flow.Mirrors.seq ?_ fun _ => blind_send _
  exact (blind_change fun _ _ _ => rfl).seq fun _ => blind_send _

theorem blind_resume : Blind resume :=
  (blind_issue _).seq fun ticket =>
    (blind_change fun _ _ _ => rfl).seq fun _ => blind_settle ticket

/-! ### The agent -/

theorem blind_issueAll (commands : List Wire.Command) : Blind (issueAll commands) := by
  induction commands with
  | nil => exact Flow.mirrors_done _
  | cons c rest ih => exact (blind_issue c).seq fun _ => ih.seq fun _ => Flow.mirrors_done _

theorem blind_enable : Blind enable := by
  refine Flow.mirrors_read (fun s s' h => ?_) fun s => ?_
  · have enabled : s.isEnabled = s'.isEnabled := reads_alike h fun _ _ _ => rfl
    have settings : s.settings = s'.settings := reads_alike h fun _ _ _ => rfl
    rw [enabled, settings]
  split
  · exact Flow.mirrors_done ()
  refine (blind_change fun _ _ _ => rfl).seq fun _ => (blind_issue _).seq fun ticket => ?_
  refine (blind_issueAll _).seq fun sent => (blind_change fun _ _ _ => rfl).seq fun _ => ?_
  refine (blind_reply ticket _ _).seq fun identity => ?_
  refine (Flow.mirrors_forEach blind_settle sent).seq fun _ => ?_
  refine (blind_look fun _ _ _ => rfl).seq fun on => ?_
  split
  · split
    · rename_i id
      exact blind_change fun s past aim =>
        identify_following (s.setEnablement .enabled) past aim id
    · exact blind_change fun _ _ _ => rfl
  · exact Flow.mirrors_done ()

theorem blind_disable : Blind disable := by
  refine (blind_look fun _ _ _ => rfl).seq fun on => ?_
  split
  · refine (blind_change fun _ _ _ => rfl).seq fun _ => (blind_send _).seq fun _ => ?_
    exact (blind_send _).seq fun _ => blind_change finishDisabling_following
  · exact Flow.mirrors_done ()

/-! ### Events -/

theorem blind_handleInstrumentation (r : Wire.PauseReport) : Blind (handleInstrumentation r) := by
  refine Flow.mirrors_read (fun s s' h => ?_) fun s => ?_
  · have about : s.aboutToRun? r = s'.aboutToRun? r :=
      reads_alike h (f := (·.aboutToRun? r)) fun _ _ _ => rfl
    have installed : s.policies.synchronizes = s'.policies.synchronizes :=
      reads_alike h (f := (·.policies.synchronizes)) fun _ _ _ => rfl
    rw [about, installed]
  split
  · exact (blind_consult _).seq fun _ => blind_resume
  · exact blind_resume

/-- What an event does that is no stop, or a stop before a script runs. -/
theorem blind_handle {event : Wire.Event}
    (noStop : ∀ r, event = .paused r → r.reason = .instrumentation) : Blind (handle event) := by
  cases event with
  | scriptParsed r =>
    exact Flow.Mirrors.seq (blind_act fun s past aim => parsed_following s past aim r false) fun _ =>
      Flow.mirrors_done ()
  | scriptFailed r =>
    exact Flow.Mirrors.seq (blind_act fun s past aim => parsed_following s past aim r true) fun _ =>
      Flow.mirrors_done ()
  | paused r =>
    rw [handle, handlePaused, if_pos (noStop r rfl)]
    exact blind_handleInstrumentation r
  | resumed => exact blind_change resumed_following
  | breakpointResolved r => exact blind_change fun s past aim => resolved_following s past aim r
  | contextCreated c => exact blind_change fun _ _ _ => rfl
  | contextDestroyed c =>
    exact blind_change fun s past aim => destroyContext_following s past aim c.id
  | contextsCleared => exact blind_change clearContexts_following
  | exceptionThrown t => exact blind_change fun _ _ _ => rfl
  | exceptionRevoked r => exact blind_change fun _ _ _ => rfl
  | consoleCalled c => exact blind_change fun _ _ _ => rfl

/-- A pause is presented the same. -/
theorem blind_presenting (d : PauseDetails) : Blind (presenting d) := by
  refine (blind_act fun s past aim => present_following s past aim d).seq fun shown => ?_
  split
  · exact Flow.mirrors_done ()
  · exact blind_stepOn

end Work

end Session

end DebugClient
