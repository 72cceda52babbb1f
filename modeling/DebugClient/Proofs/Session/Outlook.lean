import DebugClient.Proofs.Session.Discards
import DebugClient.Proofs.Session.Stops
/-!
# Outlooks — a session, as far as contexts go

The `Outlook` of a session is the contexts that are known and what was told
of them: that one came, that one went, and that the global object is gone.
Hardly anything that a session does has a part in it. Events that say that
contexts came or went take effect at once, and all others leave the outlook
as it is at every wait: that is the protocol of an event
(`obeys_dispatch`).
-/

namespace DebugClient

/-! ## What is told of contexts -/

/-- The context a signal reports as created. -/
def Signal.created? : Signal → Option ExecutionContext
  | .runtime (.contextCreated context) => some context
  | _ => none

/-- The context a signal reports as destroyed. -/
def Signal.destroyed? : Signal → Option ExecutionContext
  | .runtime (.contextDestroyed context) => some context
  | _ => none

/-- Whether a signal tells of contexts, or that the global object is
gone. -/
def Signal.ofContexts : Signal → Bool
  | .runtime (.contextCreated _) => true
  | .runtime (.contextDestroyed _) => true
  | .debugger .globalObjectCleared => true
  | _ => false

namespace Session

/-- What was told of contexts, newest first. -/
def contextNews (s : Session) : List Signal := s.journal.filter Signal.ofContexts

/-- The contexts that were reported as created, oldest first. -/
def reportedCreated (s : Session) : List ExecutionContext :=
  (s.contextNews.filterMap Signal.created?).reverse

/-- The contexts that were reported as destroyed, oldest first. -/
def reportedDestroyed (s : Session) : List ExecutionContext :=
  (s.contextNews.filterMap Signal.destroyed?).reverse

/-- How often the global object was cleared. -/
def timesCleared (s : Session) : Nat := s.contextNews.countP Signal.clears

/-- A session, as far as contexts go. -/
structure Outlook where
  /-- The target. -/
  target : Target
  /-- The contexts that are known. -/
  contexts : List ExecutionContext
  /-- What was told of them. -/
  news : List Signal

/-- A session, as far as contexts go. -/
def outlook (s : Session) : Outlook := ⟨s.target, s.contexts, s.contextNews⟩

theorem outlook_emit (s : Session) {signal : Signal} (other : signal.ofContexts = false) :
    (s.emit signal).outlook = s.outlook := by
  simp [outlook, contextNews, emit, other]

theorem outlook_emitAll {α : Type} (signal : α → Signal) (other : ∀ a, (signal a).ofContexts = false)
    (l : List α) (s : Session) : (l.foldl (fun s a => s.emit (signal a)) s).outlook = s.outlook :=
  foldl_same (fun s a => outlook_emit s (other a)) l s

theorem outlook_select (s : Session) (frame : Option CallFrame) :
    (s.select frame).outlook = s.outlook := by
  unfold select
  split <;> rfl

theorem outlook_clearPause (s : Session) : s.clearPause.outlook = s.outlook :=
  outlook_select { s with isPausing := false, pause := none } none

theorem outlook_present (d : PauseDetails) (s : Session) :
    (present d s).2.outlook = s.outlook := by
  have noted : ((s.hold d).noteVerdict d).outlook = s.outlook := by
    unfold noteVerdict
    split <;> rfl
  unfold present
  dsimp only
  split
  · have shown : ({ (s.hold d).noteVerdict d with autoStepOver := false }.report (.paused d)).outlook =
        ((s.hold d).noteVerdict d).outlook := rfl
    exact (outlook_select _ _).trans (shown.trans noted)
  · exact noted

theorem outlook_arrive (d : PauseDetails) (s : Session) : (arrive d s).2.outlook = s.outlook := by
  obtain ⟨aim, -, -, arrives⟩ | ⟨-, arrives⟩ := arrive_cases d s <;> rw [arrives] <;> rfl

theorem outlook_detachAll (s : Session) (scripts : List Script) :
    (s.detachAll scripts).outlook = s.outlook :=
  outlook_emitAll (fun script => .maps (.detach script)) (fun _ => rfl) scripts s

theorem outlook_attachMap (s : Session) (script : Script) :
    (s.attachMap script).outlook = s.outlook := by
  have way : ∀ (t : Session) (previous : Option Script), (t.giveWay previous script).outlook = t.outlook := by
    intro t previous
    unfold giveWay
    split
    · split <;> rfl
    · rfl
  unfold attachMap
  split
  · exact way _ _
  · rfl

theorem outlook_parsed (r : Wire.ScriptReport) (failed : Bool) (s : Session) :
    (parsed r failed s).2.outlook = s.outlook := by
  unfold parsed
  split
  · rfl
  dsimp only
  generalize Script.ofReport s.nextKey r failed (ofExtension r) = x
  have registered : ({ s with nextKey := s.nextKey.next }.register x).outlook = s.outlook := rfl
  have attached : (if failed = true then { s with nextKey := s.nextKey.next }.register x
      else ({ s with nextKey := s.nextKey.next }.register x).attachMap x).outlook = s.outlook := by
    split
    · exact registered
    · exact (outlook_attachMap _ x).trans registered
  split
  · refine Eq.trans ?_ attached
    exact outlook_emitAll (fun y => .debugger (.scriptDiscarded y)) (fun _ => rfl) _ _
  · exact attached

theorem outlook_resolved (s : Session) (r : Wire.Resolution) : (s.resolved r).outlook = s.outlook :=
  outlook_emitAll (fun l : ListenerId × String => .resolved l.2 (.ofWire r.location)) (fun _ => rfl) _ s

/-- Clearing the global object is told once, and leaves the contexts. -/
theorem outlook_clearGlobalObject (s : Session) :
    s.clearGlobalObject.outlook =
      { s.outlook with news := .debugger .globalObjectCleared :: s.contextNews } := by
  have forgotten : s.clearPause.forgetScripts.outlook = s.outlook :=
    (outlook_detachAll { s.clearPause with catalog := {} } _).trans (outlook_clearPause s)
  have news : s.clearPause.forgetScripts.contextNews = s.contextNews := congrArg Outlook.news forgotten
  have told : s.clearGlobalObject.outlook = { s.clearPause.forgetScripts.outlook with
      news := .debugger .globalObjectCleared :: s.clearPause.forgetScripts.contextNews } := rfl
  rw [told, forgotten, news]

/-! ## The protocol of events -/

end Session

/-- Whether an event says that contexts came or went. -/
def Wire.Event.ofContexts : Wire.Event → Bool
  | .contextCreated _ => true
  | .contextDestroyed _ => true
  | .contextsCleared => true
  | _ => false

namespace Session

/-- What an event has done once its handler ends. -/
def Did : Wire.Event → Session → Session → Prop
  | .contextCreated r, s, s' => s' = s.createContext r
  | .contextDestroyed gone, s, s' => s' = s.destroyContext gone.id
  | .contextsCleared, s, s' => s' = s.clearContexts
  | _, s, s' => s'.outlook = s.outlook

/-- Events of contexts take effect at once. All others may wait, and have
no part in it. -/
def eventProtocol (event : Wire.Event) : Flow.Protocol Unit Session Unit where
  given _ := True
  moves _ s₀ _ s := event.ofContexts = false ∧ s.outlook = s₀.outlook
  ends _ s₀ _ s := Did event s₀ s

section Handlers

variable {event : Wire.Event}

theorem aloof_outlook (other : event.ofContexts = false) :
    Aloof (eventProtocol event) fun _ s₀ s => s.outlook = s₀.outlook where
  lets _ _ _ same := ⟨(), ⟨other, same⟩, fun _ _ => rfl⟩
  passing change same := by
    refine Eq.trans ?_ same
    cases change <;> rfl

theorem carries_paused (other : event.ofContexts = false) (r : Wire.PauseReport) :
    (handlePaused r).Carries (eventProtocol event) fun _ s₀ s => s.outlook = s₀.outlook := by
  have aloof := aloof_outlook other
  refine Flow.carries_ite (aloof.instrumentation r) ?_
  refine Flow.carries_seq (Flow.carries_act fun _ _ s same => same) fun known => ?_
  refine Flow.carries_seq (aloof.expand known) fun frames => ?_
  refine Flow.carries_seq (Flow.carries_act fun _ _ s same => (outlook_arrive _ s).trans same) fun there => ?_
  cases there with
  | some listener => exact Flow.carries_done ()
  | none =>
    refine Flow.carries_seq (Flow.carries_act fun _ _ s same => (outlook_present _ s).trans same) fun shown => ?_
    exact Flow.carries_ite (Flow.carries_done ()) aloof.stepOn

/-- **Every handler** keeps to the protocol of its event. -/
theorem obeys_dispatch (event : Wire.Event) (s : Session) :
    (dispatch event).Obeys (eventProtocol event) (eventProtocol event).ends () s s := by
  rw [dispatch, Flow.obeys_seq, Flow.obeys_look]
  split
  · -- Only events of the agent are dropped, and no event of contexts is one.
    rename_i dropped
    cases event with
    | contextCreated r => cases dropped
    | contextDestroyed gone => cases dropped
    | contextsCleared => cases dropped
    | _ => exact rfl
  · cases event with
    | scriptParsed r => exact outlook_parsed r false s
    | scriptFailed r => exact outlook_parsed r true s
    | paused r => exact carries_paused rfl r () s s rfl
    | resumed => exact (outlook_emit s.clearPause rfl).trans (outlook_clearPause s)
    | breakpointResolved r => exact outlook_resolved s r
    | contextCreated r => exact rfl
    | contextDestroyed gone => exact rfl
    | contextsCleared => exact rfl
    | exceptionThrown t => exact outlook_emit s rfl
    | exceptionRevoked r => exact outlook_emit s rfl
    | consoleCalled c => exact outlook_emit (s.mint (c.args.mapM Value.ofRemote)).2 rfl

end Handlers

end Session

end DebugClient
