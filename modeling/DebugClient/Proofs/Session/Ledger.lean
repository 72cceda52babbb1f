import DebugClient.Proofs.Session.Journal
import DebugClient.Proofs.Session.Passing
/-!
# Ledgers — what a session has on its scripts

A `Ledger` is what of a session concerns scripts: its catalog, the source
map URLs that were replaced, the next key, and what was written into the
journal of scripts and their maps. Little of what a session does changes
it: scripts are registered, their maps are replaced or dropped, and all of
it is forgotten. A property that these keep is `Steady`. One that also
depends on the `record`, on what was told of scripts and in which order,
is `Lasting`, or `Enduring` if maps may not be replaced.

`scripting` has the calls that do any of this, with the events that do,
and enabling and disabling. What lasts holds after all of them, in any
order, whatever the backend answers (`Lasting.after`).
-/

namespace DebugClient

/-! ## The journal -/

/-- The script a signal registers. -/
def Signal.registered? : Signal → Option Script
  | .debugger (.scriptParsed script) => some script
  | _ => none

/-- The order to the source maps a signal gives. -/
def Signal.mapOrder? : Signal → Option MapOrder
  | .maps order => some order
  | _ => none

/-- Whether a signal tells of scripts: that one was registered or discarded,
or that all were forgotten. -/
def Signal.ofScripts : Signal → Bool
  | .debugger (.scriptParsed _) => true
  | .debugger (.scriptDiscarded _) => true
  | .debugger .globalObjectCleared => true
  | _ => false

theorem Signal.registered?_of_not_ofScripts {signal : Signal} (h : signal.ofScripts = false) :
    signal.registered? = none := by
  unfold registered?
  split
  · cases h
  · rfl

namespace Session

/-- The scripts that were registered, newest first. -/
def registered (s : Session) : List Script := s.journal.filterMap Signal.registered?

/-- The orders the source maps were given, newest first. -/
def orders (s : Session) : List MapOrder := s.journal.filterMap Signal.mapOrder?

/-- What a session has on its scripts. -/
structure Ledger where
  /-- The scripts. -/
  catalog : Catalog
  /-- The source map URLs that were replaced. -/
  mapUrls : List (Key × Option String)
  /-- The next free key. -/
  nextKey : Key
  /-- The scripts that were registered. -/
  registered : List Script
  /-- The orders to the source maps. -/
  orders : List MapOrder

/-- What a session has on its scripts. -/
def ledger (s : Session) : Ledger := ⟨s.catalog, s.mapUrls, s.nextKey, s.registered, s.orders⟩

/-- What was told of scripts, newest first. -/
def record (s : Session) : List Signal := s.journal.filter Signal.ofScripts

/-! ## What leaves the scripts as they are -/

theorem ledger_emit (s : Session) {signal : Signal} (hr : signal.registered? = none)
    (hm : signal.mapOrder? = none) : (s.emit signal).ledger = s.ledger := by
  simp [ledger, emit, registered, orders, hr, hm]

theorem ledger_emitAll {α : Type} (signal : α → Signal) (hr : ∀ a, (signal a).registered? = none)
    (hm : ∀ a, (signal a).mapOrder? = none) (l : List α) (s : Session) :
    (l.foldl (fun s a => s.emit (signal a)) s).ledger = s.ledger :=
  foldl_same (fun s a => ledger_emit s (hr a) (hm a)) l s

/-- A change of a session that leaves its scripts as they are, and tells
nothing of them. -/
structure Apart (s s' : Session) : Prop where
  /-- The ledger is the same. -/
  ledger : s'.ledger = s.ledger
  /-- So is the record. -/
  record : s'.record = s.record

theorem Apart.trans {s s' s'' : Session} (h : Apart s s') (h' : Apart s' s'') : Apart s s'' :=
  ⟨h'.ledger.trans h.ledger, h'.record.trans h.record⟩

theorem apart_emit (s : Session) {signal : Signal} (said : signal.ofScripts = false)
    (ordered : signal.mapOrder? = none) : Apart s (s.emit signal) where
  ledger := ledger_emit s (Signal.registered?_of_not_ofScripts said) ordered
  record := by simp [Session.record, emit, said]

theorem apart_emitAll {α : Type} (signal : α → Signal) (said : ∀ a, (signal a).ofScripts = false)
    (ordered : ∀ a, (signal a).mapOrder? = none) (l : List α) (s : Session) :
    Apart s (l.foldl (fun s a => s.emit (signal a)) s) := by
  induction l generalizing s with
  | nil => exact ⟨rfl, rfl⟩
  | cons a rest ih => exact (apart_emit s (said a) (ordered a)).trans (ih _)

theorem apart_select (s : Session) (frame : Option CallFrame) : Apart s (s.select frame) := by
  unfold select
  split <;> exact ⟨rfl, rfl⟩

theorem apart_clearPause (s : Session) : Apart s s.clearPause := by
  have stopped : Apart s { s with isPausing := false, pause := none } := ⟨rfl, rfl⟩
  exact stopped.trans (apart_select _ none)

theorem apart_arrive (d : PauseDetails) (s : Session) : Apart s (arrive d s).2 := by
  obtain ⟨aim, -, -, arrives⟩ | ⟨-, arrives⟩ := arrive_cases d s <;> rw [arrives] <;>
    exact ⟨rfl, rfl⟩

theorem apart_present (d : PauseDetails) (s : Session) : Apart s (present d s).2 := by
  have noted : Apart s ((s.hold d).noteVerdict d) := by
    unfold noteVerdict
    split <;> exact ⟨rfl, rfl⟩
  unfold present
  dsimp only
  split
  · have reported : Apart ((s.hold d).noteVerdict d)
        ({ (s.hold d).noteVerdict d with autoStepOver := false }.report (.paused d)) := ⟨rfl, rfl⟩
    exact noted.trans (reported.trans (apart_select _ _))
  · exact noted

theorem apart_giveUpIdentity (s : Session) : Apart s s.giveUpIdentity := by
  unfold giveUpIdentity
  split <;> exact ⟨rfl, rfl⟩

theorem apart_identify (s : Session) (id : DebuggerId) : Apart s (s.identify id) := by
  unfold identify withdraw
  refine Apart.trans ?_ (apart_emit _ rfl rfl)
  split <;> [split; skip] <;> exact ⟨rfl, rfl⟩

theorem apart_passing {s s' : Session} (change : Passing s s') : Apart s s' := by
  cases change <;> exact ⟨rfl, rfl⟩

theorem apart_switching {s s' : Session} (switch : Switching s s') : Apart s s' := by
  cases switch with
  | identify id s => exact apart_identify s id
  | turn enablement s => exact ⟨rfl, rfl⟩
  | said s => exact ⟨rfl, rfl⟩

/-! ## Lasting properties -/

/-- **An enduring property** depends on the ledger and the record, and what
the backend reports keeps it. -/
structure Enduring (I : Session → Prop) : Prop where
  /-- What is in neither does not matter. -/
  apart : ∀ s s' : Session, Apart s s' → I s → I s'
  /-- A script is reported. -/
  parsed : ∀ s r failed, I s → I (Session.parsed r failed s).2
  /-- The source maps of a context go. -/
  dropContextMaps : ∀ (s : Session) id, I s → I (s.dropContextMaps id)
  /-- The global object goes. -/
  clearGlobalObject : ∀ s : Session, I s → I s.clearGlobalObject

/-- **A lasting property** is kept by all that changes the ledger and the
record. -/
structure Lasting (I : Session → Prop) : Prop extends Enduring I where
  /-- A script that was registered gets another source map. -/
  setMapUrl : ∀ (s : Session) x url, x ∈ s.registered → I s → I (s.setMapUrl x url)

namespace Enduring

variable {I : Session → Prop}

theorem destroyContext (h : Enduring I) {s : Session} (hs : I s) (id : ContextId) :
    I (s.destroyContext id) := by
  have dropped := h.dropContextMaps s id hs
  rw [Session.destroyContext]
  split
  · exact dropped
  · rename_i context _
    have told : I ({ s.dropContextMaps id with
        contexts := (s.dropContextMaps id).contexts.filter (·.id != id) }.tell
          (.contextDestroyed context)) :=
      h.apart (s.dropContextMaps id) _ ⟨ledger_emit _ rfl rfl, rfl⟩ dropped
    dsimp only
    split
    · exact h.clearGlobalObject _ told
    · exact told

theorem clearContexts (h : Enduring I) {s : Session} (hs : I s) : I s.clearContexts := by
  refine h.apart s.clearGlobalObject _ ?_ (h.clearGlobalObject s hs)
  have told := apart_emitAll (fun c => .runtime (.contextDestroyed c)) (fun _ => rfl) (fun _ => rfl)
    s.clearGlobalObject.contexts { s.clearGlobalObject with contexts := [] }
  exact ⟨told.ledger, told.record⟩

theorem finishDisabling (h : Enduring I) {s : Session} (hs : I s) : I s.finishDisabling := by
  have stopped : I { s with isPausing := false } := h.apart s _ ⟨rfl, rfl⟩ hs
  have cleared := h.clearGlobalObject _ stopped
  exact h.apart _ _ ((apart_emit _ rfl rfl).trans (apart_giveUpIdentity _)) cleared

theorem aloof {ρ : Type} (h : Enduring I) :
    Aloof (Flow.keeping I : Flow.Protocol Unit Session ρ) fun _ _ s => I s where
  lets := Flow.lets_keeping
  passing change := h.apart _ _ (apart_passing change)

theorem switching (h : Enduring I) {s s' : Session} (switch : Switching s s') : I s → I s' :=
  h.apart _ _ (apart_switching switch)

end Enduring

/-! ## Steady properties -/

/-- **A steady property** depends on the ledger, and what changes the ledger
keeps it. -/
structure Steady (I : Session → Prop) : Prop where
  /-- What is not in the ledger does not matter. -/
  aside : ∀ s s' : Session, s'.ledger = s.ledger → I s → I s'
  /-- A script is reported. -/
  parsed : ∀ s r failed, I s → I (Session.parsed r failed s).2
  /-- A script that was registered gets another source map. -/
  setMapUrl : ∀ (s : Session) x url, x ∈ s.registered → I s → I (s.setMapUrl x url)
  /-- The source maps of a context go. -/
  dropContextMaps : ∀ (s : Session) id, I s → I (s.dropContextMaps id)
  /-- All scripts go. -/
  forgetScripts : ∀ s : Session, I s → I s.forgetScripts

namespace Steady

variable {I : Session → Prop}

/-- What is steady lasts. -/
theorem lasting (h : Steady I) : Lasting I where
  apart s s' apart := h.aside s s' apart.ledger
  parsed := h.parsed
  setMapUrl := h.setMapUrl
  dropContextMaps := h.dropContextMaps
  clearGlobalObject s hs := by
    have paused := h.aside _ _ (apart_clearPause s).ledger hs
    exact h.aside _ _ (ledger_emit _ rfl rfl) (h.forgetScripts _ paused)

theorem destroyContext (h : Steady I) {s : Session} (hs : I s) (id : ContextId) :
    I (s.destroyContext id) := h.lasting.destroyContext hs id

end Steady

/-! ## The calls -/

/-- What the backend reports of scripts and contexts. -/
inductive ScriptNews where
  /-- A script compiled. -/
  | parsed (report : Wire.ScriptReport)
  /-- A script failed to compile. -/
  | failed (report : Wire.ScriptReport)
  /-- A context was created. -/
  | contextCreated (report : Wire.ContextReport)
  /-- A context went away. -/
  | contextDestroyed (report : Wire.ContextGone)
  /-- Every context went away. -/
  | contextsCleared

/-- The event of some news. -/
def ScriptNews.event : ScriptNews → Wire.Event
  | parsed r => .scriptParsed r
  | failed r => .scriptFailed r
  | contextCreated r => .contextCreated r
  | contextDestroyed r => .contextDestroyed r
  | contextsCleared => .contextsCleared

/-- What is asked of a session that concerns scripts. -/
inductive ScriptCall where
  /-- To take in a script, whether the agent is enabled or not. -/
  | parse (report : Wire.ScriptReport) (hasSyntaxError : Bool)
  /-- To take in news. -/
  | receive (news : ScriptNews)
  /-- To give the script that was registered as the n-th another source
  map. -/
  | setMapUrl (index : Nat) (url : String)
  /-- To forget the pause and every script. -/
  | clear
  /-- To enable the agent. -/
  | enable
  /-- To disable it. -/
  | disable

/-- Gives the script that was registered as the n-th another source map. -/
def setMapUrlOf (index : Nat) (url : String) (s : Session) : Session :=
  match s.registered.reverse[index]? with
  | some script => s.setMapUrl script url
  | none => s

/-- The work of a call; its result is the script it was about. -/
def ScriptCall.program : ScriptCall → Work (Option Script)
  | parse r hasSyntaxError => do return some (← Flow.act (Session.parsed r hasSyntaxError))
  | receive news => do
    dispatch news.event
    return none
  | setMapUrl index url => do
    Flow.modify (setMapUrlOf index url)
    return none
  | clear => do
    Flow.modify clearGlobalObject
    return none
  | enable => do
    holding Session.enable
    return none
  | disable => do
    holding Session.disable
    return none

/-- The calls of a session that concern scripts. Outside, the backend
answers requests. -/
def scripting : Flow.System ScriptCall (Ticket × Reply) Session (Option Script) Unit where
  program := ScriptCall.program
  outside a s := s.answer a.1 a.2
  note _ _ _ _ := []

/-- A session of a target after calls that concern scripts, and answers of
the backend, in any order. -/
def afterScripts (seat : Nat) (target : Target) (settings : Settings)
    (moves : List (Flow.Move ScriptCall (Ticket × Reply))) : Session :=
  (Flow.Pool.play scripting { state := connect seat target settings } moves).state

namespace Lasting

variable {I : Session → Prop}

theorem handle (h : Lasting I) (news : ScriptNews) : (Session.handle news.event).Keeps I := by
  cases news with
  | parsed r => exact Flow.carries_seq (Flow.carries_act fun _ _ s hs => h.parsed s r _ hs) fun _ => Flow.carries_done ()
  | failed r => exact Flow.carries_seq (Flow.carries_act fun _ _ s hs => h.parsed s r _ hs) fun _ => Flow.carries_done ()
  | contextCreated r => exact Flow.carries_modify fun _ _ s hs => h.apart s _ ⟨ledger_emit _ rfl rfl, rfl⟩ hs
  | contextDestroyed r => exact Flow.carries_modify fun _ _ s hs => h.destroyContext hs r.id
  | contextsCleared => exact Flow.carries_modify fun _ _ s hs => h.clearContexts hs

theorem program (h : Lasting I) (c : ScriptCall) : c.program.Keeps I := by
  cases c with
  | parse r failed =>
    exact Flow.carries_seq (Flow.carries_act fun _ _ s hs => h.parsed s r failed hs) fun _ => Flow.carries_done _
  | receive news =>
    have told : (dispatch news.event).Keeps I :=
      Flow.carries_seq (Flow.carries_look _) fun _ => Flow.carries_ite (Flow.carries_done ()) (h.handle news)
    exact Flow.carries_seq told fun _ => Flow.carries_done _
  | setMapUrl index url =>
    refine Flow.carries_seq (Flow.carries_modify fun _ _ s hs => ?_) fun _ => Flow.carries_done _
    unfold setMapUrlOf
    split
    · rename_i x hx
      exact h.setMapUrl s x url (List.mem_reverse.1 (List.mem_of_getElem? hx)) hs
    · exact hs
  | clear =>
    exact Flow.carries_seq (Flow.carries_modify fun _ _ s hs => h.clearGlobalObject s hs) fun _ => Flow.carries_done _
  | enable =>
    exact Flow.carries_seq (h.aloof.holding (h.aloof.enable h.switching)) fun _ => Flow.carries_done _
  | disable =>
    have disabled : Session.disable.Keeps I := h.aloof.disable h.switching h.finishDisabling
    exact Flow.carries_seq (h.aloof.holding disabled) fun _ => Flow.carries_done _

/-- **What lasts** is so after all calls, in any order, if it was so
when the session was connected. -/
theorem after (h : Lasting I) (seat : Nat) (target : Target) (settings : Settings)
    (start : I (connect seat target settings))
    (moves : List (Flow.Move ScriptCall (Ticket × Reply))) :
    I (afterScripts seat target settings moves) :=
  Flow.Pool.play_keeps h.program (fun _ s hs => h.apart s _ ⟨rfl, rfl⟩ hs) rfl start moves

end Lasting

/-- **What is steady** is so after all calls, in any order, if it was so
when the session was connected. -/
theorem Steady.after {I : Session → Prop} (h : Steady I) (seat : Nat) (target : Target)
    (settings : Settings) (start : I (connect seat target settings))
    (moves : List (Flow.Move ScriptCall (Ticket × Reply))) :
    I (afterScripts seat target settings moves) := h.lasting.after seat target settings start moves

end Session

end DebugClient
