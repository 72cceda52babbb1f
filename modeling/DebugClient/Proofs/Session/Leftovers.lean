import DebugClient.Proofs.Session.Discards
import DebugClient.Proofs.Session.Switches
/-!
# Leftovers — what is held when the agent is off

A session takes scripts and pauses in from the moment its agent is asked to
be enabled. What it holds is always what was taken in since it was last
cleared: that is so after every call, in any order (`Stocked`, `Straight`),
since every call upholds it (`Upheld`).

Disabling clears. An agent that refuses to be enabled is off too, but does
not, and so leaves what came meanwhile (`leftovers`).
-/

namespace DebugClient

namespace Session

/-! ## What every call upholds -/

/-- **A property that is upheld** by whatever a call does, and by what
happens outside. -/
structure Upheld (I : Session → Prop) : Prop where
  /-- What is done in passing does not matter. -/
  passing : ∀ {s s'}, Passing s s' → I s → I s'
  /-- Nor does the agent. -/
  switching : ∀ {s s'}, Switching s s' → I s → I s'
  /-- It is disabled. -/
  finishes : ∀ {s}, I s → I s.finishDisabling
  /-- An event brings neither a script nor a pause. -/
  taking : ∀ {s s'}, Taking s s' → I s → I s'
  /-- A script is taken in. -/
  parsed : ∀ {s} r failed, I s → I (Session.parsed r failed s).2
  /-- A pause is taken in. -/
  present : ∀ {s} d, I s → I (Session.present d s).2
  /-- Something happens outside. -/
  news : ∀ {s} (news : StopNews), I s → I (news.apply s)

namespace Upheld

variable {I : Session → Prop}

theorem program (h : Upheld I) (c : AgentCall) : (turning.program c).Keeps I := by
  have aloof : Aloof (Flow.keeping I : Flow.Protocol Unit Session Unit) fun _ _ s => I s :=
    ⟨Flow.lets_keeping, h.passing⟩
  cases c with
  | enable => exact aloof.holding (aloof.enable h.switching)
  | disable => exact aloof.holding (aloof.disable h.switching h.finishes)
  | receive event =>
    refine carries_dispatch h.taking (fun r failed _ is => h.parsed r failed is) ?_ event
    intro p s₀ s r on is
    exact aloof.paused (fun making => h.taking (.mint making _))
      (fun frames _ is => aloof.expand frames _ _ _ is) (fun d => h.taking (.arrive d _)) h.present id r
      on is

/-- **What is upheld** is so after all calls, in any order. -/
theorem after (h : Upheld I) {s : Session} (is : I s) (moves : List (Flow.Move AgentCall StopNews)) :
    I (afterTurns s moves).state :=
  Flow.Pool.play_keeps h.program (fun news _ => h.news news) rfl is moves

end Upheld

/-! ## Scripts -/

/-- What endures is upheld, if keys may be made. -/
theorem Enduring.upheld {I : Session → Prop} (h : Enduring I)
    (mint : ∀ {α : Type} {s : Session} (making : Fresh α), I s → I (s.mint making).2) : Upheld I where
  passing change := h.apart _ _ (apart_passing change)
  switching := h.switching
  finishes := h.finishDisabling
  taking {s _} change is := by
    cases change with
    | mint making => exact mint making is
    | arrive d => exact h.apart _ _ (apart_arrive d _) is
    | resumed => exact h.apart _ _ ((apart_clearPause _).trans (apart_emit _ rfl rfl)) is
    | resolved r =>
      exact h.apart _ _ (apart_emitAll
        (fun l : ListenerId × String => .resolved l.2 (.ofWire r.location)) (fun _ => rfl)
        (fun _ => rfl) _ _) is
    | createContext r => exact h.apart s _ ⟨rfl, rfl⟩ is
    | destroyContext id => exact h.destroyContext is id
    | clearContexts => exact h.clearContexts is
    | thrownBy t => exact h.apart _ _ (apart_emit _ rfl rfl) is
    | revoked r => exact h.apart _ _ (apart_emit _ rfl rfl) is
    | consoleCalled c =>
      exact h.apart _ _ (apart_emit _ rfl rfl) (mint (c.args.mapM Value.ofRemote) is)
  parsed r failed := h.parsed _ r failed
  present d := h.apart _ _ (apart_present d _)
  news news is := by
    refine h.apart _ _ ?_ is
    cases news <;> exact ⟨rfl, rfl⟩

/-- Whether a script was taken in is in the record. -/
theorem tookScript_eq (s : Session) :
    Mark.tookScript s.marks =
      ((s.record.filterMap fun signal => signal.mark?.bind Mark.script?).head?).getD false := by
  have all : (s.record.filterMap fun signal => signal.mark?.bind Mark.script?) =
      s.marks.filterMap Mark.script? := by
    rw [record, marks, List.filterMap_filter, List.filterMap_filterMap]
    refine congrArg (List.filterMap · s.journal) (funext fun signal => ?_)
    split
    · rfl
    · rename_i other
      unfold Signal.mark?
      split <;> first | rfl | exact absurd rfl other
  rw [all, List.head?_filterMap]
  rfl

/-- A queue that a script was put into is not empty. -/
theorem discardable_ne_nil (c : Catalog) (x : Script) : (c.discard x).2.discardable ≠ [] := by
  have kept : ∀ (gone : List Script) (d : Catalog),
      (gone.foldl Catalog.unregister d).discardable = d.discardable := by
    intro gone
    induction gone with
    | nil => exact fun _ => rfl
    | cons y rest ih => exact fun d => ih (d.unregister y)
  unfold Catalog.discard
  dsimp only
  split
  · exact List.append_ne_nil_of_right_ne_nil _ (List.cons_ne_nil x [])
  · rename_i full
    rw [kept]
    intro none
    have short := List.drop_eq_nil_iff.1 none
    unfold Catalog.discardableLimit at full
    unfold Catalog.evictionBatch at short
    omega

/-- **Scripts are held as they were taken in**: none of them, and no map, if
none was taken in since the global object was last cleared. -/
structure Stocked (s : Session) : Prop where
  /-- The scripts are in order. -/
  inOrder : InOrder s
  /-- One was taken in. -/
  some : Mark.tookScript s.marks = true → s.catalog.scripts ≠ []
  /-- None was. -/
  none : Mark.tookScript s.marks = false → s.catalog.scripts = [] ∧ s.catalog.maps = []

theorem Stocked.parsed {s : Session} (h : Stocked s) (r : Wire.ScriptReport) (failed : Bool) :
    Stocked (Session.parsed r failed s).2 := by
  have inOrder := h.inOrder.parsed r failed
  generalize is : (Session.parsed r failed s).2 = s' at inOrder ⊢
  rcases parsed_cases is with rfl | ⟨x, -, -, -, ⟨-, scripts, -, record⟩ | ⟨-, catalog, record⟩⟩
  · exact h
  · have took : Mark.tookScript s'.marks = true := by
      rw [tookScript_eq, record]
      rfl
    refine ⟨inOrder, fun _ => ?_, fun not => absurd took (Bool.eq_false_iff.1 not)⟩
    rw [scripts]
    exact List.append_ne_nil_of_right_ne_nil _ (List.cons_ne_nil x [])
  · -- Scripts may have been driven out, but not all: those in the queue are there.
    have took : Mark.tookScript s'.marks = true := by
      have silent : (evictions ((s.catalog.register x).discard x).1).filterMap
          (fun signal => signal.mark?.bind Mark.script?) = [] := by
        simp [evictions, Signal.mark?]
      rw [tookScript_eq, record, List.filterMap_append, silent]
      rfl
    refine ⟨inOrder, fun _ none => ?_, fun not => absurd took (Bool.eq_false_iff.1 not)⟩
    have queue : s'.catalog.discardable ≠ [] := catalog ▸ discardable_ne_nil _ x
    obtain ⟨y, hy⟩ := List.exists_mem_of_ne_nil _ queue
    exact absurd (inOrder.queued.mem y hy) (none ▸ List.not_mem_nil)

theorem enduring_stocked : Enduring Stocked where
  apart s s' apart h := by
    have catalog : s'.catalog = s.catalog := congrArg Ledger.catalog apart.ledger
    have took : Mark.tookScript s'.marks = Mark.tookScript s.marks := by
      rw [tookScript_eq, tookScript_eq, apart.record]
    exact ⟨h.inOrder.aside apart.ledger, catalog ▸ took ▸ h.some, catalog ▸ took ▸ h.none⟩
  parsed _ r failed h := h.parsed r failed
  dropContextMaps s id h := by
    have took : Mark.tookScript (s.dropContextMaps id).marks = Mark.tookScript s.marks := by
      rw [tookScript_eq, tookScript_eq]
      exact congrArg (fun l : List Signal => ((l.filterMap _).head?).getD false) (record_detachAll _ _)
    have catalog : (s.dropContextMaps id).catalog = (s.catalog.unbindContext id).2 := by
      change ({ s with catalog := (s.catalog.unbindContext id).2 }.detachAll _).catalog = _
      rw [detachAll_eq]
    refine ⟨h.inOrder.maps (mapsOnly_dropContextMaps s id), ?_, ?_⟩
    · rw [took, catalog]
      exact h.some
    · rw [took, catalog]
      intro not
      obtain ⟨scripts, maps⟩ := h.none not
      refine ⟨scripts, ?_⟩
      simp [Catalog.unbindContext, maps]
  clearGlobalObject s h := by
    have took : Mark.tookScript s.clearGlobalObject.marks = false := by
      rw [tookScript_eq, record_clearGlobalObject]
      rfl
    have catalog := catalog_clearGlobalObject s
    refine ⟨steady_inOrder.lasting.clearGlobalObject s h.inOrder,
      fun not => absurd not (Bool.eq_false_iff.1 took), fun _ => ?_⟩
    rw [catalog]
    exact ⟨rfl, rfl⟩

/-- Keys do not matter to it. -/
theorem upheld_stocked : Upheld Stocked :=
  enduring_stocked.upheld fun _ h =>
    ⟨⟨h.inOrder.filed, h.inOrder.queued, h.inOrder.order⟩, h.some, h.none⟩

/-! ## Pauses -/

/-- **A pause is held as it was taken in**, and no frame is selected without
one. -/
structure Straight (f : Footing) : Prop where
  /-- A pause is held if it was taken in. -/
  paused : f.paused = Mark.tookPause f.marks
  /-- A frame is selected of it. -/
  selects : f.paused = false → f.selects = false

theorem upheld_straight : Upheld fun s => Straight s.footing where
  passing change h := footing_passing change ▸ h
  switching {s _} switch h := by
    cases switch with
    | turn enablement => exact ⟨h.paused, h.selects⟩
    | said => exact ⟨h.paused, h.selects⟩
    | identify id => exact footing_identify s id ▸ h
  finishes {s} _ := by
    rw [footing_finishDisabling]
    exact ⟨rfl, fun _ => rfl⟩
  taking change h := by
    rcases footing_taking change with same | goes | cleared
    · exact same ▸ h
    · exact goes ▸ ⟨rfl, fun _ => rfl⟩
    · exact cleared ▸ ⟨rfl, fun _ => rfl⟩
  parsed {s} r failed h := by
    rcases footing_parsed r failed s with same | more
    · exact same.symm ▸ h
    · exact more ▸ ⟨h.paused, h.selects⟩
  present {s} d _ := by
    obtain ⟨selects, more⟩ := footing_present d s
    exact more ▸ ⟨rfl, nofun⟩
  news news h := by cases news <;> exact ⟨h.paused, h.selects⟩

/-! ## What is left -/

/-- **Nothing is held**: no script, no map that is bound, no pause and no
frame. -/
structure HoldsNothing (s : Session) : Prop where
  /-- No script. -/
  scripts : s.catalog.scripts = []
  /-- No map. -/
  maps : s.catalog.maps = []
  /-- No pause. -/
  pause : s.pause = none
  /-- No frame. -/
  selected : s.selected = none

theorem holdsNothing_iff {s : Session} (stocked : Stocked s) (straight : Straight s.footing) :
    HoldsNothing s ↔ Mark.tookScript s.marks = false ∧ Mark.tookPause s.marks = false := by
  have paused : s.pause.isSome = Mark.tookPause s.marks := straight.paused
  constructor
  · rintro ⟨scripts, -, pause, -⟩
    refine ⟨Bool.eq_false_iff.2 fun took => stocked.some took scripts, ?_⟩
    rw [← paused, pause]
    rfl
  · rintro ⟨noScript, noPause⟩
    obtain ⟨scripts, maps⟩ := stocked.none noScript
    have none : s.pause.isSome = false := paused.trans noPause
    exact ⟨scripts, maps, Option.not_isSome_iff_eq_none.1 (Bool.eq_false_iff.1 none),
      Option.not_isSome_iff_eq_none.1 (Bool.eq_false_iff.1 (straight.selects none))⟩

/-- **Something is held** exactly if a script or a pause was taken in since
it was last cleared, whatever is called and answered, in any order. Between
two turns nothing is held by an agent that is off, unless it has just
refused to be enabled, or a stop still had to wait for its frames. -/
theorem leftovers (seat : Nat) (target : Target) (settings : Settings)
    (moves : List (Flow.Move AgentCall StopNews)) :
    let pool := afterTurns (connect seat target settings) moves
    (HoldsNothing pool.state ↔
        Mark.tookScript pool.state.marks = false ∧ Mark.tookPause pool.state.marks = false) ∧
      (InTurn { state := connect seat target settings } moves → Rests pool →
        pool.state.enablement = .disabled → pool.notes.head? ≠ some .refused →
        pool.state.catalog.scripts = [] ∧ pool.state.catalog.maps = [] ∧
          ((∀ news, .outside news ∈ moves → news.Plain) → HoldsNothing pool.state)) := by
  intro pool
  have stocked : Stocked pool.state :=
    upheld_stocked.after ⟨inOrder_connect _ _ _, nofun, fun _ => ⟨rfl, rfl⟩⟩ moves
  have straight : Straight pool.state.footing :=
    upheld_straight.after (s := connect seat target settings) ⟨rfl, fun _ => rfl⟩ moves
  have nothing := holdsNothing_iff stocked straight
  -- Only if no policy expands frames are stops prompt, and then no pause is taken in late.
  refine ⟨nothing, fun inTurn rests off kept => ?_⟩
  have turned : Turned (∀ news, .outside news ∈ moves → news.Plain) [] pool.state.footing pool.notes :=
    turned_at_rest inTurn rests fun news there plain => plain news there
  obtain ⟨-, -, turn⟩ := turned
  cases turn with
  | rest settles told bare =>
    obtain ⟨noScript, noPause⟩ := bare off kept
    obtain ⟨scripts, maps⟩ := stocked.none noScript
    exact ⟨scripts, maps, fun plain => nothing.2 ⟨noScript, noPause plain⟩⟩

/-- A script with a source map. -/
def page : Wire.ScriptReport where
  scriptId := "7"
  url := "app.js"
  startLine := 0
  startColumn := 0
  endLine := 9
  endColumn := 0
  executionContextId := 1
  hash := ""
  auxData := none
  isLiveEdit := false
  sourceMapUrl := some "app.js.map"
  hasSourceUrl := false
  isModule := false
  length := 0
  stackTrace := none
  codeOffset := none
  language := .javaScript
  embedderName := none

/-- A stop in it. -/
def stopInPage : Wire.PauseReport where
  callFrames := [{
    callFrameId := "0"
    functionName := "main"
    functionLocation := none
    location := ⟨"7", 0, none⟩
    url := "app.js"
    scopeChain := []
    this := {}
    returnValue := none
    canBeRestarted := none }]
  reason := .other
  data := none
  hitBreakpoints := []
  asyncStackTrace := none
  asyncStackTraceId := none

/-- Disabling clears what came while the agent was being enabled. -/
theorem nothing_left_on_and_off :
    let pool := afterTurns (connect 0 (.root ⟨0, "page", .frame⟩) {})
      (onAndOff [.scriptParsed page, .paused stopInPage])
    pool.state.enablement = .disabled ∧ HoldsNothing pool.state := by
  have left := leftovers 0 (.root ⟨0, "page", .frame⟩) {}
    (onAndOff [.scriptParsed page, .paused stopInPage])
  have off : (afterTurns (connect 0 (.root ⟨0, "page", .frame⟩) {})
      (onAndOff [.scriptParsed page, .paused stopInPage])).state.enablement = .disabled := by
    decide +kernel
  have plain : ∀ news, .outside news ∈ onAndOff [.scriptParsed page, .paused stopInPage] →
      news.Plain := by
    intro news there
    cases news with
    | install policies => simp [onAndOff, enabling, disabling] at there
    | _ => trivial
  exact ⟨off, (left.2 (by decide +kernel) (by decide +kernel) off (by decide +kernel)).2.2 plain⟩

/-- A refusal leaves it. -/
theorem refusal_leaves :
    let start := connect 0 (.root ⟨0, "page", .frame⟩) {}
    let moves := enabling 0 [.scriptParsed page, .paused stopInPage] (.error .closed)
    let pool := afterTurns start moves
    InTurn { state := start } moves ∧ Rests pool ∧ pool.state.enablement = .disabled ∧
      pool.state.catalog.scripts.length = 1 ∧ pool.state.catalog.maps.length = 1 ∧
      pool.state.pause.isSome = true ∧ pool.state.selected.isSome = true := by
  decide +kernel

end Session

end DebugClient
