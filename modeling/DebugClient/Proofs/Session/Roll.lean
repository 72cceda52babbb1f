import DebugClient.Proofs.Session.Outlook
/-!
# Rolls — contexts that come and go

Whatever events a session takes in, in any order and while stops wait for
their frames, it knows the contexts that were created and that nothing has
taken away since (`knownAfter`), in the order they were created. Each of
them was reported when it came, and is reported once when it goes. The
global object is cleared by each event that says so and by each that takes
the last context away (`Wire.Event.Clears`), and by no other.

What one event does is its `Effect`, what is so after all of them `Rolled`,
and the result is `contexts_accounted`.
-/

namespace DebugClient

/-! ## Events -/

namespace Wire.Event

/-- Whether an event takes the context of an identifier away. -/
def takes (id : ContextId) : Wire.Event → Bool
  | .contextDestroyed gone => gone.id == id
  | .contextsCleared => true
  | _ => false

/-- The context an event creates. -/
def created? (target : Target) : Wire.Event → Option ExecutionContext
  | .contextCreated r => some (.ofReport r target)
  | _ => none

/-- **An event clears the global object**: every context goes, or the last
one of those that are known. -/
def Clears (known : List ExecutionContext) : Wire.Event → Prop
  | .contextDestroyed gone => known ≠ [] ∧ ∀ c ∈ known, c.id = gone.id
  | .contextsCleared => True
  | _ => False

instance (known : List ExecutionContext) : (event : Wire.Event) → Decidable (event.Clears known)
  | .contextDestroyed gone =>
    inferInstanceAs (Decidable (known ≠ [] ∧ ∀ c ∈ known, c.id = gone.id))
  | .contextsCleared => isTrue trivial
  | .scriptParsed _ | .scriptFailed _ | .paused _ | .resumed | .breakpointResolved _ => isFalse id
  | .contextCreated _ | .exceptionThrown _ | .exceptionRevoked _ | .consoleCalled _ => isFalse id

end Wire.Event

/-- The contexts that events create and no later one takes away. -/
def remaining (target : Target) : List Wire.Event → List ExecutionContext
  | [] => []
  | event :: later =>
    ((event.created? target).filter fun c => !later.any (·.takes c.id)).toList ++ remaining target later

/-- The contexts that are known after events: those that were known at
first and those the events created, without those that were taken away. -/
def knownAfter (target : Target) (first : List ExecutionContext) (events : List Wire.Event) :
    List ExecutionContext :=
  (first.filter fun c => !events.any (·.takes c.id)) ++ remaining target events

/-- How often events clear the global object. -/
def clearings (target : Target) (first : List ExecutionContext) (events : List Wire.Event) : Nat :=
  (List.range events.length).countP fun i =>
    events[i]?.any fun event => decide (event.Clears (knownAfter target first (events.take i)))

/-- No event creates a context under an identifier that is known. -/
def FreshIds (target : Target) (first : List ExecutionContext) (events : List Wire.Event) : Prop :=
  ∀ earlier r later, events = earlier ++ .contextCreated r :: later →
    r.id ∉ (knownAfter target first earlier).map (·.id)

section History

variable {target : Target} {first : List ExecutionContext} {events : List Wire.Event}
  {event : Wire.Event}

theorem remaining_snoc :
    remaining target (events ++ [event]) =
      (remaining target events).filter (fun c => !event.takes c.id) ++
        (event.created? target).toList := by
  induction events with
  | nil =>
    have last : ((event.created? target).filter fun _ => true) = event.created? target := by
      cases event.created? target <;> rfl
    simpa [remaining] using congrArg Option.toList last
  | cons e rest ih =>
    have kept : ((e.created? target).filter fun c => !(rest ++ [event]).any (·.takes c.id)).toList =
        ((e.created? target).filter fun c => !rest.any (·.takes c.id)).toList.filter
          fun c => !event.takes c.id := by
      cases e.created? target with
      | none => rfl
      | some c =>
        rw [Option.filter_some, Option.filter_some, List.any_append, List.any_cons, List.any_nil,
          Bool.or_false]
        cases rest.any (·.takes c.id) <;> cases taken : event.takes c.id <;> simp [taken]
    rw [List.cons_append, remaining, kept, ih, remaining, List.filter_append, List.append_assoc]

/-- **One more event** takes away what it does, and adds what it creates. -/
theorem knownAfter_snoc :
    knownAfter target first (events ++ [event]) =
      (knownAfter target first events).filter (fun c => !event.takes c.id) ++
        (event.created? target).toList := by
  have kept : (first.filter fun c => !(events ++ [event]).any (·.takes c.id)) =
      (first.filter fun c => !events.any (·.takes c.id)).filter fun c => !event.takes c.id := by
    rw [List.filter_filter]
    refine List.filter_congr fun c _ => ?_
    simp [Bool.and_comm]
  rw [knownAfter, kept, remaining_snoc, knownAfter, List.filter_append, List.append_assoc]

theorem clearings_snoc :
    clearings target first (events ++ [event]) =
      clearings target first events + if event.Clears (knownAfter target first events) then 1 else 0 := by
  have before : ∀ i ∈ List.range events.length,
      ((events ++ [event])[i]?.any fun e =>
          decide (e.Clears (knownAfter target first ((events ++ [event]).take i)))) =
        events[i]?.any fun e => decide (e.Clears (knownAfter target first (events.take i))) := by
    intro i hi
    have short : i < events.length := List.mem_range.1 hi
    rw [List.getElem?_append_left short, List.take_append_of_le_length (Nat.le_of_lt short)]
  have counted : (List.range events.length).countP (fun i =>
      (events ++ [event])[i]?.any fun e =>
        decide (e.Clears (knownAfter target first ((events ++ [event]).take i)))) =
      clearings target first events := List.countP_congr fun i hi => by rw [before i hi]
  rw [clearings, List.length_append, List.length_singleton, List.range_succ, List.countP_append, counted]
  simp [List.countP_cons]

theorem freshIds_snoc :
    FreshIds target first (events ++ [event]) ↔ FreshIds target first events ∧
      ∀ r, event = .contextCreated r → r.id ∉ (knownAfter target first events).map (·.id) := by
  constructor
  · intro h
    refine ⟨fun earlier r later split => ?_, fun r is => ?_⟩
    · exact h earlier r (later ++ [event]) (by rw [split, List.append_assoc, List.cons_append])
    · exact h events r [] (by rw [is])
  · rintro ⟨before, last⟩ earlier r later split
    rcases later.eq_nil_or_concat with rfl | ⟨later, e, rfl⟩
    · obtain ⟨rfl, is⟩ := List.append_inj' split rfl
      exact last r (List.singleton_inj.1 is)
    · rw [List.concat_eq_append, ← List.cons_append, ← List.append_assoc] at split
      exact before earlier r later (List.append_inj' split rfl).1

end History

namespace Session

/-! ## Effects -/

/-- **The effect of an event** on the contexts that are known, on what is
told of them, and on what goes with the global object. -/
structure Effect (event : Wire.Event) (s s' : Session) : Prop where
  /-- The target stays. -/
  target : s'.target = s.target
  /-- Contexts go, and one may come. -/
  contexts : s'.contexts =
    s.contexts.filter (fun c => !event.takes c.id) ++ (event.created? s.target).toList
  /-- The one that comes is reported. -/
  created : s'.reportedCreated = s.reportedCreated ++ (event.created? s.target).toList
  /-- So are those that go. -/
  destroyed : s'.reportedDestroyed = s.reportedDestroyed ++ s.contexts.filter fun c => event.takes c.id
  /-- The global object is cleared once, or not. -/
  cleared : s'.timesCleared = s.timesCleared + if event.Clears s.contexts then 1 else 0
  /-- If it is, no script, no binding and no pause is left. -/
  bare : event.Clears s.contexts → s'.catalog = {} ∧ s'.pause = none ∧ s'.selected = none

section Effects

variable {event : Wire.Event} {s s' : Session}

/-- What is reported after news. -/
theorem reported_append (news : List Signal) (told : s'.contextNews = news ++ s.contextNews) :
    s'.reportedCreated = s.reportedCreated ++ (news.filterMap Signal.created?).reverse ∧
      s'.reportedDestroyed = s.reportedDestroyed ++ (news.filterMap Signal.destroyed?).reverse ∧
      s'.timesCleared = s.timesCleared + news.countP Signal.clears := by
  refine ⟨?_, ?_, ?_⟩
  · rw [reportedCreated, told, List.filterMap_append, List.reverse_append]
    rfl
  · rw [reportedDestroyed, told, List.filterMap_append, List.reverse_append]
    rfl
  · rw [timesCleared, told, List.countP_append, Nat.add_comm]
    rfl

theorem effect_of_same (other : event.ofContexts = false) (same : s'.outlook = s.outlook) :
    Effect event s s' := by
  have contexts : s'.contexts = s.contexts := congrArg Outlook.contexts same
  obtain ⟨created, destroyed, cleared⟩ := reported_append [] (congrArg Outlook.news same)
  have none : event.created? s.target = none := by cases event <;> first | rfl | cases other
  have stays : ∀ id, event.takes id = false := by
    intro id
    cases event <;> first | rfl | cases other
  have keeps : ¬ event.Clears s.contexts := by
    cases event <;> first | exact id | cases other
  refine ⟨congrArg Outlook.target same, ?_, ?_, ?_, ?_, fun clears => absurd clears keeps⟩
  · simp [contexts, none, stays]
  · simp [created, none]
  · simp [destroyed, stays]
  · simp [cleared, keeps]

/-- A context of a new identifier goes to the end. -/
theorem place_new {c : ExecutionContext} {l : List ExecutionContext} (new : c.id ∉ l.map (·.id)) :
    c.place l = l ++ [c] := by
  induction l with
  | nil => rfl
  | cons d rest ih =>
    rw [List.map_cons, List.mem_cons, not_or] at new
    rw [ExecutionContext.place, if_neg (Ne.symm new.1), ih new.2]
    rfl

theorem effect_created {r : Wire.ContextReport} (new : r.id ∉ s.contexts.map (·.id)) :
    Effect (.contextCreated r) s (s.createContext r) := by
  have placed : (s.createContext r).contexts = s.contexts ++ [.ofReport r s.target] :=
    place_new (c := .ofReport r s.target) new
  have told : (s.createContext r).contextNews =
      [.runtime (.contextCreated (.ofReport r s.target))] ++ s.contextNews := rfl
  obtain ⟨created, destroyed, cleared⟩ := reported_append _ told
  refine ⟨rfl, ?_, created, ?_, cleared, False.elim⟩
  · simp [placed, Wire.Event.takes, Wire.Event.created?]
  · have none : s.contexts.filter (fun c => (Wire.Event.contextCreated r).takes c.id) = [] :=
      List.filter_eq_nil_iff.2 fun _ _ => Bool.false_ne_true
    rw [none]
    exact destroyed

/-- Nothing is left of the scripts and of the pause. -/
theorem bare_clearGlobalObject (s : Session) :
    s.clearGlobalObject.catalog = {} ∧ s.clearGlobalObject.pause = none ∧
      s.clearGlobalObject.selected = none := by
  have selected : s.clearPause.selected = none := by
    unfold clearPause select
    split
    · rename_i same
      exact Option.map_eq_none_iff.1 same
    · rfl
  refine ⟨catalog_clearGlobalObject s, ?_, ?_⟩
  · change ({ s.clearPause with catalog := {} }.detachAll _).pause = none
    rw [detachAll_eq]
    exact clearPause_pause s
  · change ({ s.clearPause with catalog := {} }.detachAll _).selected = none
    rw [detachAll_eq]
    exact selected

/-- If identifiers are used once, the contexts of one that is found are
that one. -/
theorem filter_id_eq {l : List ExecutionContext} (ids : (l.map (·.id)).Nodup) {id : ContextId}
    {c : ExecutionContext} (found : l.find? (·.id == id) = some c) :
    l.filter (fun d => id == d.id) = [c] := by
  induction l with
  | nil => cases found
  | cons d rest ih =>
    obtain ⟨new, ids⟩ : d.id ∉ rest.map (·.id) ∧ (rest.map (·.id)).Nodup := List.nodup_cons.1 ids
    by_cases is : d.id = id
    · rw [List.find?_cons_of_pos (p := fun e : ExecutionContext => e.id == id) (beq_iff_eq.2 is)] at found
      have others : rest.filter (fun e => id == e.id) = [] := by
        refine List.filter_eq_nil_iff.2 fun e he same => new ?_
        rw [is, beq_iff_eq.1 same]
        exact List.mem_map_of_mem he
      rw [List.filter_cons_of_pos (p := fun e : ExecutionContext => id == e.id) (beq_iff_eq.2 is.symm),
        others, Option.some.inj found]
    · rw [List.find?_cons_of_neg (p := fun e : ExecutionContext => e.id == id) (by simpa using is)] at found
      rw [List.filter_cons_of_neg (p := fun e : ExecutionContext => id == e.id) (by simpa using Ne.symm is),
        ih ids found]

/-- Nothing is destroyed that is not known. -/
theorem effect_unknown {gone : Wire.ContextGone} (same : s'.outlook = s.outlook)
    (unknown : ∀ c ∈ s.contexts, c.id ≠ gone.id) : Effect (.contextDestroyed gone) s s' := by
  have contexts : s'.contexts = s.contexts := congrArg Outlook.contexts same
  obtain ⟨created, destroyed, cleared⟩ := reported_append [] (congrArg Outlook.news same)
  have stay : ∀ c ∈ s.contexts, (Wire.Event.contextDestroyed gone).takes c.id = false :=
    fun c hc => beq_eq_false_iff_ne.2 (unknown c hc).symm
  have keeps : ¬ (Wire.Event.contextDestroyed gone).Clears s.contexts := by
    rintro ⟨some, all⟩
    obtain ⟨c, rest, is⟩ := List.exists_cons_of_ne_nil some
    have first : c ∈ s.contexts := is ▸ List.mem_cons_self
    exact unknown c first (all c first)
  have none : s.contexts.filter (fun c => (Wire.Event.contextDestroyed gone).takes c.id) = [] :=
    List.filter_eq_nil_iff.2 fun c hc => by simp [stay c hc]
  have all : s.contexts.filter (fun c => !(Wire.Event.contextDestroyed gone).takes c.id) = s.contexts :=
    List.filter_eq_self.2 fun c hc => by simp [stay c hc]
  refine ⟨congrArg Outlook.target same, ?_, created, ?_, ?_, fun clears => absurd clears keeps⟩
  · rw [contexts, all]
    exact (List.append_nil _).symm
  · rw [none]
    exact destroyed
  · rw [if_neg keeps]
    exact cleared

/-- A context that is known is destroyed, and the global object goes with
the last one. -/
theorem effect_known {gone : Wire.ContextGone} {c : ExecutionContext} (told : Session)
    (ids : (s.contexts.map (·.id)).Nodup) (found : s.contexts.find? (·.id == gone.id) = some c)
    (target : told.target = s.target)
    (contexts : told.contexts = s.contexts.filter fun c => !(gone.id == c.id))
    (news : told.contextNews = .runtime (.contextDestroyed c) :: s.contextNews) :
    Effect (.contextDestroyed gone) s (if told.contexts.isEmpty then told.clearGlobalObject else told) := by
  have one : s.contexts.filter (fun d => (Wire.Event.contextDestroyed gone).takes d.id) = [c] :=
    filter_id_eq ids found
  have left : told.contexts =
      s.contexts.filter (fun d => !(Wire.Event.contextDestroyed gone).takes d.id) ++ [] := by
    rw [contexts, List.append_nil]
    rfl
  have clears : (Wire.Event.contextDestroyed gone).Clears s.contexts ↔ told.contexts = [] := by
    rw [contexts, List.filter_eq_nil_iff]
    constructor
    · rintro ⟨-, all⟩ d hd kept
      rw [all d hd, beq_self_eq_true] at kept
      cases kept
    · intro all
      refine ⟨List.ne_nil_of_mem (List.mem_of_find?_eq_some found), fun d hd => ?_⟩
      by_contra other
      exact all d hd (by simpa using Ne.symm other)
  -- The last context takes the global object with it, after it was reported.
  by_cases last : told.contexts = []
  · rw [if_pos (List.isEmpty_iff.2 last)]
    have outlook := outlook_clearGlobalObject told
    have more : told.clearGlobalObject.contextNews =
        [.debugger .globalObjectCleared, .runtime (.contextDestroyed c)] ++ s.contextNews :=
      (congrArg Outlook.news outlook).trans (by rw [news]; rfl)
    obtain ⟨created, destroyed, cleared⟩ := reported_append _ more
    refine ⟨(congrArg Outlook.target outlook).trans target,
      (congrArg Outlook.contexts outlook).trans left, created, ?_, ?_,
      fun _ => bare_clearGlobalObject told⟩
    · rw [one]
      exact destroyed
    · rw [if_pos (clears.2 last)]
      exact cleared
  · rw [if_neg fun empty => last (List.isEmpty_iff.1 empty)]
    have more : told.contextNews = [.runtime (.contextDestroyed c)] ++ s.contextNews := news
    obtain ⟨created, destroyed, cleared⟩ := reported_append _ more
    refine ⟨target, left, created, ?_, ?_, fun all => absurd (clears.1 all) last⟩
    · rw [one]
      exact destroyed
    · rw [if_neg fun all => last (clears.1 all)]
      exact cleared

theorem effect_destroyed {gone : Wire.ContextGone} (ids : (s.contexts.map (·.id)).Nodup) :
    Effect (.contextDestroyed gone) s (s.destroyContext gone.id) := by
  have same : (s.dropContextMaps gone.id).outlook = s.outlook := outlook_detachAll _ _
  have contexts : (s.dropContextMaps gone.id).contexts = s.contexts := congrArg Outlook.contexts same
  have news : (s.dropContextMaps gone.id).contextNews = s.contextNews := congrArg Outlook.news same
  have target : (s.dropContextMaps gone.id).target = s.target := congrArg Outlook.target same
  unfold destroyContext context?
  generalize s.dropContextMaps gone.id = t at same contexts news target
  dsimp only
  rw [contexts]
  cases found : s.contexts.find? (·.id == gone.id) with
  | none =>
    refine effect_unknown same fun c hc is => ?_
    exact List.find?_eq_none.1 found c hc (beq_iff_eq.2 is)
  | some c =>
    have left : s.contexts.filter (·.id != gone.id) = s.contexts.filter fun c => !(gone.id == c.id) :=
      List.filter_congr fun d _ => by rw [bne, BEq.comm]
    have told : ({ t with contexts := s.contexts.filter (·.id != gone.id) }.tell
        (.contextDestroyed c)).contextNews = .runtime (.contextDestroyed c) :: s.contextNews := by
      rw [← news]
      rfl
    exact effect_known _ ids found target left told

/-- Contexts that all go are reported one by one. -/
theorem tellAll_eq (l : List ExecutionContext) (t : Session) :
    l.foldl (fun s c => s.tell (.contextDestroyed c)) t =
      { t with journal := (l.map fun c => .runtime (.contextDestroyed c)).reverse ++ t.journal } := by
  induction l generalizing t with
  | nil => rfl
  | cons c rest ih =>
    rw [List.foldl_cons, ih, List.map_cons, List.reverse_cons, List.append_assoc]
    rfl

theorem effect_cleared : Effect .contextsCleared s s.clearContexts := by
  have outlook := outlook_clearGlobalObject s
  have contexts : s.clearGlobalObject.contexts = s.contexts := congrArg Outlook.contexts outlook
  have news : s.clearGlobalObject.contextNews = .debugger .globalObjectCleared :: s.contextNews :=
    congrArg Outlook.news outlook
  have is : s.clearContexts = { s.clearGlobalObject with
      contexts := []
      journal := (s.contexts.map fun c => .runtime (.contextDestroyed c)).reverse ++
        s.clearGlobalObject.journal } := by
    rw [clearContexts, tellAll_eq, contexts]
  have told : s.clearContexts.contextNews =
      ((s.contexts.map fun c => .runtime (.contextDestroyed c)).reverse ++
        [.debugger .globalObjectCleared]) ++ s.contextNews := by
    have all : ((s.contexts.map fun c => Signal.runtime (.contextDestroyed c)).reverse).filter
        Signal.ofContexts = (s.contexts.map fun c => .runtime (.contextDestroyed c)).reverse :=
      List.filter_eq_self.2 fun signal hs => by
        obtain ⟨c, -, rfl⟩ := List.mem_map.1 (List.mem_reverse.1 hs)
        rfl
    rw [is, contextNews, List.filter_append, all, List.append_assoc]
    exact congrArg _ news
  obtain ⟨created, destroyed, cleared⟩ := reported_append _ told
  have every : s.contexts.filter (fun c => Wire.Event.contextsCleared.takes c.id) = s.contexts :=
    List.filter_eq_self.2 fun _ _ => rfl
  have none : s.contexts.filter (fun c => !Wire.Event.contextsCleared.takes c.id) = [] :=
    List.filter_eq_nil_iff.2 fun _ _ => Bool.false_ne_true
  refine ⟨?_, ?_, ?_, ?_, ?_, fun _ => ?_⟩
  · rw [is]
    exact congrArg Outlook.target outlook
  · rw [is, none]
    rfl
  · rw [created]
    simp [Signal.created?, Wire.Event.created?, Function.comp_def]
  · rw [destroyed, every]
    simp [Signal.destroyed?, Function.comp_def]
  · rw [cleared]
    simp [Signal.clears, Wire.Event.Clears, Function.comp_def, List.countP_map]
  · rw [is]
    exact bare_clearGlobalObject s

/-- **What an event has done** is its effect. -/
theorem Did.effect (did : Did event s s') (ids : (s.contexts.map (·.id)).Nodup)
    (new : ∀ r, event = .contextCreated r → r.id ∉ s.contexts.map (·.id)) : Effect event s s' := by
  cases event with
  | contextCreated r => exact did ▸ effect_created (new r rfl)
  | contextDestroyed gone => exact did ▸ effect_destroyed ids
  | contextsCleared => exact did ▸ effect_cleared
  | _ => exact effect_of_same rfl did

end Effects

/-! ## Every run -/

/-- Events, with what happens while their handlers wait. -/
def takingIn : Flow.System Wire.Event StopNews Session Unit Unit where
  program := dispatch
  outside := StopNews.apply
  note _ _ _ _ := []

/-- A session after events and news, in any order. -/
def afterEvents (s : Session) (moves : List (Flow.Move Wire.Event StopNews)) : Session :=
  (Flow.Pool.play takingIn { state := s } moves).state

/-- **The roll is kept** after events: the contexts that are known are those
that should be, and each that came or went was reported. -/
structure Rolled (first : Session) (events : List Wire.Event) (s : Session) : Prop where
  /-- The target stays. -/
  target : s.target = first.target
  /-- The contexts that are known. -/
  contexts : s.contexts = knownAfter first.target first.contexts events
  /-- Each has an identifier of its own. -/
  ids : (s.contexts.map (·.id)).Nodup
  /-- Those that came. -/
  created : s.reportedCreated = first.reportedCreated ++ events.filterMap (·.created? first.target)
  /-- Those that went are those that came and are not known any more. -/
  destroyed : ∃ gone, s.reportedDestroyed = first.reportedDestroyed ++ gone ∧
    (gone ++ s.contexts).Perm (first.contexts ++ events.filterMap (·.created? first.target))
  /-- How often the global object was cleared. -/
  cleared : s.timesCleared = first.timesCleared + clearings first.target first.contexts events

section Runs

variable {first s s' : Session} {events : List Wire.Event} {event : Wire.Event}

theorem rolled_first (ids : (first.contexts.map (·.id)).Nodup) : Rolled first [] first where
  target := rfl
  contexts := by simp [knownAfter, remaining]
  ids := ids
  created := by simp
  destroyed := ⟨[], by simp, by simp⟩
  cleared := by simp [clearings]

/-- What is told of contexts is all that matters. -/
theorem Rolled.aside (h : Rolled first events s) (same : s'.outlook = s.outlook) :
    Rolled first events s' := by
  have contexts : s'.contexts = s.contexts := congrArg Outlook.contexts same
  obtain ⟨created, destroyed, cleared⟩ := reported_append [] (congrArg Outlook.news same)
  obtain ⟨gone, told, perm⟩ := h.destroyed
  refine ⟨(congrArg Outlook.target same).trans h.target, contexts.trans h.contexts, contexts ▸ h.ids,
    ?_, ⟨gone, ?_, contexts ▸ perm⟩, cleared.trans h.cleared⟩
  · rw [created, h.created]
    simp
  · rw [destroyed, told]
    simp

/-- **One more event.** -/
theorem Rolled.step (h : Rolled first events s) (effect : Effect event s s')
    (new : ∀ r, event = .contextCreated r → r.id ∉ s.contexts.map (·.id)) :
    Rolled first (events ++ [event]) s' := by
  have comes := effect.contexts
  rw [h.target] at comes
  have came : (events ++ [event]).filterMap (·.created? first.target) =
      events.filterMap (·.created? first.target) ++ (event.created? first.target).toList := by
    rw [List.filterMap_append, List.filterMap_cons]
    cases event.created? first.target <;> rfl
  refine ⟨effect.target.trans h.target, ?_, ?_, ?_, ?_, ?_⟩
  · rw [comes, h.contexts, knownAfter_snoc]
  · rw [comes, List.map_append]
    refine List.nodup_append.2 ⟨h.ids.sublist (List.filter_sublist.map _), ?_, ?_⟩
    · cases event.created? first.target <;> simp
    · intro id old id' now same
      cases event with
      | contextCreated r =>
        -- The identifier of the context that comes is not known.
        obtain ⟨c, hc, rfl⟩ := List.mem_map.1 old
        have known : c.id ∈ s.contexts.map (·.id) := List.mem_map_of_mem (List.mem_of_mem_filter hc)
        have is : c.id = r.id := same.trans (List.mem_singleton.1 now)
        exact new r rfl (is ▸ known)
      | _ => exact absurd now List.not_mem_nil
  · rw [effect.created, h.created, h.target, came, List.append_assoc]
  · -- What goes and what stays are two parts of what was known.
    obtain ⟨gone, told, perm⟩ := h.destroyed
    refine ⟨gone ++ s.contexts.filter fun c => event.takes c.id, ?_, ?_⟩
    · rw [effect.destroyed, told, List.append_assoc]
    · have parts := List.filter_append_perm (fun c : ExecutionContext => event.takes c.id) s.contexts
      rw [comes, came, List.append_assoc, ← List.append_assoc (s.contexts.filter _),
        ← List.append_assoc gone, ← List.append_assoc first.contexts]
      exact ((parts.append_left gone).trans perm).append_right _
  · rw [effect.cleared, h.cleared, clearings_snoc, h.contexts, Nat.add_assoc]

end Runs

/-- **What holds in every order**: the roll is kept, an event that clears
the global object leaves nothing of it, and events of contexts never
wait. -/
structure RollKept (first : Session) (moves : List (Flow.Move Wire.Event StopNews))
    (pool : Flow.Pool Wire.Event Unit Session Unit Unit) : Prop where
  /-- The roll is kept. -/
  rolled : Rolled first (Flow.callsOf moves) pool.state
  /-- Nothing is left of the global object. -/
  bare : ∀ earlier event, moves = earlier ++ [.begin event] →
    event.Clears (knownAfter first.target first.contexts (Flow.callsOf earlier)) →
    pool.state.catalog = {} ∧ pool.state.pause = none ∧ pool.state.selected = none
  /-- Events of contexts do not wait. -/
  waiting : ∀ w ∈ pool.waiting, w.call.ofContexts = false

section Steps

variable {first : Session} {past : List (Flow.Move Wire.Event StopNews)}
  {a b : Flow.Pool Wire.Event Unit Session Unit Unit}

/-- An event is taken in. -/
theorem RollKept.begin (h : RollKept first past a) {event : Wire.Event}
    (new : ∀ r, event = .contextCreated r → r.id ∉ a.state.contexts.map (·.id))
    (did : Did event a.state b.state) (waiting : ∀ w ∈ b.waiting, w.call.ofContexts = false) :
    RollKept first (past ++ [.begin event]) b := by
  have effect := did.effect h.rolled.ids new
  refine ⟨?_, fun earlier e split clears => ?_, waiting⟩
  · rw [Flow.callsOf_begin]
    exact h.rolled.step effect new
  · obtain ⟨rfl, last⟩ := List.append_inj' split rfl
    obtain rfl : event = e := by injection (List.singleton_inj.1 last)
    rw [← h.rolled.contexts] at clears
    exact effect.bare clears

/-- Whatever else happens has no part in it. -/
theorem RollKept.other (h : RollKept first past a) {move : Flow.Move Wire.Event StopNews}
    (none : move.begun? = none) (same : b.state.outlook = a.state.outlook)
    (waiting : ∀ w ∈ b.waiting, w.call.ofContexts = false) : RollKept first (past ++ [move]) b := by
  have calls : Flow.callsOf (past ++ [move]) = Flow.callsOf past := by
    simp [Flow.callsOf, none]
  refine ⟨?_, fun earlier event split => ?_, waiting⟩
  · rw [calls]
    exact h.rolled.aside same
  · obtain ⟨-, last⟩ := List.append_inj' split rfl
    rw [List.singleton_inj.1 last] at none
    cases none

theorem RollKept.advance (h : RollKept first past a) {move : Flow.Move Wire.Event StopNews}
    (fresh : FreshIds first.target first.contexts (Flow.callsOf (past ++ [move])))
    (step : Flow.Pool.Advance takingIn eventProtocol () move a b) : RollKept first (past ++ [move]) b := by
  have new : ∀ event, move = .begin event → ∀ r, event = .contextCreated r →
      r.id ∉ a.state.contexts.map (·.id) := by
    rintro event rfl
    rw [Flow.callsOf_begin, freshIds_snoc] at fresh
    rw [h.rolled.contexts]
    exact fresh.2
  cases step with
  | @opens _ event q s moves =>
    obtain ⟨other, same⟩ := moves
    have did : Did event a.state s := by cases event <;> first | exact same | cases other
    refine h.begin (new event rfl) did fun w hw => ?_
    rcases List.mem_append.1 hw with hw | hw
    · exact h.waiting w hw
    · rw [List.mem_singleton.1 hw]
      exact other
  | passes ends => exact h.begin (new _ rfl) ends h.waiting
  | @goes _ l r w q s waiting moves =>
    have others : ∀ v ∈ l ++ w :: r, v.call.ofContexts = false := waiting ▸ h.waiting
    refine h.other rfl moves.2 fun v hv => ?_
    rcases List.mem_append.1 hv with hl | hv
    · exact others v (List.mem_append_left _ hl)
    rcases List.mem_cons.1 hv with rfl | hr
    · exact moves.1
    · exact others v (List.mem_append_right l (List.mem_cons_of_mem w hr))
  | @closes _ l r w x s waiting ends =>
    -- What waited is no event of contexts, so its end has no part in the roll.
    have others : ∀ v ∈ l ++ w :: r, v.call.ofContexts = false := waiting ▸ h.waiting
    have other : w.call.ofContexts = false := others w (List.mem_append_right l List.mem_cons_self)
    have did : Did w.call a.state s := ends
    have same : s.outlook = a.state.outlook := by
      generalize w.call = event at did other
      cases event <;> first | exact did | cases other
    refine h.other rfl same fun v hv => ?_
    rcases List.mem_append.1 hv with hl | hr
    · exact others v (List.mem_append_left _ hl)
    · exact others v (List.mem_append_right l (List.mem_cons_of_mem w hr))
  | stays => exact h.other rfl rfl h.waiting
  | @outside _ news =>
    refine h.other rfl ?_ h.waiting
    cases news <;> rfl

end Steps

/-- **Contexts are accounted for**, at every time, whatever events come and
whatever happens while stops wait. The contexts that are known are those
that were created and not taken away since, in the order in which they were
created. Each that was created is reported once as created, and each that
went is reported once as destroyed: those that are reported are those that
came and are not known any more. The global object is cleared once by each
event that says so and by each that takes the last context away, and right
after such an event there is no script, no bound source map, no pause and no
selected frame. -/
theorem contexts_accounted {first : Session} (ids : (first.contexts.map (·.id)).Nodup)
    (moves : List (Flow.Move Wire.Event StopNews))
    (fresh : FreshIds first.target first.contexts (Flow.callsOf moves)) :
    let s := afterEvents first moves
    let came := (Flow.callsOf moves).filterMap (·.created? first.target)
    s.contexts = knownAfter first.target first.contexts (Flow.callsOf moves) ∧
      s.reportedCreated = first.reportedCreated ++ came ∧
      (∃ gone, s.reportedDestroyed = first.reportedDestroyed ++ gone ∧
        (gone ++ s.contexts).Perm (first.contexts ++ came)) ∧
      s.timesCleared =
        first.timesCleared + clearings first.target first.contexts (Flow.callsOf moves) ∧
      ∀ earlier event, moves = earlier ++ [.begin event] →
        event.Clears (knownAfter first.target first.contexts (Flow.callsOf earlier)) →
        s.catalog = {} ∧ s.pause = none ∧ s.selected = none := by
  intro s came
  have follows : Flow.Pool.Shadows eventProtocol
      { state := first : Flow.Pool Wire.Event (Work Unit) Session Unit Unit } { state := first } :=
    ⟨rfl, rfl, .nil, rfl, rfl⟩
  have start : RollKept first [] { state := first } :=
    ⟨rolled_first ids, fun earlier event split => by simp at split, fun w hw => absurd hw List.not_mem_nil⟩
  have keeps : ∀ past move a b, (FreshIds first.target first.contexts (Flow.callsOf past) → RollKept first past a) →
      a.state = (Flow.Pool.play takingIn { state := first } past).state →
      Flow.Pool.Advance takingIn eventProtocol () move a b →
      FreshIds first.target first.contexts (Flow.callsOf (past ++ [move])) →
      RollKept first (past ++ [move]) b := by
    intro past move a b kept _ step fresh
    refine (kept ?_).advance fresh step
    cases move with
    | begin event => exact (freshIds_snoc.1 (Flow.callsOf_begin past event ▸ fresh)).1
    | carry place => exact Flow.callsOf_carry past place ▸ fresh
    | outside news => exact Flow.callsOf_outside past news ▸ fresh
  obtain ⟨shadow, shadows, kept⟩ := Flow.Pool.play_advances (fun _ _ _ _ => trivial)
    (fun event s _ => obeys_dispatch event s) keeps follows (fun _ => start) moves
  obtain ⟨rolled, bare, -⟩ := kept fresh
  have state : shadow.state = s := shadows.state
  rw [state] at rolled bare
  exact ⟨rolled.contexts, rolled.created, rolled.destroyed, rolled.cleared, bare⟩

/-- A context comes and goes; between, one goes that is not known. -/
def visited : List (Flow.Move Wire.Event StopNews) :=
  [.begin (.contextCreated ⟨1, "", "page", none, none⟩), .begin (.contextDestroyed ⟨2, none⟩),
    .begin (.contextDestroyed ⟨1, none⟩)]

theorem contexts_accounted_visited :
    let s := afterEvents (connect 0 (.root ⟨0, "page", .frame⟩) {}) visited
    s.contexts = [] ∧ s.reportedDestroyed = s.reportedCreated ∧ s.reportedCreated.length = 1 ∧
      s.timesCleared = 1 ∧ s.catalog = {} ∧ s.pause = none ∧ s.selected = none := by
  intro s
  have fresh : FreshIds (.root ⟨0, "page", .frame⟩) [] (Flow.callsOf visited) := by
    intro earlier r later split
    cases earlier with
    | nil => exact List.not_mem_nil
    | cons e rest =>
      have rest : rest ++ .contextCreated r :: later =
          [.contextDestroyed ⟨2, none⟩, .contextDestroyed ⟨1, none⟩] := (List.cons.inj split).2.symm
      have there : .contextCreated r ∈ [Wire.Event.contextDestroyed ⟨2, none⟩, .contextDestroyed ⟨1, none⟩] :=
        rest ▸ List.mem_append_right _ List.mem_cons_self
      simp at there
  have ids : ((connect 0 (.root ⟨0, "page", .frame⟩) {}).contexts.map (·.id)).Nodup := List.nodup_nil
  obtain ⟨contexts, created, ⟨gone, destroyed, perm⟩, cleared, bare⟩ := contexts_accounted ids visited fresh
  have left : s.contexts = [] := contexts.trans rfl
  have one : s.reportedCreated = [.ofReport ⟨1, "", "page", none, none⟩ (.root ⟨0, "page", .frame⟩)] :=
    created.trans rfl
  have went : s.reportedDestroyed = gone := destroyed.trans rfl
  have all : gone = s.reportedCreated := by
    rw [left, List.append_nil] at perm
    rw [one]
    exact List.perm_singleton.1 perm
  have last := bare [.begin (.contextCreated ⟨1, "", "page", none, none⟩),
    .begin (.contextDestroyed ⟨2, none⟩)] (.contextDestroyed ⟨1, none⟩) rfl (by decide)
  exact ⟨left, went.trans all, by rw [one]; rfl, cleared.trans rfl, last⟩

end Session

end DebugClient
