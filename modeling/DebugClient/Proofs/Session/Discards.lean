import DebugClient.Proofs.Session.Bindings
import DebugClient.Proofs.Session.Journal
/-!
# Discards — scripts driven out of the queue

Anonymous scripts that failed to parse are queued. A queue that is full
gives up its oldest scripts, which are unregistered and reported as
discarded. Clearing the global object empties the queue and reports none
of them, so the scripts are counted from one clearing to the next: the
`stretches` of the record.

Within a stretch, the scripts that were queued are those that were
discarded, followed by those that are in the queue (`Accounts`). That, with
what is so of the catalog, is the invariant `Rationed`, and the results are
`discards_accounted` for every run, and in it what a further report does.
-/

namespace DebugClient

/-! ## Accounts -/

/-- The script a signal says was discarded. -/
def Signal.discarded? : Signal → Option Script
  | .debugger (.scriptDiscarded script) => some script
  | _ => none

/-- Whether a script goes to the queue. -/
def Script.isDiscardable (x : Script) : Bool := x.hasSyntaxError && x.isAnonymous

/-- The scripts that were registered and went to the queue, oldest first. -/
def queuedIn (signals : List Signal) : List Script :=
  ((signals.filterMap Signal.registered?).filter Script.isDiscardable).reverse

/-- The scripts that were discarded, oldest first. -/
def discardedIn (signals : List Signal) : List Script :=
  (signals.filterMap Signal.discarded?).reverse

/-- How many of so many scripts, queued one after another, have been
driven out: a hundred with the thousandth, and with each hundredth after
it. -/
def drivenOut (queued : Nat) : Nat := 100 * (queued / 100 - 9)

/-- **The account of the queue**: what was queued in a stretch was
discarded or is in the queue, in the order in which it was queued. -/
structure Accounts (stretch : List Signal) (queue : List Script) : Prop where
  /-- What was queued. -/
  queued : queuedIn stretch = discardedIn stretch ++ queue
  /-- As many were discarded as have to be. -/
  discarded : (discardedIn stretch).length = drivenOut (queuedIn stretch).length

theorem accounts_nil : Accounts [] [] := ⟨rfl, rfl⟩

section Accounts

variable {stretch : List Signal} {queue : List Script} {x : Script}

/-- The queue is never full. -/
theorem Accounts.room (h : Accounts stretch queue) : queue.length < 1000 := by
  have all := congrArg List.length h.queued
  have driven := h.discarded
  rw [List.length_append] at all
  unfold drivenOut at driven
  omega

/-- The scripts that were discarded are the first that were queued. -/
theorem Accounts.discarded_eq (h : Accounts stretch queue) :
    discardedIn stretch = (queuedIn stretch).take (drivenOut (queuedIn stretch).length) := by
  rw [← h.discarded, h.queued, List.take_left]

example : drivenOut 999 = 0 ∧ drivenOut 1000 = 100 ∧ drivenOut 1100 = 200 := by decide

/-- A script that does not go to the queue does not count. -/
theorem Accounts.skip (h : Accounts stretch queue) (other : x.isDiscardable = false) :
    Accounts (.debugger (.scriptParsed x) :: stretch) queue := by
  have queued : queuedIn (.debugger (.scriptParsed x) :: stretch) = queuedIn stretch := by
    simp [queuedIn, Signal.registered?, other]
  exact ⟨queued ▸ h.queued, queued ▸ h.discarded⟩

theorem queuedIn_parsed (fails : x.isDiscardable = true) :
    queuedIn (.debugger (.scriptParsed x) :: stretch) = queuedIn stretch ++ [x] := by
  simp [queuedIn, Signal.registered?, fails]

/-- What is said of scripts that are driven out, newest first. -/
def evictions (gone : List Script) : List Signal :=
  (gone.map fun x => .debugger (.scriptDiscarded x)).reverse

theorem queuedIn_evictions (gone : List Script) :
    queuedIn (evictions gone ++ stretch) = queuedIn stretch := by
  have none : (evictions gone).filterMap Signal.registered? = [] := by
    simp [evictions, Signal.registered?]
  rw [queuedIn, List.filterMap_append, none]
  rfl

theorem filterMap_evictions (gone : List Script) :
    (evictions gone).filterMap Signal.discarded? = gone.reverse := by
  simp [evictions, Signal.discarded?, List.filterMap_map, Function.comp_def]

theorem discardedIn_evictions (gone : List Script) :
    discardedIn (evictions gone ++ stretch) = discardedIn stretch ++ gone := by
  rw [discardedIn, List.filterMap_append, filterMap_evictions, List.reverse_append,
    List.reverse_reverse]
  rfl

/-- A script is queued, and the queue still has room. -/
theorem Accounts.push (h : Accounts stretch queue) (fails : x.isDiscardable = true)
    (room : queue.length + 1 < 1000) :
    Accounts (.debugger (.scriptParsed x) :: stretch) (queue ++ [x]) := by
  have discarded : discardedIn (.debugger (.scriptParsed x) :: stretch) = discardedIn stretch := rfl
  refine ⟨?_, ?_⟩
  · rw [queuedIn_parsed fails, discarded, h.queued, List.append_assoc]
  · have all := congrArg List.length h.queued
    have driven := h.discarded
    rw [List.length_append] at all
    rw [queuedIn_parsed fails, discarded, List.length_append, List.length_singleton]
    unfold drivenOut at driven ⊢
    omega

/-- A script is queued and fills the queue, which gives up its oldest. -/
theorem Accounts.evict (h : Accounts stretch queue) (fails : x.isDiscardable = true)
    (full : queue.length + 1 = 1000) :
    Accounts (evictions ((queue ++ [x]).take 100) ++ .debugger (.scriptParsed x) :: stretch)
      ((queue ++ [x]).drop 100) := by
  have discarded : discardedIn (.debugger (.scriptParsed x) :: stretch) = discardedIn stretch := rfl
  refine ⟨?_, ?_⟩
  · rw [queuedIn_evictions, queuedIn_parsed fails, discardedIn_evictions, discarded, h.queued,
      List.append_assoc, List.append_assoc, List.take_append_drop]
  · have all := congrArg List.length h.queued
    have driven := h.discarded
    have batch : ((queue ++ [x]).take 100).length = 100 := by
      rw [List.length_take, List.length_append, List.length_singleton]
      omega
    rw [List.length_append] at all
    rw [queuedIn_evictions, queuedIn_parsed fails, discardedIn_evictions, discarded,
      List.length_append, List.length_append, batch, List.length_singleton]
    unfold drivenOut at driven ⊢
    omega

end Accounts

/-! ## Evictions -/

namespace Catalog

variable {c : Catalog} {x : Script}

theorem discard_of_room (room : c.discardable.length + 1 < 1000) :
    c.discard x = ([], { c with discardable := c.discardable ++ [x] }) := by
  have short : (c.discardable ++ [x]).length < discardableLimit := by
    rw [List.length_append, List.length_singleton]
    exact room
  exact if_pos short

/-- A queue that is full gives up its oldest scripts, and none of their
identifiers is found any more. -/
theorem discard_of_full (full : c.discardable.length + 1 = 1000) :
    (c.discard x).1 = (c.discardable ++ [x]).take 100 ∧
      (c.discard x).2.discardable = (c.discardable ++ [x]).drop 100 ∧
      (c.discard x).2.scripts.Sublist c.scripts ∧
      ∀ y ∈ (c.discard x).1, ∀ z ∈ (c.discard x).2.scripts, z.scriptId ≠ y.scriptId := by
  have long : ¬ (c.discardable ++ [x]).length < discardableLimit := by
    rw [List.length_append, List.length_singleton, full]
    exact Nat.lt_irrefl 1000
  have evicted : c.discard x = ((c.discardable ++ [x]).take 100,
      ((c.discardable ++ [x]).take 100).foldl unregister
        { c with discardable := (c.discardable ++ [x]).drop 100 }) := if_neg long
  rw [evicted]
  have left : ∀ (gone : List Script) (d : Catalog),
      (gone.foldl unregister d).discardable = d.discardable ∧
        (gone.foldl unregister d).scripts.Sublist d.scripts ∧
        ∀ y ∈ gone, ∀ z ∈ (gone.foldl unregister d).scripts, z.scriptId ≠ y.scriptId := by
    intro gone
    induction gone with
    | nil => exact fun d => ⟨rfl, .refl _, fun y hy => absurd hy List.not_mem_nil⟩
    | cons g rest ih =>
      intro d
      obtain ⟨queue, fewer, absent⟩ := ih (d.unregister g)
      refine ⟨queue, fewer.trans List.filter_sublist, fun y hy z hz => ?_⟩
      rcases List.mem_cons.1 hy with rfl | hy
      · simpa using (List.mem_filter.1 (fewer.subset hz)).2
      · exact absent y hy z hz
  obtain ⟨queue, fewer, absent⟩ := left ((c.discardable ++ [x]).take 100)
    { c with discardable := (c.discardable ++ [x]).drop 100 }
  exact ⟨rfl, queue, fewer, absent⟩

end Catalog

namespace Session

/-! ## The record -/

/-- The scripts that were discarded, newest first. -/
def discarded (s : Session) : List Script := s.record.filterMap Signal.discarded?

/-- The record between one clearing of the global object and the next, the
newest stretch first. -/
def stretches (s : Session) : List (List Signal) := s.record.splitOnP Signal.clears

theorem registered_eq (s : Session) : s.registered = s.record.filterMap Signal.registered? := by
  rw [registered, record, List.filterMap_filter]
  refine congrArg (List.filterMap · s.journal) (funext fun signal => ?_)
  split
  · rfl
  · rename_i other
    exact Signal.registered?_of_not_ofScripts (Bool.eq_false_iff.2 other)

theorem record_giveWay (s : Session) (previous : Option Script) (script : Script) :
    (s.giveWay previous script).record = s.record := by
  unfold giveWay
  split
  · split <;> rfl
  · rfl

theorem record_attachMap (s : Session) (script : Script) : (s.attachMap script).record = s.record := by
  unfold attachMap
  split
  · exact record_giveWay _ _ script
  · rfl

theorem record_setMapUrl (s : Session) (script : Script) (url : String) :
    (s.setMapUrl script url).record = s.record := by
  have unbound : (s.unbindMap script).record = s.record := by
    unfold unbindMap
    split <;> rfl
  exact (record_attachMap _ script).trans unbound

theorem record_detachAll (s : Session) (scripts : List Script) :
    (s.detachAll scripts).record = s.record := by
  induction scripts generalizing s with
  | nil => rfl
  | cons script rest ih => exact ih _

/-- Clearing the global object leaves no script, and is told once. -/
theorem record_clearGlobalObject (s : Session) :
    s.clearGlobalObject.record = .debugger .globalObjectCleared :: s.record := by
  have forgotten : s.clearPause.forgetScripts.record = s.record :=
    (record_detachAll { s.clearPause with catalog := {} } _).trans (apart_clearPause s).record
  rw [← forgotten]
  rfl

theorem catalog_clearGlobalObject (s : Session) : s.clearGlobalObject.catalog = {} := by
  change ({ s.clearPause with catalog := {} }.detachAll _).catalog = {}
  rw [detachAll_eq]

theorem record_discard (s : Session) (x : Script) :
    (s.discard x).record = evictions (s.catalog.discard x).1 ++ s.record := by
  have told : ∀ (gone : List Script) (t : Session),
      (gone.foldl (fun s x => s.report (.scriptDiscarded x)) t).record = evictions gone ++ t.record := by
    intro gone
    induction gone with
    | nil => exact fun t => rfl
    | cons x rest ih =>
      intro t
      have first : (t.report (.scriptDiscarded x)).record =
          .debugger (.scriptDiscarded x) :: t.record := rfl
      rw [List.foldl_cons, ih, first]
      simp [evictions]
  exact told _ _

/-- What is told between two clearings belongs to the newest stretch. -/
theorem stretches_told {s s' : Session} {now : List Signal} {before : List (List Signal)}
    (new : List Signal) (tells : s'.record = new ++ s.record) (within : ∀ signal ∈ new, signal.clears = false)
    (h : s.stretches = now :: before) : s'.stretches = (new ++ now) :: before := by
  unfold stretches at h ⊢
  rw [tells]
  clear tells
  induction new with
  | nil => exact h
  | cons signal rest ih =>
    have other : signal.clears = false := within signal (by simp)
    rw [List.cons_append, List.splitOnP_cons_eq_if_modifyHead, other, if_neg nofun,
      ih fun later hl => within later (by simp [hl])]
    rfl

/-! ## Every report -/

/-- **What a report does**: nothing if its script is there. Else the script
is registered under the next key, and goes to the queue if it is
discardable. -/
theorem parsed_cases {r : Wire.ScriptReport} {failed : Bool} {s s' : Session}
    (is : (parsed r failed s).2 = s') :
    s' = s ∨ ∃ x, s.catalog.find? x.scriptId = none ∧ x.key = s.nextKey ∧
      s'.registered = x :: s.registered ∧
      (x.isDiscardable = false ∧ s'.catalog.scripts = s.catalog.scripts ++ [x] ∧
          s'.catalog.discardable = s.catalog.discardable ∧
          s'.record = .debugger (.scriptParsed x) :: s.record ∨
        x.isDiscardable = true ∧ s'.catalog = ((s.catalog.register x).discard x).2 ∧
          s'.record = evictions ((s.catalog.register x).discard x).1 ++
            .debugger (.scriptParsed x) :: s.record) := by
  unfold parsed at is
  split at is
  · exact .inl is.symm
  rename_i new
  have id : (Script.ofReport s.nextKey r failed (ofExtension r)).scriptId = r.scriptId := rfl
  have key : (Script.ofReport s.nextKey r failed (ofExtension r)).key = s.nextKey := rfl
  have fails : (Script.ofReport s.nextKey r failed (ofExtension r)).hasSyntaxError = failed := rfl
  generalize Script.ofReport s.nextKey r failed (ofExtension r) = x at is id key fails
  rw [← id] at new
  have scripts : (s.catalog.register x).scripts = s.catalog.scripts ++ [x] :=
    Catalog.scripts_register new
  refine .inr ⟨x, new, key, ?_⟩
  cases failed with
  | false =>
    have only := mapsOnly_attachMap ({ s with nextKey := s.nextKey.next }.register x) x
    have record := record_attachMap ({ s with nextKey := s.nextKey.next }.register x) x
    have catalog := only.catalog
    obtain rfl : ({ s with nextKey := s.nextKey.next }.register x).attachMap x = s' := is
    refine ⟨only.registered, .inl ⟨?_, ?_, ?_, record⟩⟩
    · rw [Script.isDiscardable, fails, Bool.false_and]
    · rw [catalog]
      exact scripts
    · rw [catalog]
      rfl
  | true =>
    by_cases anonymous : x.isAnonymous = true
    · have ledger := ledger_discard ({ s with nextKey := s.nextKey.next }.register x) x
      have record := record_discard ({ s with nextKey := s.nextKey.next }.register x) x
      obtain rfl : ({ s with nextKey := s.nextKey.next }.register x).discard x = s' := by
        simpa [anonymous] using is
      have queued : x.isDiscardable = true := by
        rw [Script.isDiscardable, fails, anonymous, Bool.and_self]
      exact ⟨congrArg Ledger.registered ledger,
        .inr ⟨queued, congrArg Ledger.catalog ledger, record⟩⟩
    · obtain rfl : { s with nextKey := s.nextKey.next }.register x = s' := by
        simpa [anonymous] using is
      refine ⟨rfl, .inl ⟨?_, scripts, rfl, rfl⟩⟩
      rw [Script.isDiscardable, fails, Bool.true_and, Bool.eq_false_iff.2 anonymous]

/-! ## The invariant -/

/-- **Scripts are rationed**: the account of the newest stretch is that of
the queue, and the scripts that were discarded are gone. -/
structure Rationed (s : Session) : Prop where
  /-- The scripts are in order. -/
  inOrder : InOrder s
  /-- Keys tell them apart. -/
  bound : Bound s
  /-- Older stretches have an account too. -/
  accounts : ∃ now before, s.stretches = now :: before ∧ Accounts now s.catalog.discardable ∧
    ∀ stretch ∈ before, ∃ queue, Accounts stretch queue
  /-- What was discarded was registered. -/
  told : ∀ x ∈ s.discarded, x ∈ s.registered
  /-- It is not there. -/
  gone : ∀ x ∈ s.discarded, x ∉ s.catalog.scripts

section Steps

variable {s s' : Session}

/-- Changes that tell nothing of scripts, and leave them there. -/
theorem Rationed.maps (h : Rationed s) (bound : Bound s') (only : MapsOnly s s')
    (record : s'.record = s.record) : Rationed s' := by
  have discarded : s'.discarded = s.discarded := congrArg (List.filterMap _) record
  have scripts : s'.catalog.scripts = s.catalog.scripts := by rw [only.catalog]
  have queue : s'.catalog.discardable = s.catalog.discardable := by rw [only.catalog]
  have stretches : s'.stretches = s.stretches := congrArg (List.splitOnP _) record
  refine ⟨h.inOrder.maps only, bound, ?_, ?_, ?_⟩
  · rw [stretches, queue]
    exact h.accounts
  · rw [discarded, only.registered]
    exact h.told
  · rw [discarded, scripts]
    exact h.gone

/-- A script is registered under a new identifier, and scripts may be
driven out. -/
theorem Rationed.register (h : Rationed s) {x : Script} (gone : List Script)
    (inOrder : InOrder s') (bound : Bound s') (key : x.key = s.nextKey)
    (record : s'.record = evictions gone ++ .debugger (.scriptParsed x) :: s.record)
    (registered : s'.registered = x :: s.registered)
    (scripts : s'.catalog.scripts.Sublist (s.catalog.scripts ++ [x]))
    (there : ∀ y ∈ gone, y ∈ s.catalog.scripts ++ [x])
    (left : ∀ y ∈ gone, y ∉ s'.catalog.scripts)
    (account : ∀ now, Accounts now s.catalog.discardable →
      Accounts (evictions gone ++ .debugger (.scriptParsed x) :: now) s'.catalog.discardable) :
    Rationed s' := by
  obtain ⟨now, before, split, newest, older⟩ := h.accounts
  have discarded : s'.discarded = gone.reverse ++ s.discarded := by
    rw [Session.discarded, record, List.filterMap_append, filterMap_evictions]
    rfl
  have known : ∀ y ∈ s.catalog.scripts, y ∈ s.registered := fun y hy =>
    List.mem_reverse.1 (h.inOrder.order.subset hy)
  refine ⟨inOrder, bound, ?_, fun y hy => ?_, fun y hy => ?_⟩
  · have tells : s'.record = (evictions gone ++ [.debugger (.scriptParsed x)]) ++ s.record := by
      simpa using record
    refine ⟨_, before, stretches_told _ tells (fun signal hs => ?_) split, ?_, older⟩
    · rcases List.mem_append.1 hs with hs | hs
      · obtain ⟨y, -, rfl⟩ := List.mem_map.1 (List.mem_reverse.1 hs)
        rfl
      · rw [List.mem_singleton.1 hs]
        rfl
    · simpa using account now newest
  · rw [discarded, List.mem_append, List.mem_reverse] at hy
    rw [registered]
    rcases hy with hy | hy
    · rcases List.mem_append.1 (there y hy) with hy | hy
      · exact List.mem_cons_of_mem x (known y hy)
      · rw [List.mem_singleton.1 hy]
        exact List.mem_cons_self
    · exact List.mem_cons_of_mem x (h.told y hy)
  · rw [discarded, List.mem_append, List.mem_reverse] at hy
    rcases hy with hy | hy
    · exact left y hy
    · -- What was discarded before has an older key than the script just registered.
      intro back
      rcases List.mem_append.1 (scripts.subset back) with back | back
      · exact h.gone y hy back
      · have older := h.bound.keyed.fresh y (h.told y hy)
        rw [List.mem_singleton.1 back, key] at older
        exact Nat.lt_irrefl _ older

theorem Rationed.parsed (h : Rationed s) (r : Wire.ScriptReport) (failed : Bool) :
    Rationed (Session.parsed r failed s).2 := by
  have inOrder := h.inOrder.parsed r failed
  have bound := h.bound.parsed r failed
  generalize is : (Session.parsed r failed s).2 = s' at inOrder bound ⊢
  rcases parsed_cases is with rfl | ⟨x, new, key, registered,
    ⟨other, scripts, queue, record⟩ | ⟨fails, catalog, record⟩⟩
  · exact h
  · -- The script is not discardable: the queue stays.
    refine h.register [] inOrder bound key record registered (scripts ▸ .refl _)
      (fun y hy => absurd hy List.not_mem_nil) (fun y hy => absurd hy List.not_mem_nil) ?_
    intro now account
    rw [queue]
    exact account.skip other
  have scripts : (s.catalog.register x).scripts = s.catalog.scripts ++ [x] :=
    Catalog.scripts_register new
  have same : (s.catalog.register x).discardable = s.catalog.discardable := rfl
  obtain ⟨now, before, -, newest, -⟩ := h.accounts
  have room := newest.room
  by_cases full : s.catalog.discardable.length + 1 = 1000
  · -- The script is queued, which fills the queue: the oldest ones go, never the script itself.
    rw [← same] at full
    obtain ⟨gone, queue, fewer, absent⟩ := Catalog.discard_of_full (x := x) full
    rw [← catalog] at queue fewer absent
    rw [scripts] at fewer
    refine h.register _ inOrder bound key record registered fewer ?_ ?_ ?_
    · intro y hy
      rw [gone, same] at hy
      rcases List.mem_append.1 (List.mem_of_mem_take hy) with hy | hy
      · exact List.mem_append_left _ (h.inOrder.queued.mem y hy)
      · exact List.mem_append_right _ hy
    · exact fun y hy back => absent y hy y back rfl
    · intro now account
      rw [gone, queue]
      exact account.evict fails full
  · have room : (s.catalog.register x).discardable.length + 1 < 1000 := by
      rw [same]
      omega
    rw [Catalog.discard_of_room room] at catalog record
    refine h.register [] inOrder bound key record registered ?_
      (fun y hy => absurd hy List.not_mem_nil) (fun y hy => absurd hy List.not_mem_nil) ?_
    · rw [catalog]
      exact scripts ▸ .refl _
    · intro now account
      rw [catalog]
      exact account.push fails room

end Steps

theorem lasting_rationed : Lasting Rationed where
  apart s s' apart h := by
    have catalog : s'.catalog = s.catalog := congrArg Ledger.catalog apart.ledger
    have only : MapsOnly s s' :=
      ⟨by rw [catalog], congrArg Ledger.nextKey apart.ledger, congrArg Ledger.registered apart.ledger⟩
    exact h.maps (h.bound.aside apart.ledger) only apart.record
  parsed _ r failed h := h.parsed r failed
  setMapUrl s x url hx h :=
    h.maps (h.bound.setMapUrl hx url) (mapsOnly_setMapUrl s x url) (record_setMapUrl s x url)
  dropContextMaps s id h :=
    h.maps (h.bound.dropContextMaps id) (mapsOnly_dropContextMaps s id) (record_detachAll _ _)
  clearGlobalObject s h := by
    have inOrder := steady_inOrder.lasting.clearGlobalObject s h.inOrder
    have bound := steady_bound.lasting.clearGlobalObject s h.bound
    have record := record_clearGlobalObject s
    have catalog := catalog_clearGlobalObject s
    have discarded : s.clearGlobalObject.discarded = s.discarded := by
      rw [discarded, record]
      rfl
    obtain ⟨now, before, split, newest, older⟩ := h.accounts
    -- The clearing ends the stretch. Its account is kept, and the next one starts with no queue.
    refine ⟨inOrder, bound, ⟨[], now :: before, ?_, ?_, ?_⟩, ?_, ?_⟩
    · rw [stretches, record, List.splitOnP_cons_eq_if_modifyHead]
      exact congrArg ([] :: ·) split
    · rw [catalog]
      exact accounts_nil
    · intro stretch hs
      rcases List.mem_cons.1 hs with rfl | hs
      · exact ⟨_, newest⟩
      · exact older stretch hs
    · rw [discarded, registered_eq, record]
      exact registered_eq s ▸ h.told
    · rw [catalog]
      exact fun _ _ => List.not_mem_nil

theorem rationed_connect (seat : Nat) (target : Target) (settings : Settings) :
    Rationed (connect seat target settings) := by
  have record : (connect seat target settings).record = [] := rfl
  have catalog : (connect seat target settings).catalog = {} := rfl
  refine ⟨inOrder_connect _ _ _, bound_connect _ _ _, ⟨[], [], ?_, ?_, ?_⟩, ?_, ?_⟩
  · rw [stretches, record, List.splitOnP_nil]
  · rw [catalog]
    exact accounts_nil
  · exact fun _ hs => absurd hs List.not_mem_nil
  · rw [discarded, record]
    exact fun _ hx => absurd hx List.not_mem_nil
  · rw [catalog]
    exact fun _ _ => List.not_mem_nil

/-! ## Every run -/

/-- What was told stretch by stretch, if clearings do not count. -/
theorem flatMap_splitOnP {f : Signal → Option Script} (clearing : f (.debugger .globalObjectCleared) = none)
    (record : List Signal) :
    (record.splitOnP Signal.clears).flatMap (List.filterMap f) = record.filterMap f := by
  induction record with
  | nil => simp
  | cons signal rest ih =>
    rw [List.splitOnP_cons_eq_if_modifyHead]
    split
    · rename_i clears
      have is : signal = .debugger .globalObjectCleared := by
        unfold Signal.clears at clears
        split at clears
        · rfl
        · cases clears
      rw [List.flatMap_cons, ih, is, List.filterMap_cons, clearing]
      rfl
    · obtain ⟨now, before, split⟩ := List.exists_cons_of_ne_nil
        (List.splitOnP_ne_nil Signal.clears rest)
      rw [split, List.flatMap_cons] at ih
      rw [split, List.modifyHead_cons, List.flatMap_cons, List.filterMap_cons, List.filterMap_cons, ← ih]
      cases f signal <;> rfl

/-- Scripts are discarded in the order in which they were registered. -/
theorem Rationed.discarded_sublist {s : Session} (h : Rationed s) : s.discarded.Sublist s.registered := by
  have within : ∀ stretch ∈ s.stretches,
      (stretch.filterMap Signal.discarded?).Sublist (stretch.filterMap Signal.registered?) := by
    obtain ⟨now, before, split, newest, older⟩ := h.accounts
    intro stretch hs
    have account : ∃ queue, Accounts stretch queue := by
      rw [split] at hs
      rcases List.mem_cons.1 hs with rfl | hs
      · exact ⟨_, newest⟩
      · exact older stretch hs
    obtain ⟨queue, account⟩ := account
    have first : (discardedIn stretch).Sublist (queuedIn stretch) :=
      account.discarded_eq ▸ List.take_sublist _ _
    exact (List.reverse_sublist.1 first).trans List.filter_sublist
  rw [discarded, registered_eq, ← flatMap_splitOnP rfl, ← flatMap_splitOnP rfl]
  change (s.stretches.flatMap _).Sublist (s.stretches.flatMap _)
  generalize s.stretches = stretches at within
  induction stretches with
  | nil => exact .refl _
  | cons stretch rest ih =>
    rw [List.flatMap_cons, List.flatMap_cons]
    exact (within stretch (by simp)).append (ih fun later hl => within later (by simp [hl]))

/-- **What a further report drives out**: nothing, and its script may be
queued; or, if a script fills the queue, the hundred oldest, and none of
their identifiers is found any more. -/
theorem Rationed.next {s : Session} (h : Rationed s) (r : Wire.ScriptReport) (failed : Bool) :
    let s' := (Session.parsed r failed s).2
    (s'.discarded = s.discarded ∧ (s'.catalog.discardable = s.catalog.discardable ∨
        ∃ x, s'.catalog.discardable = s.catalog.discardable ++ [x])) ∨
      (s.catalog.discardable.length = 999 ∧
        s'.discarded = (s.catalog.discardable.take 100).reverse ++ s.discarded ∧
        (∃ x, s'.catalog.discardable = s.catalog.discardable.drop 100 ++ [x]) ∧
        ∀ y ∈ s.catalog.discardable.take 100, s'.catalog.find? y.scriptId = none) := by
  dsimp only
  generalize is : (Session.parsed r failed s).2 = s'
  rcases parsed_cases is with rfl | ⟨x, -, -, -, ⟨-, -, queue, record⟩ | ⟨-, catalog, record⟩⟩
  · exact .inl ⟨rfl, .inl rfl⟩
  · refine .inl ⟨?_, .inl queue⟩
    rw [discarded, record]
    rfl
  have same : (s.catalog.register x).discardable = s.catalog.discardable := rfl
  obtain ⟨now, before, -, newest, -⟩ := h.accounts
  have room := newest.room
  by_cases full : s.catalog.discardable.length + 1 = 1000
  · rw [← same] at full
    obtain ⟨gone, queue, -, absent⟩ := Catalog.discard_of_full (x := x) full
    rw [← catalog] at queue absent
    rw [same] at full gone queue
    have enough : 100 ≤ s.catalog.discardable.length := by omega
    rw [List.take_append_of_le_length enough] at gone
    rw [List.drop_append_of_le_length enough] at queue
    rw [gone] at record absent
    refine .inr ⟨by omega, ?_, ⟨x, queue⟩, fun y hy => ?_⟩
    · rw [discarded, record, List.filterMap_append, filterMap_evictions]
      rfl
    · exact List.find?_eq_none.2 fun z hz found => absent y hy z hz (beq_iff_eq.1 found)
  · have room : (s.catalog.register x).discardable.length + 1 < 1000 := by
      rw [same]
      omega
    rw [Catalog.discard_of_room room] at catalog record
    refine .inl ⟨?_, .inr ⟨x, ?_⟩⟩
    · rw [discarded, record]
      rfl
    · rw [catalog]
      rfl

/-- **Discards are accounted for**, whatever was reported, cleared, enabled
and disabled, in any order. The queue has fewer than a thousand scripts,
each once; they are anonymous, failed to parse, and are found by their
identifiers. What was queued since the last clearing was discarded or is in
the queue, in the order it was parsed, and between any two clearings the
scripts that were discarded are the first so many of those that were queued
(`drivenOut`). No script is discarded twice, or out of order, or is there
afterwards. A further report discards none, or the hundred oldest when a
script fills the queue, and then none of their identifiers is found. -/
theorem discards_accounted (seat : Nat) (target : Target) (settings : Settings)
    (moves : List (Flow.Move ScriptCall (Ticket × Reply))) :
    let s := afterScripts seat target settings moves
    s.catalog.discardable.length < 1000 ∧
      (∀ x ∈ s.catalog.discardable, x.isAnonymous = true ∧ x.hasSyntaxError = true ∧
        s.catalog.find? x.scriptId = some x) ∧
      (s.catalog.discardable.map (·.scriptId)).Nodup ∧
      (∃ now before, s.stretches = now :: before ∧
        queuedIn now = discardedIn now ++ s.catalog.discardable) ∧
      (∀ stretch ∈ s.stretches,
        discardedIn stretch = (queuedIn stretch).take (drivenOut (queuedIn stretch).length)) ∧
      s.discarded.Nodup ∧ s.discarded.Sublist s.registered ∧
      (∀ x ∈ s.discarded, s.catalog.find? x.scriptId ≠ some x) ∧
      ∀ (r : Wire.ScriptReport) (failed : Bool), let s' := (Session.parsed r failed s).2
        (s'.discarded = s.discarded ∧ (s'.catalog.discardable = s.catalog.discardable ∨
            ∃ x, s'.catalog.discardable = s.catalog.discardable ++ [x])) ∨
          (s.catalog.discardable.length = 999 ∧
            s'.discarded = (s.catalog.discardable.take 100).reverse ++ s.discarded ∧
            (∃ x, s'.catalog.discardable = s.catalog.discardable.drop 100 ++ [x]) ∧
            ∀ y ∈ s.catalog.discardable.take 100, s'.catalog.find? y.scriptId = none) := by
  intro s
  have rationed : Rationed s :=
    lasting_rationed.after seat target settings (rationed_connect _ _ _) moves
  have sublist := rationed.discarded_sublist
  have filed := rationed.inOrder.filed
  have queue := rationed.inOrder.queued
  have apart : s.registered.Nodup := by
    refine rationed.bound.keyed.rising.imp fun {x y} lt same => ?_
    rw [same] at lt
    exact Nat.lt_irrefl _ lt
  obtain ⟨now, before, split, newest, older⟩ := rationed.accounts
  refine ⟨newest.room, fun x hx => ⟨queue.anonymous x hx, ?_, ?_⟩, queue.once,
    ⟨now, before, split, newest.queued⟩, fun stretch hs => ?_, apart.sublist sublist, sublist,
    fun x hx found => ?_, rationed.next⟩
  · -- What is in the queue was queued, so it is discardable.
    have queued : x ∈ queuedIn now := newest.queued ▸ List.mem_append_right _ hx
    have fails := (List.mem_filter.1 (List.mem_reverse.1 queued)).2
    exact (Bool.and_eq_true_iff.1 fails).1
  · exact filed.find?_iff.2 ⟨queue.mem x hx, rfl⟩
  · rw [split] at hs
    rcases List.mem_cons.1 hs with rfl | hs
    · exact newest.discarded_eq
    · obtain ⟨_, account⟩ := older stretch hs
      exact account.discarded_eq
  · exact rationed.gone x hx (filed.find?_iff.1 found).1

end Session

end DebugClient
