import Mathlib.Data.List.Nodup
import DebugClient.Listener.Dispatcher
/-!
# Reentry — listeners that change the dispatcher that calls them

While a listener is called it may add listeners, remove some and dispatch
further events, to any finite depth. `Behaviour` is what one call does,
`Scene.dispatch` a dispatch whose listeners behave so, and the log of a
`Scene` says in which order everything happened. `Orderly` states what
can be read off such a log, and `orderly_of_perform` that it holds of
every run that ends.
-/

namespace DebugClient.Reentry

variable {α ε σ : Type}

/-- What code does that holds the dispatcher: a listener while it is
called, or whoever created the dispatcher. The kinds `α` of listeners
are arbitrary, so a listener may add listeners of its own kind. -/
inductive Behaviour (α ε σ : Type) where
  /-- Nothing more. -/
  | done
  /-- Reads what is shared with others, and goes on by it. -/
  | look (next : σ → Behaviour α ε σ)
  /-- Writes what is shared with others. -/
  | put (world : σ) (next : Behaviour α ε σ)
  /-- Asks whether the dispatcher has no listener. -/
  | ask (next : Bool → Behaviour α ε σ)
  /-- Adds a listener and learns its name. -/
  | add (listener : α) (next : ListenerId → Behaviour α ε σ)
  /-- Removes a name and learns whether it was there. -/
  | remove (id : ListenerId) (next : Bool → Behaviour α ε σ)
  /-- Dispatches an event, which is over before the code goes on. -/
  | dispatch (event : ε) (next : Behaviour α ε σ)

/-- One entry of a log. Dispatches are numbered in the order they begin. -/
inductive Note (α ε : Type) where
  | added (id : ListenerId) (listener : α)
  | removed (id : ListenerId) (was : Bool)
  | began (number : Nat) (event : ε)
  | called (number : Nat) (listener : α) (event : ε)
  | ended (number : Nat)
  deriving DecidableEq

/-- A dispatcher with what its listeners share. -/
structure Scene (α ε σ : Type) where
  world : σ
  dispatcher : Dispatcher α := {}
  /-- How many dispatches have begun. -/
  begun : Nat := 0
  /-- What has happened, oldest first. -/
  log : List (Note α ε) := []

/-- Writes to the log. -/
def Scene.note (s : Scene α ε σ) (n : Note α ε) : Scene α ε σ := { s with log := s.log ++ [n] }

/-- Adds a listener. -/
def Scene.add (s : Scene α ε σ) (listener : α) : Scene α ε σ :=
  { s with dispatcher := (s.dispatcher.add listener).2 }.note
    (.added (s.dispatcher.add listener).1 listener)

/-- Removes a name; the answer is whether it was there. -/
def Scene.remove (s : Scene α ε σ) (id : ListenerId) : Scene α ε σ :=
  { s with dispatcher := s.dispatcher.remove id }.note (.removed id (s.dispatcher.has id))

/-- Begins a dispatch. -/
def Scene.begin (s : Scene α ε σ) (event : ε) : Scene α ε σ :=
  { s with begun := s.begun + 1 }.note (.began s.begun event)

section Fields

variable (s : Scene α ε σ)

@[simp] theorem log_note (n : Note α ε) : (s.note n).log = s.log ++ [n] := rfl

@[simp] theorem begun_note (n : Note α ε) : (s.note n).begun = s.begun := rfl

@[simp] theorem dispatcher_note (n : Note α ε) : (s.note n).dispatcher = s.dispatcher := rfl

@[simp] theorem log_add (l : α) :
    (s.add l).log = s.log ++ [.added s.dispatcher.nextId l] := rfl

@[simp] theorem begun_add (l : α) : (s.add l).begun = s.begun := rfl

@[simp] theorem log_remove (id : ListenerId) :
    (s.remove id).log = s.log ++ [.removed id (s.dispatcher.has id)] := rfl

@[simp] theorem begun_remove (id : ListenerId) : (s.remove id).begun = s.begun := rfl

@[simp] theorem log_begin (e : ε) : (s.begin e).log = s.log ++ [.began s.begun e] := rfl

@[simp] theorem dispatcher_begin (e : ε) : (s.begin e).dispatcher = s.dispatcher := rfl

end Fields

/-- Runs a behaviour, given what a dispatch does. -/
def Behaviour.perform (dispatch : ε → Scene α ε σ → Option (Scene α ε σ)) :
    Behaviour α ε σ → Scene α ε σ → Option (Scene α ε σ)
  | .done, s => some s
  | .look next, s => (next s.world).perform dispatch s
  | .put world next, s => next.perform dispatch { s with world }
  | .ask next, s => (next s.dispatcher.isEmpty).perform dispatch s
  | .add l next, s => (next (s.dispatcher.add l).1).perform dispatch (s.add l)
  | .remove id next, s => (next (s.dispatcher.has id)).perform dispatch (s.remove id)
  | .dispatch e next, s => (dispatch e s).bind (next.perform dispatch)

/-- Dispatches an event to listeners that behave as `react` says, with
dispatches nested to a depth at most; `none` if that does not suffice. -/
def Scene.dispatch (react : α → ε → Behaviour α ε σ) :
    Nat → ε → Scene α ε σ → Option (Scene α ε σ)
  | 0, _, _ => none
  | depth + 1, e, s =>
    (s.dispatcher.notify (fun l o => o.bind fun s' =>
      (react l e).perform (dispatch react depth) (s'.note (.called s.begun l e)))
      (some (s.begin e))).map (·.note (.ended s.begun))

/-! ## What a log says -/

/-- Whether an entry is the removal of a name. -/
def Note.removes (id : ListenerId) : Note α ε → Bool
  | .removed id' _ => id' == id
  | _ => false

/-- The listeners that were added and have not been removed since, in the
order they were added. -/
def registered : List (Note α ε) → List (ListenerId × α)
  | [] => []
  | .added id l :: later =>
    if later.any (Note.removes id) then registered later else (id, l) :: registered later
  | _ :: later => registered later

/-- The names that were given out. -/
def names (notes : List (Note α ε)) : List ListenerId :=
  notes.filterMap fun | .added id _ => some id | _ => none

/-- The names whose removal succeeded. -/
def taken (notes : List (Note α ε)) : List ListenerId :=
  notes.filterMap fun | .removed id true => some id | _ => none

/-- The numbers of the dispatches that began. -/
def openings (notes : List (Note α ε)) : List Nat :=
  notes.filterMap fun | .began k _ => some k | _ => none

/-- The calls that the dispatch of a number made. -/
def calls (number : Nat) (notes : List (Note α ε)) : List (α × ε) :=
  notes.filterMap fun
    | .called k l e => if k = number then some (l, e) else none
    | _ => none

/-- Every dispatch that begins in `news`, with `base` before it, has
called nobody yet, and calls before it ends exactly the listeners that
are registered where it begins, in their order, and nobody afterwards. -/
def Served (base news : List (Note α ε)) : Prop :=
  ∀ earlier k e later, news = earlier ++ .began k e :: later →
    calls k (base ++ earlier) = [] ∧
    ∃ inside after, later = inside ++ .ended k :: after ∧
      calls k inside = (registered (base ++ earlier)).map (fun l => (l.2, e)) ∧
      calls k after = []

/-- Every removal that succeeds takes out one listener, the one its name
was given out for; every one that fails takes out none. -/
def Exact (notes : List (Note α ε)) : Prop :=
  ∀ earlier id was later, notes = earlier ++ .removed id was :: later →
    (was = true ∧ ∃ l front back, .added id l ∈ earlier ∧
      registered earlier = front ++ (id, l) :: back ∧
      registered (earlier ++ [.removed id was]) = front ++ back) ∨
    (was = false ∧ (∀ l, (id, l) ∉ registered earlier) ∧
      registered (earlier ++ [.removed id was]) = registered earlier)

/-- What the log of a dispatcher from its creation on is like. -/
structure Orderly (notes : List (Note α ε)) : Prop where
  /-- Each dispatch calls the listeners registered at its start. -/
  served : Served [] notes
  /-- No two dispatches have a number in common. -/
  numbered : (openings notes).Nodup
  /-- No name is given out twice. -/
  distinct : (names notes).Nodup
  /-- A removal takes out the listener of its name. -/
  exact : Exact notes
  /-- No name is removed twice. -/
  once : (taken notes).Nodup

section Log

variable (notes more : List (Note α ε)) (id : ListenerId)

@[simp] theorem names_append : names (notes ++ more) = names notes ++ names more :=
  List.filterMap_append

@[simp] theorem taken_append : taken (notes ++ more) = taken notes ++ taken more :=
  List.filterMap_append

@[simp] theorem openings_append : openings (notes ++ more) = openings notes ++ openings more :=
  List.filterMap_append

@[simp] theorem calls_append (k : Nat) : calls k (notes ++ more) = calls k notes ++ calls k more :=
  List.filterMap_append

/-- A listener that is added comes last. -/
theorem registered_added (l : α) :
    registered (notes ++ [.added id l]) = registered notes ++ [(id, l)] := by
  induction notes with
  | nil => rfl
  | cons n notes ih =>
    cases n with
    | added id' l' =>
      have hlater : (notes ++ [Note.added id l]).any (Note.removes id') =
          notes.any (Note.removes id') := by
        rw [List.any_append]
        exact Bool.or_false _
      rw [List.cons_append, registered, registered, hlater, ih]
      split <;> rfl
    | _ => exact ih

/-- A removal takes out what has its name. -/
theorem registered_removed (was : Bool) :
    registered (notes ++ [.removed id was]) = (registered notes).filter (·.1 != id) := by
  induction notes with
  | nil => rfl
  | cons n notes ih =>
    cases n with
    | added id' l' =>
      have hlater : (notes ++ [Note.removed id was]).any (Note.removes (α := α) id') =
          (notes.any (Note.removes id') || id == id') := by
        rw [List.any_append]
        exact congrArg _ (Bool.or_false _)
      rw [List.cons_append, registered, registered, hlater, ih]
      cases notes.any (Note.removes id') with
      | true => rfl
      | false =>
        by_cases hid : id = id'
        · simp [hid]
        · simp [hid, Ne.symm hid]
    | _ => exact ih

/-- Any other entry leaves the registered as they are. -/
theorem registered_other {n : Note α ε} (hadd : ∀ id l, n ≠ .added id l)
    (hremove : ∀ id was, n ≠ .removed id was) : registered (notes ++ [n]) = registered notes := by
  induction notes with
  | nil =>
    cases n with
    | added id l => exact absurd rfl (hadd id l)
    | _ => rfl
  | cons n' notes ih =>
    cases n' with
    | added id' l' =>
      have hlater : (notes ++ [n]).any (Note.removes id') = notes.any (Note.removes id') := by
        rw [List.any_append]
        cases n with
        | removed id was => exact absurd rfl (hremove id was)
        | _ => exact Bool.or_false _
      rw [List.cons_append, registered, registered, hlater, ih]
    | _ => exact ih

/-- Whoever is registered was added under that name. -/
theorem added_mem_of_registered {id : ListenerId} {l : α}
    (h : (id, l) ∈ registered notes) : .added id l ∈ notes := by
  induction notes with
  | nil => simp [registered] at h
  | cons n notes ih =>
    cases n with
    | added id' l' =>
      simp only [registered] at h
      split at h
      · exact List.mem_cons_of_mem _ (ih h)
      · rcases List.mem_cons.1 h with heq | h
        · cases heq
          exact List.mem_cons_self
        · exact List.mem_cons_of_mem _ (ih h)
    | _ => exact List.mem_cons_of_mem _ (ih h)

/-- The names of the registered are among those given out, in their
order. -/
theorem registered_sublist_names : ((registered notes).map Prod.fst).Sublist (names notes) := by
  induction notes with
  | nil => exact List.Sublist.refl _
  | cons n notes ih =>
    cases n with
    | added id' l' =>
      simp only [registered]
      split
      · exact List.Sublist.cons _ ih
      · exact List.Sublist.cons_cons _ ih
    | _ => exact ih

end Log

/-! ## What a run keeps -/

/-- What holds of a scene at any time: its dispatcher has the listeners
its log says, and the names and numbers still to come are fresh. -/
structure Faithful (s : Scene α ε σ) : Prop where
  listeners : s.dispatcher.listeners = registered s.log
  named : ∀ id ∈ names s.log, id < s.dispatcher.nextId
  distinct : (names s.log).Nodup
  opened : ∀ k ∈ openings s.log, k < s.begun
  numbered : (openings s.log).Nodup
  silent : ∀ k, s.begun ≤ k → calls k s.log = []
  exact : Exact s.log
  gone : ∀ id ∈ taken s.log, id ∈ names s.log ∧ ∀ l, (id, l) ∉ registered s.log
  once : (taken s.log).Nodup

/-- How a scene goes on while the dispatch `serving` waits for it: what
is new in the log is served, its numbers are new as well, and no dispatch
from before calls anybody, unless it is `serving`. -/
structure Proceeds (serving : Option Nat) (s s' : Scene α ε σ) (news : List (Note α ε)) :
    Prop where
  log : s'.log = s.log ++ news
  begun : s.begun ≤ s'.begun
  opened : ∀ k ∈ openings news, s.begun ≤ k ∧ k < s'.begun
  silent : ∀ k, k < s.begun → some k ≠ serving → calls k news = []
  served : Served s.log news

/-- What nobody dispatches in is served. -/
theorem served_of_openings {base news : List (Note α ε)} (h : openings news = []) :
    Served base news := by
  rintro earlier k e later rfl
  simp [openings] at h

/-- Two stretches are served if each is and the second has no call of a
dispatch of the first. -/
theorem Served.append {base xs ys : List (Note α ε)} (hx : Served base xs)
    (hy : Served (base ++ xs) ys) (hquiet : ∀ k ∈ openings xs, calls k ys = []) :
    Served base (xs ++ ys) := by
  intro earlier k e later h
  rcases List.append_eq_append_iff.1 h with ⟨mid, rfl, hys⟩ | ⟨mid, hxs, hmid⟩
  · simpa using hy mid k e later hys
  · cases mid with
    | nil =>
      obtain rfl : xs = earlier := by simpa using hxs
      simpa using hy [] k e later hmid.symm
    | cons n mid =>
      obtain ⟨rfl, rfl⟩ : .began k e = n ∧ later = mid ++ ys := by simpa using hmid
      obtain ⟨hbefore, inside, after, rfl, hinside, hafter⟩ := hx earlier k e mid hxs
      have hk : k ∈ openings xs := by
        rw [hxs]
        simp [openings]
      exact ⟨hbefore, inside, after ++ ys, by simp, hinside, by simp [hafter, hquiet k hk]⟩

/-- A dispatch is served if the calls between its beginning and its end
are those of the registered listeners. -/
theorem served_dispatch {base inside : List (Note α ε)} {k : Nat} {e : ε}
    (hbefore : calls k base = []) (hinside : Served (base ++ [.began k e]) inside)
    (hcalls : calls k inside = (registered base).map (fun l => (l.2, e))) :
    Served base (.began k e :: (inside ++ [.ended k])) := by
  intro earlier k' e' later h
  cases earlier with
  | nil =>
    obtain ⟨⟨rfl, rfl⟩, rfl⟩ : (k = k' ∧ e = e') ∧ inside ++ [.ended k] = later := by
      simpa using h
    exact ⟨by simpa using hbefore, inside, [], by simp, by simpa using hcalls, rfl⟩
  | cons n earlier =>
    obtain ⟨rfl, htail⟩ : .began k e = n ∧
        inside ++ [.ended k] = earlier ++ .began k' e' :: later := by simpa using h
    have hrest : Served (base ++ [.began k e]) (inside ++ [.ended k]) :=
      hinside.append (served_of_openings rfl) (fun _ _ => rfl)
    simpa using hrest earlier k' e' later htail

/-- A removal at the end of a log is exact if what came before is. -/
theorem Exact.concat {notes : List (Note α ε)} {n : Note α ε} (h : Exact notes)
    (hn : ∀ id was, n = .removed id was →
      (was = true ∧ ∃ l front back, .added id l ∈ notes ∧
        registered notes = front ++ (id, l) :: back ∧
        registered (notes ++ [.removed id was]) = front ++ back) ∨
      (was = false ∧ (∀ l, (id, l) ∉ registered notes) ∧
        registered (notes ++ [.removed id was]) = registered notes)) :
    Exact (notes ++ [n]) := by
  intro earlier id was later heq
  rcases List.eq_nil_or_concat later with rfl | ⟨later, last, rfl⟩
  · obtain ⟨rfl, hlast⟩ := List.append_inj' heq rfl
    exact hn id was (by simpa using hlast)
  · rw [List.concat_eq_append, ← List.cons_append, ← List.append_assoc] at heq
    exact h earlier id was later (List.append_inj' heq rfl).1

/-- The names of the registered are distinct. -/
theorem Faithful.keys_nodup {s : Scene α ε σ} (h : Faithful s) :
    ((registered s.log).map Prod.fst).Nodup :=
  h.distinct.sublist (registered_sublist_names s.log)

/-- A removal answers whether the name is registered. -/
theorem Faithful.has_iff {s : Scene α ε σ} (h : Faithful s) {id : ListenerId} :
    s.dispatcher.has id = true ↔ ∃ l, (id, l) ∈ registered s.log := by
  simp [Dispatcher.has, h.listeners]

/-- The beginning of a dispatch, with a number of its own. -/
theorem Faithful.begin {s : Scene α ε σ} (h : Faithful s) (e : ε) : Faithful (s.begin e) := by
  have hopenings : openings (s.begin e).log = openings s.log ++ [s.begun] := by simp [openings]
  have hregistered : registered (s.begin e).log = registered s.log :=
    registered_other _ (by simp) (by simp)
  refine ⟨h.listeners.trans hregistered.symm, ?_, ?_, ?_, ?_, ?_, ?_, ?_, ?_⟩
  · simpa [names] using h.named
  · simpa [names] using h.distinct
  · intro k hk
    rw [hopenings, List.mem_append, List.mem_singleton] at hk
    rcases hk with hk | rfl
    · exact Nat.lt_succ_of_lt (h.opened k hk)
    · exact Nat.lt_succ_self _
  · rw [hopenings, ← List.concat_eq_append]
    exact h.numbered.concat fun hk => absurd (h.opened _ hk) (Nat.lt_irrefl _)
  · intro k hk
    have hk : s.begun ≤ k := Nat.le_of_succ_le hk
    simpa [calls] using h.silent k hk
  · exact h.exact.concat (by simp)
  · rw [hregistered]
    simpa [names, taken] using h.gone
  · simpa [taken] using h.once

/-- A call of a dispatch that has begun, or the end of one. -/
theorem Faithful.note {s : Scene α ε σ} (h : Faithful s) {n : Note α ε}
    (hn : (∃ k l e, k < s.begun ∧ n = .called k l e) ∨ ∃ k, n = .ended k) :
    Faithful (s.note n) := by
  have hregistered : registered (s.note n).log = registered s.log := by
    refine registered_other _ ?_ ?_ <;> rcases hn with ⟨_, _, _, _, rfl⟩ | ⟨_, rfl⟩ <;> simp
  have hnone : names [n] = [] ∧ taken [n] = [] ∧ openings [n] = [] := by
    rcases hn with ⟨_, _, _, _, rfl⟩ | ⟨_, rfl⟩ <;> exact ⟨rfl, rfl, rfl⟩
  refine ⟨h.listeners.trans hregistered.symm, ?_, ?_, ?_, ?_, ?_, ?_, ?_, ?_⟩
  · simpa [hnone] using h.named
  · simpa [hnone] using h.distinct
  · simpa [hnone] using h.opened
  · simpa [hnone] using h.numbered
  · intro k hk
    rw [log_note, calls_append, h.silent k hk]
    rcases hn with ⟨k', _, _, hk', rfl⟩ | ⟨_, rfl⟩
    · have hne : k' ≠ k := Nat.ne_of_lt (Nat.lt_of_lt_of_le hk' hk)
      simp [calls, hne]
    · rfl
  · exact h.exact.concat (by rcases hn with ⟨_, _, _, _, rfl⟩ | ⟨_, rfl⟩ <;> simp)
  · rw [hregistered]
    simpa [hnone] using h.gone
  · simpa [hnone] using h.once

/-- A listener that is added has a name nobody had before. -/
theorem Faithful.add {s : Scene α ε σ} (h : Faithful s) (l : α) : Faithful (s.add l) := by
  have hfresh : s.dispatcher.nextId ∉ names s.log :=
    fun hid => absurd (h.named _ hid) (Nat.lt_irrefl _)
  have hnames : names (s.add l).log = names s.log ++ [s.dispatcher.nextId] := by simp [names]
  have hregistered : registered (s.add l).log =
      registered s.log ++ [(s.dispatcher.nextId, l)] := registered_added _ _ _
  refine ⟨?_, ?_, ?_, ?_, ?_, ?_, ?_, ?_, ?_⟩
  · rw [hregistered, ← h.listeners]
    rfl
  · intro id hid
    rw [hnames, List.mem_append, List.mem_singleton] at hid
    rcases hid with hid | rfl
    · exact Nat.lt_succ_of_lt (h.named id hid)
    · exact Nat.lt_succ_self _
  · rw [hnames, ← List.concat_eq_append]
    exact h.distinct.concat hfresh
  · simpa [openings] using h.opened
  · simpa [openings] using h.numbered
  · simpa [calls] using h.silent
  · exact h.exact.concat (by simp)
  · intro id hid
    obtain ⟨hmem, hout⟩ := h.gone id (by simpa [taken] using hid)
    refine ⟨by simp [hmem], fun l' hl' => ?_⟩
    rw [hregistered, List.mem_append, List.mem_singleton] at hl'
    rcases hl' with hl' | heq
    · exact hout l' hl'
    · exact hfresh ((Prod.mk.inj heq).1 ▸ hmem)
  · simpa [taken] using h.once

/-- Among entries with distinct names, those of other names than one
entry's are those around it. -/
theorem filter_ne_of_nodup {front back : List (ListenerId × α)} {id : ListenerId} {l : α}
    (h : ((front ++ (id, l) :: back).map Prod.fst).Nodup) :
    (front ++ (id, l) :: back).filter (·.1 != id) = front ++ back := by
  rw [List.map_append, List.map_cons, List.nodup_middle, List.nodup_cons, List.mem_append,
    not_or] at h
  have hother : ∀ entries : List (ListenerId × α), id ∉ entries.map Prod.fst →
      entries.filter (·.1 != id) = entries := by
    intro entries hid
    refine List.filter_eq_self.2 fun entry hentry => ?_
    rw [bne_iff_ne]
    rintro rfl
    exact hid (List.mem_map_of_mem hentry)
  rw [List.filter_append, List.filter_cons_of_neg (by simp), hother front h.1.1,
    hother back h.1.2]

/-- A removal takes out the listener of its name and no other. -/
theorem Faithful.remove {s : Scene α ε σ} (h : Faithful s) (id : ListenerId) :
    Faithful (s.remove id) := by
  have hnames : names (s.remove id).log = names s.log := by simp [names]
  have hregistered : registered (s.remove id).log =
      (registered s.log).filter (·.1 != id) := registered_removed _ _ _
  refine ⟨?_, ?_, ?_, ?_, ?_, ?_, ?_, ?_, ?_⟩
  · rw [hregistered, ← h.listeners]
    rfl
  · rw [hnames]
    exact h.named
  · rw [hnames]
    exact h.distinct
  · simpa [openings] using h.opened
  · simpa [openings] using h.numbered
  · simpa [calls] using h.silent
  · refine h.exact.concat fun id' was heq => ?_
    obtain ⟨rfl, rfl⟩ := Note.removed.inj heq
    rw [registered_removed]
    cases hwas : s.dispatcher.has id with
    | true =>
      obtain ⟨l, hl⟩ := h.has_iff.1 hwas
      obtain ⟨front, back, hsplit⟩ := List.append_of_mem hl
      refine .inl ⟨rfl, l, front, back, added_mem_of_registered _ hl, hsplit, ?_⟩
      rw [hsplit]
      exact filter_ne_of_nodup (hsplit ▸ h.keys_nodup)
    | false =>
      have hout : ∀ l, (id, l) ∉ registered s.log := fun l hl =>
        absurd (h.has_iff.2 ⟨l, hl⟩) (by simp [hwas])
      refine .inr ⟨rfl, hout, List.filter_eq_self.2 ?_⟩
      rintro ⟨id', l⟩ hl
      rw [bne_iff_ne]
      rintro rfl
      exact hout l hl
  · intro id' hid'
    rw [hnames, hregistered]
    rw [log_remove, taken_append, List.mem_append] at hid'
    rcases hid' with hid' | hid'
    · obtain ⟨hmem, hout⟩ := h.gone id' hid'
      exact ⟨hmem, fun l hl => hout l (List.mem_filter.1 hl).1⟩
    · cases hwas : s.dispatcher.has id with
      | true =>
        obtain rfl : id' = id := by simpa [taken, hwas] using hid'
        obtain ⟨l, hl⟩ := h.has_iff.1 hwas
        refine ⟨(registered_sublist_names s.log).subset (List.mem_map_of_mem hl), ?_⟩
        simp
      | false => simp [taken, hwas] at hid'
  · cases hwas : s.dispatcher.has id with
    | true =>
      obtain ⟨l, hl⟩ := h.has_iff.1 hwas
      have htaken : taken (s.remove id).log = taken s.log ++ [id] := by simp [taken, hwas]
      rw [htaken, ← List.concat_eq_append]
      exact h.once.concat fun hid => (h.gone id hid).2 l hl
    | false =>
      have htaken : taken (s.remove id).log = taken s.log := by simp [taken, hwas]
      rw [htaken]
      exact h.once

/-! ## Runs -/

/-- The stretches of two steps, one after the other. -/
theorem Proceeds.trans {serving : Option Nat} {s₁ s₂ s₃ : Scene α ε σ} {xs ys : List (Note α ε)}
    (hx : Proceeds serving s₁ s₂ xs) (hy : Proceeds serving s₂ s₃ ys)
    (hserving : ∀ k ∈ serving, k < s₁.begun) : Proceeds serving s₁ s₃ (xs ++ ys) where
  log := by rw [hy.log, hx.log, List.append_assoc]
  begun := Nat.le_trans hx.begun hy.begun
  opened := by
    intro k hk
    rw [openings_append, List.mem_append] at hk
    rcases hk with hk | hk
    · exact ⟨(hx.opened k hk).1, Nat.lt_of_lt_of_le (hx.opened k hk).2 hy.begun⟩
    · exact ⟨Nat.le_trans hx.begun (hy.opened k hk).1, (hy.opened k hk).2⟩
  silent := by
    intro k hk hne
    rw [calls_append, hx.silent k hk hne, hy.silent k (Nat.lt_of_lt_of_le hk hx.begun) hne]
    rfl
  served := by
    refine hx.served.append (hx.log ▸ hy.served) fun k hk => ?_
    obtain ⟨hle, hlt⟩ := hx.opened k hk
    exact hy.silent k hlt fun heq => absurd (hserving k heq.symm) (Nat.not_lt.2 hle)

/-- Nothing new in the log. -/
theorem Proceeds.of_log_eq {serving : Option Nat} {s s' : Scene α ε σ} (hlog : s'.log = s.log)
    (hbegun : s'.begun = s.begun) : Proceeds serving s s' [] where
  log := by rw [hlog, List.append_nil]
  begun := Nat.le_of_eq hbegun.symm
  opened := by simp [openings]
  silent := by simp [calls]
  served := served_of_openings rfl

/-- One new entry that opens no dispatch and is no call. -/
theorem Proceeds.of_note {serving : Option Nat} {s s' : Scene α ε σ} {n : Note α ε}
    (hlog : s'.log = s.log ++ [n]) (hbegun : s'.begun = s.begun) (hopen : openings [n] = [])
    (hcalls : ∀ k, some k ≠ serving → calls k [n] = []) : Proceeds serving s s' [n] where
  log := hlog
  begun := Nat.le_of_eq hbegun.symm
  opened := by simp [hopen]
  silent := fun k _ hne => hcalls k hne
  served := served_of_openings hopen

/-- That what runs goes on from scene to scene. -/
def Sound (run : Scene α ε σ → Option (Scene α ε σ)) : Prop :=
  ∀ ⦃s s'⦄, Faithful s → run s = some s' → Faithful s' ∧ ∃ news, Proceeds none s s' news

/-- **What a behaviour keeps**, if dispatches keep it. -/
theorem Behaviour.sound {dispatch : ε → Scene α ε σ → Option (Scene α ε σ)}
    (hd : ∀ e, Sound (dispatch e)) (b : Behaviour α ε σ) : Sound (b.perform dispatch) := by
  induction b with
  | done =>
    rintro s _ h ⟨⟩
    exact ⟨h, [], .of_log_eq rfl rfl⟩
  | look next ih => exact fun s s' h hrun => ih s.world h hrun
  | put world next ih =>
    intro s s' h hrun
    have hput : Faithful { s with world } :=
      ⟨h.listeners, h.named, h.distinct, h.opened, h.numbered, h.silent, h.exact, h.gone, h.once⟩
    have hquiet : Proceeds none s { s with world } [] := .of_log_eq rfl rfl
    obtain ⟨h', news, hnews⟩ := ih hput hrun
    exact ⟨h', news, hquiet.trans hnews (by simp)⟩
  | ask next ih => exact fun s s' h hrun => ih _ h hrun
  | add l next ih =>
    intro s s' h hrun
    obtain ⟨h', news, hnews⟩ := ih _ (h.add l) hrun
    exact ⟨h', _, (Proceeds.of_note (log_add s l) rfl rfl fun _ _ => rfl).trans hnews (by simp)⟩
  | remove id next ih =>
    intro s s' h hrun
    obtain ⟨h', news, hnews⟩ := ih _ (h.remove id) hrun
    exact ⟨h', _, (Proceeds.of_note (log_remove s id) rfl rfl fun _ _ => rfl).trans hnews
      (by simp)⟩
  | dispatch e next ih =>
    intro s s' h hrun
    obtain ⟨s₁, hfirst, hrest⟩ := Option.bind_eq_some_iff.1 hrun
    obtain ⟨h₁, xs, hxs⟩ := hd e h hfirst
    obtain ⟨h', ys, hys⟩ := ih h₁ hrest
    exact ⟨h', _, hxs.trans hys (by simp)⟩

/-- Calls listeners one after the other, as a dispatch of a number. -/
def rounds (dispatch : ε → Scene α ε σ → Option (Scene α ε σ)) (react : α → ε → Behaviour α ε σ)
    (k : Nat) (e : ε) : List (ListenerId × α) → Option (Scene α ε σ) → Option (Scene α ε σ)
  | [], o => o
  | l :: ls, o => rounds dispatch react k e ls
      (o.bind fun s => (react l.2 e).perform dispatch (s.note (.called k l.2 e)))

/-- A dispatch begins, calls the listeners there are then, and ends. -/
theorem dispatch_succ (react : α → ε → Behaviour α ε σ) (depth : Nat) (e : ε) (s : Scene α ε σ) :
    Scene.dispatch react (depth + 1) e s =
      (rounds (Scene.dispatch react depth) react s.begun e s.dispatcher.listeners
        (some (s.begin e))).map (·.note (.ended s.begun)) := by
  have hfold : ∀ (ls : List (ListenerId × α)) (o : Option (Scene α ε σ)),
      ls.foldl (fun o l => o.bind fun s' => (react l.2 e).perform (Scene.dispatch react depth)
        (s'.note (.called s.begun l.2 e))) o =
      rounds (Scene.dispatch react depth) react s.begun e ls o := by
    intro ls
    induction ls with
    | nil => exact fun _ => rfl
    | cons l ls ih => exact fun _ => ih _
  exact congrArg _ (hfold s.dispatcher.listeners _)

/-- Once a listener does not come to an end, the dispatch does not. -/
theorem rounds_none (dispatch : ε → Scene α ε σ → Option (Scene α ε σ))
    (react : α → ε → Behaviour α ε σ) (k : Nat) (e : ε) (ls : List (ListenerId × α)) :
    rounds dispatch react k e ls none = none := by
  induction ls with
  | nil => rfl
  | cons l ls ih => exact ih

/-- The listeners of a dispatch are called once each, whatever each of
them does. The dispatch itself has begun, so its number is known to none
of those that begin meanwhile. -/
theorem rounds_sound {dispatch : ε → Scene α ε σ → Option (Scene α ε σ)}
    (hd : ∀ e, Sound (dispatch e)) (react : α → ε → Behaviour α ε σ) (k : Nat) (e : ε)
    (ls : List (ListenerId × α)) : ∀ {s s' : Scene α ε σ}, Faithful s → k < s.begun →
      rounds dispatch react k e ls (some s) = some s' →
      Faithful s' ∧ ∃ news, Proceeds (some k) s s' news ∧
        calls k news = ls.map fun l => (l.2, e) := by
  induction ls with
  | nil =>
    rintro s _ h - ⟨⟩
    exact ⟨h, [], .of_log_eq rfl rfl, rfl⟩
  | cons l ls ih =>
    intro s s' h hk hrun
    cases hcall : (react l.2 e).perform dispatch (s.note (.called k l.2 e)) with
    | none =>
      rw [rounds, Option.bind_some, hcall, rounds_none] at hrun
      cases hrun
    | some s₁ =>
      rw [rounds, Option.bind_some, hcall] at hrun
      have hnote : Faithful (s.note (.called k l.2 e)) := h.note (.inl ⟨k, _, _, hk, rfl⟩)
      obtain ⟨h₁, xs, hxs⟩ := (react l.2 e).sound hd hnote hcall
      obtain ⟨h', ys, hys, hcalls⟩ := ih h₁ (Nat.lt_of_lt_of_le hk hxs.begun) hrun
      have hcalled : Proceeds (some k) s (s.note (.called k l.2 e)) [.called k l.2 e] :=
        .of_note rfl rfl rfl fun j hne => by
          have hne : k ≠ j := fun heq => hne (congrArg some heq.symm)
          simp [calls, hne]
      have hown : Proceeds (some k) (s.note (.called k l.2 e)) s₁ xs :=
        { hxs with silent := fun j hj _ => hxs.silent j hj (by simp) }
      have hserving : ∀ j ∈ some k, j < s.begun := by simpa using hk
      refine ⟨h', _, (hcalled.trans hown hserving).trans hys hserving, ?_⟩
      rw [calls_append, calls_append, hxs.silent k hk (by simp), hcalls]
      simp [calls]

/-- **What a dispatch keeps**, by induction on the depth to which further
ones are nested in it. -/
theorem dispatch_sound (react : α → ε → Behaviour α ε σ) (depth : Nat) :
    ∀ e, Sound (Scene.dispatch react depth e) := by
  induction depth with
  | zero => exact fun e s s' _ hrun => nomatch hrun
  | succ depth ih =>
    intro e s s' h hrun
    rw [dispatch_succ, Option.map_eq_some_iff] at hrun
    obtain ⟨s₁, hrounds, rfl⟩ := hrun
    obtain ⟨h₁, inside, hinside, hcalls⟩ :=
      rounds_sound ih react s.begun e _ (h.begin e) (Nat.lt_succ_self _) hrounds
    refine ⟨h₁.note (.inr ⟨_, rfl⟩), .began s.begun e :: (inside ++ [.ended s.begun]), ?_⟩
    refine ⟨?_, ?_, ?_, ?_, ?_⟩
    · simp [hinside.log]
    · exact Nat.le_trans (Nat.le_succ _) hinside.begun
    · intro k hk
      have hk : k = s.begun ∨ k ∈ openings inside := by simpa [openings] using hk
      rcases hk with rfl | hk
      · exact ⟨Nat.le_refl _, hinside.begun⟩
      · exact ⟨Nat.le_of_succ_le (hinside.opened k hk).1, (hinside.opened k hk).2⟩
    · intro k hk _
      have hne : some k ≠ some s.begun := fun heq => absurd hk (by simp [Option.some.inj heq])
      have hcalls : calls k inside = [] := hinside.silent k (Nat.lt_succ_of_lt hk) hne
      have hend : calls k (inside ++ [.ended s.begun]) = [] := by
        rw [calls_append, hcalls]
        rfl
      exact hend
    · rw [h.listeners] at hcalls
      exact served_dispatch (h.silent _ (Nat.le_refl _)) hinside.served hcalls

/-- A dispatcher that was just created. -/
def fresh (world : σ) : Scene α ε σ := { world }

/-- At first nothing has happened. -/
theorem faithful_fresh (world : σ) : Faithful (fresh world : Scene α ε σ) := by
  refine ⟨rfl, ?_, List.nodup_nil, ?_, List.nodup_nil, fun _ _ => rfl, ?_, ?_, List.nodup_nil⟩
  · simp [fresh, names]
  · simp [fresh, openings]
  · simp [fresh, Exact]
  · simp [fresh, taken]

/-- **Every run of a dispatcher is orderly.** Whatever its creator and
its listeners do, to whatever depth, each dispatch calls exactly the
listeners registered at its start, each name is given out once, and a
removal takes out the one listener of its name, at most once; and the
dispatcher has in the end the listeners that were added and not removed. -/
theorem orderly_of_perform (react : α → ε → Behaviour α ε σ) (main : Behaviour α ε σ)
    (depth : Nat) (world : σ) {s : Scene α ε σ}
    (h : main.perform (Scene.dispatch react depth) (fresh world) = some s) :
    Orderly s.log ∧ s.dispatcher.listeners = registered s.log := by
  obtain ⟨hs, news, hnews⟩ := main.sound (dispatch_sound react depth) (faithful_fresh world) h
  obtain rfl : s.log = news := hnews.log
  exact ⟨⟨hnews.served, hs.numbered, hs.distinct, hs.exact, hs.once⟩, hs.listeners⟩

/-- Of two listeners the first, on event 0, removes the second, adds a
third and dispatches event 1. -/
def meddle : Nat → Nat → Behaviour Nat Nat Unit
  | 1, 0 => .remove 1 fun _ => .add 3 fun _ => .dispatch 1 .done
  | _, _ => .done

/-- Adds the two and dispatches event 0. -/
def meddling : Behaviour Nat Nat Unit := .add 1 fun _ => .add 2 fun _ => .dispatch 0 .done

/-- The second listener is still called for event 0, and the third only
from event 1 on. -/
theorem orderly_meddling : ∃ s : Scene Nat Nat Unit,
    meddling.perform (Scene.dispatch meddle 2) (fresh ()) = some s ∧
    s.log = [.added 0 1, .added 1 2, .began 0 0, .called 0 1 0, .removed 1 true, .added 2 3,
      .began 1 1, .called 1 1 1, .called 1 3 1, .ended 1, .called 0 2 0, .ended 0] ∧
    Orderly s.log ∧ s.dispatcher.listeners = registered s.log :=
  ⟨_, rfl, rfl, orderly_of_perform meddle meddling 2 () rfl⟩

/-! ## The depth does not matter -/

/-- A behaviour that comes to an end does so as well where more
dispatches do. -/
theorem Behaviour.perform_mono {dispatch dispatch' : ε → Scene α ε σ → Option (Scene α ε σ)}
    (hd : ∀ e s s', dispatch e s = some s' → dispatch' e s = some s') (b : Behaviour α ε σ) :
    ∀ s s', b.perform dispatch s = some s' → b.perform dispatch' s = some s' := by
  induction b with
  | done => exact fun _ _ h => h
  | look next ih => exact fun s => ih s.world s
  | put world next ih => exact fun s => ih _
  | ask next ih => exact fun s => ih _ s
  | add l next ih => exact fun s => ih _ _
  | remove id next ih => exact fun s => ih _ _
  | dispatch e next ih =>
    intro s s' h
    obtain ⟨s₁, hfirst, hrest⟩ := Option.bind_eq_some_iff.1 h
    exact Option.bind_eq_some_iff.2 ⟨s₁, hd e s s₁ hfirst, ih s₁ s' hrest⟩

/-- The same for the calls of a dispatch. -/
theorem rounds_mono {dispatch dispatch' : ε → Scene α ε σ → Option (Scene α ε σ)}
    (hd : ∀ e s s', dispatch e s = some s' → dispatch' e s = some s')
    (react : α → ε → Behaviour α ε σ) (k : Nat) (e : ε) (ls : List (ListenerId × α)) :
    ∀ s s', rounds dispatch react k e ls (some s) = some s' →
      rounds dispatch' react k e ls (some s) = some s' := by
  induction ls with
  | nil => exact fun _ _ h => h
  | cons l ls ih =>
    intro s s' h
    rw [rounds, Option.bind_some] at h ⊢
    cases hcall : (react l.2 e).perform dispatch (s.note (.called k l.2 e)) with
    | none =>
      rw [hcall, rounds_none] at h
      cases h
    | some s₁ =>
      rw [hcall] at h
      rw [(react l.2 e).perform_mono hd _ _ hcall]
      exact ih s₁ s' h

/-- A dispatch that comes to an end within a depth does the same within
every greater one. -/
theorem dispatch_mono (react : α → ε → Behaviour α ε σ) (depth : Nat) :
    ∀ depth', depth ≤ depth' → ∀ e s s', Scene.dispatch react depth e s = some s' →
      Scene.dispatch react depth' e s = some s' := by
  induction depth with
  | zero => exact fun _ _ _ _ _ h => nomatch h
  | succ depth ih =>
    intro depth' hle e s s' h
    obtain ⟨depth', rfl⟩ := Nat.exists_eq_add_one_of_ne_zero (Nat.ne_zero_of_lt hle)
    rw [dispatch_succ, Option.map_eq_some_iff] at h ⊢
    obtain ⟨s₁, hrounds, hend⟩ := h
    exact ⟨s₁, rounds_mono (ih depth' (Nat.le_of_succ_le_succ hle)) _ _ _ _ _ _ hrounds, hend⟩

/-- **How deep dispatches may nest does not matter**, once a run comes to
an end. -/
theorem perform_of_le (react : α → ε → Behaviour α ε σ) (main : Behaviour α ε σ)
    {depth depth' : Nat} (hle : depth ≤ depth') {s s' : Scene α ε σ}
    (h : main.perform (Scene.dispatch react depth) s = some s') :
    main.perform (Scene.dispatch react depth') s = some s' :=
  main.perform_mono (dispatch_mono react depth depth' hle) s s' h

end DebugClient.Reentry
