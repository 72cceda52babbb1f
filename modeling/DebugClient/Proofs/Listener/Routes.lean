import Mathlib.Data.List.Induction
import DebugClient.Listener.Router
import DebugClient.Proofs.Listener.Reentry
import DebugClient.Proofs.Lookup
/-!
# Routes — names that are given out again

A dispatcher gives out each name once. A router has a dispatcher for a
breakpoint only while somebody listens, so its names begin anew whenever
nobody does: a name is the number of listeners that came since. A name
that was kept may then be that of another listener. `Recurring` says when
two listeners of a breakpoint had one name, and whom a removal takes out,
and `recurring_perform` that this is so whatever is asked of a router.
-/

namespace DebugClient.Routes

open Reentry

variable {α : Type}

/-- What is noted of a breakpoint: who was added and what was removed. -/
abbrev Entry (α : Type) : Type := Note α Empty

/-! ## What a log says -/

/-- The name the next listener gets: the one after the last, or the first
if nobody is registered. -/
def next (notes : List (Entry α)) : ListenerId :=
  if (registered notes).isEmpty then 0 else (names notes).getLast?.elim 0 (· + 1)

/-- **The logs of a breakpoint**: a listener that is added gets the next
name, and a removal tells whether the name is registered. -/
inductive Logged : List (Entry α) → Prop where
  | nil : Logged []
  | added {notes} (h : Logged notes) (l : α) : Logged (notes ++ [.added (next notes) l])
  | removed {notes} (h : Logged notes) (id : ListenerId) :
    Logged (notes ++ [.removed id ((registered notes).any (·.1 == id))])

theorem names_added (notes : List (Entry α)) (id : ListenerId) (l : α) :
    names (notes ++ [.added id l]) = names notes ++ [id] := names_append ..

theorem names_removed (notes : List (Entry α)) (id : ListenerId) (was : Bool) :
    names (notes ++ [.removed id was]) = names notes := by
  rw [names_append]
  exact List.append_nil _

theorem next_added (notes : List (Entry α)) (id : ListenerId) (l : α) :
    next (notes ++ [.added id l]) = id + 1 := by
  rw [next, registered_added, names_added]
  simp

theorem next_removed {notes : List (Entry α)} {id : ListenerId} {was : Bool}
    (some : registered (notes ++ [.removed id was]) ≠ []) :
    next (notes ++ [.removed id was]) = next notes := by
  have older : registered notes ≠ [] := by
    rintro none
    rw [registered_removed, none] at some
    exact some rfl
  rw [next, next, names_removed, if_neg (by simpa using some), if_neg (by simpa using older)]

theorem next_of_registered {notes : List (Entry α)} (none : registered notes = []) :
    next notes = 0 := by
  simp [next, none]

/-- Registered are those of the older entries that were not removed since,
and those of the newer ones. -/
theorem registered_append (older newer : List (Entry α)) :
    registered (older ++ newer) =
      (registered older).filter (fun e => !newer.any (Note.removes e.1)) ++ registered newer := by
  induction older with
  | nil => rfl
  | cons n older ih =>
    cases n with
    | added id l =>
      rw [List.cons_append, registered, registered, List.any_append, ih]
      cases older.any (Note.removes id) with
      | true => rfl
      | false => cases gone : newer.any (Note.removes id) <;> simp [gone]
    | _ => exact ih

namespace Logged

variable {notes earlier between : List (Entry α)} {id : ListenerId} {l : α}

theorem concat_cases {n : Entry α} (h : Logged (notes ++ [n])) :
    Logged notes ∧ ((∃ l, n = .added (next notes) l) ∨
      ∃ id, n = .removed id ((registered notes).any (·.1 == id))) := by
  generalize is : notes ++ [n] = all at h
  cases h with
  | nil => exact absurd is (by simp)
  | added h l =>
    obtain ⟨rfl, last⟩ := List.append_inj' is rfl
    exact ⟨h, .inl ⟨l, List.singleton_inj.1 last⟩⟩
  | removed h id =>
    obtain ⟨rfl, last⟩ := List.append_inj' is rfl
    exact ⟨h, .inr ⟨id, List.singleton_inj.1 last⟩⟩

/-- What begins a log is one. -/
theorem of_append (h : Logged (notes ++ between)) : Logged notes := by
  induction between using List.reverseRecOn with
  | nil => simpa using h
  | append_singleton between n ih =>
    rw [← List.append_assoc] at h
    exact ih h.concat_cases.1

theorem added_eq (h : Logged (earlier ++ .added id l :: between)) : id = next earlier := by
  rw [← List.singleton_append, ← List.append_assoc] at h
  obtain ⟨l', is⟩ | ⟨id', is⟩ := h.of_append.concat_cases.2
  · exact (Note.added.inj is).1
  · cases is

/-- Whoever is registered later has a higher name, and the next name is
higher than all of theirs. -/
theorem rising (h : Logged notes) :
    (registered notes).Pairwise (·.1 < ·.1) ∧ ∀ e ∈ registered notes, e.1 < next notes := by
  induction h with
  | nil => exact ⟨List.Pairwise.nil, fun e he => absurd he List.not_mem_nil⟩
  | @added notes h l ih =>
    rw [registered_added, next_added]
    refine ⟨List.pairwise_append.2 ⟨ih.1, List.pairwise_singleton _ _, ?_⟩,
      List.forall_mem_append.2 ⟨?_, ?_⟩⟩
    · exact fun e he => List.forall_mem_singleton.2 (ih.2 e he)
    · exact fun e he => Nat.lt_succ_of_lt (ih.2 e he)
    · exact List.forall_mem_singleton.2 (Nat.lt_succ_self _)
  | @removed notes h id ih =>
    refine ⟨?_, fun e he => ?_⟩
    · rw [registered_removed]
      exact ih.1.sublist List.filter_sublist
    · rw [next_removed (List.ne_nil_of_mem he)]
      rw [registered_removed] at he
      exact ih.2 e (List.mem_filter.1 he).1

/-- While somebody is registered, names rise. -/
theorem next_lt (h : Logged (earlier ++ .added id l :: between))
    (somebody : ∀ since after, between = since ++ after →
      registered (earlier ++ .added id l :: since) ≠ []) :
    id < next (earlier ++ .added id l :: between) ∧ ∀ i ∈ names between, id < i := by
  induction between using List.reverseRecOn with
  | nil =>
    rw [next_added]
    exact ⟨Nat.lt_succ_self id, fun i hi => absurd hi List.not_mem_nil⟩
  | append_singleton between n ih =>
    have all := somebody _ [] (List.append_nil _).symm
    rw [← List.cons_append, ← List.append_assoc] at h all ⊢
    obtain ⟨older, is⟩ := h.concat_cases
    obtain ⟨lt, above⟩ := ih older fun since after split =>
      somebody since (after ++ [n]) (by rw [split, List.append_assoc])
    rcases is with ⟨l', rfl⟩ | ⟨id', rfl⟩
    · rw [next_added, names_added]
      exact ⟨Nat.lt_succ_of_lt lt, List.forall_mem_append.2 ⟨above, List.forall_mem_singleton.2 lt⟩⟩
    · rw [next_removed all, names_removed]
      exact ⟨lt, above⟩

/-- The first name is given out first. -/
theorem zero_mem_names (h : Logged notes) (some : names notes ≠ []) : 0 ∈ names notes := by
  induction h with
  | nil => exact absurd rfl some
  | @added notes h l ih =>
    rw [names_added]
    by_cases first : names notes = []
    · have nobody : registered notes = [] :=
        List.map_eq_nil_iff.1 (List.sublist_nil.1 (first ▸ registered_sublist_names notes))
      simp [next_of_registered nobody]
    · exact List.mem_append_left _ (ih first)
  | removed h id ih =>
    rw [names_removed] at some ⊢
    exact ih some

end Logged

/-! ## What follows from it -/

/-- **How names recur** in the log of a breakpoint. -/
structure Recurring (notes : List (Entry α)) : Prop where
  /-- A listener that is added gets the next name. -/
  counted : ∀ earlier id l later, notes = earlier ++ .added id l :: later → id = next earlier
  /-- A removal takes out one listener that was given the name, or none. -/
  exact : Exact notes
  /-- No name was given out twice exactly if there was always somebody
  registered when a further listener was added. -/
  distinct : (names notes).Nodup ↔ ∀ earlier id l later, notes = earlier ++ .added id l :: later →
    names earlier ≠ [] → registered earlier ≠ []
  /-- A name that is given out again was so after nobody was registered. -/
  recurs : ∀ earlier id l between later, notes = earlier ++ .added id l :: (between ++ later) →
    id ∈ names between → ∃ since after, between = since ++ after ∧
      registered (earlier ++ .added id l :: since) = []
  /-- A name is that of the listener it was given to until it is removed,
  and of one that was given it later. -/
  stale : ∀ earlier id l between later, notes = earlier ++ .added id l :: (between ++ later) →
    ∀ l', (id, l') ∈ registered (earlier ++ .added id l :: between) ↔
      l' = l ∧ between.any (Note.removes id) = false ∨ (id, l') ∈ registered between

namespace Logged

variable {notes : List (Entry α)}

theorem exact (h : Logged notes) : Exact notes := by
  induction h with
  | nil => simp [Exact]
  | added h l ih => exact ih.concat (by simp)
  | @removed notes h id ih =>
    refine ih.concat fun id' was is => ?_
    obtain ⟨rfl, rfl⟩ := Note.removed.inj is
    rw [registered_removed]
    cases found : (registered notes).any (·.1 == id) with
    | true =>
      obtain ⟨⟨i, l⟩, there, same⟩ := List.any_eq_true.1 found
      obtain rfl := beq_iff_eq.1 same
      obtain ⟨front, back, split⟩ := List.append_of_mem there
      have apart : ((registered notes).map Prod.fst).Nodup :=
        List.pairwise_map.2 (h.rising.1.imp Nat.ne_of_lt)
      refine .inl ⟨rfl, l, front, back, added_mem_of_registered _ there, split, ?_⟩
      rw [split]
      exact filter_ne_of_nodup (split ▸ apart)
    | false =>
      have out : ∀ e ∈ registered notes, e.1 ≠ id := by simpa using found
      exact .inr ⟨rfl, fun l there => out _ there rfl,
        List.filter_eq_self.2 fun e he => bne_iff_ne.2 (out e he)⟩

/-- If there was always somebody registered, names rose throughout. -/
theorem names_rising (h : Logged notes)
    (somebody : ∀ earlier id l later, notes = earlier ++ .added id l :: later →
      names earlier ≠ [] → registered earlier ≠ []) :
    (names notes).Pairwise (· < ·) ∧ (registered notes ≠ [] → ∀ i ∈ names notes, i < next notes) := by
  induction h with
  | nil => exact ⟨List.Pairwise.nil, fun some => absurd rfl some⟩
  | @added notes h l ih =>
    obtain ⟨rising, below⟩ := ih fun earlier id l' later split =>
      somebody earlier id l' (later ++ [.added (next notes) l]) (by rw [split]; simp)
    have fresh : ∀ i ∈ names notes, i < next notes := by
      intro i hi
      exact below (somebody notes _ l [] rfl (List.ne_nil_of_mem hi)) i hi
    rw [names_added, next_added]
    refine ⟨List.pairwise_append.2 ⟨rising, List.pairwise_singleton _ _, ?_⟩,
      fun _ => List.forall_mem_append.2 ⟨?_, ?_⟩⟩
    · exact fun i hi => List.forall_mem_singleton.2 (fresh i hi)
    · exact fun i hi => Nat.lt_succ_of_lt (fresh i hi)
    · exact List.forall_mem_singleton.2 (Nat.lt_succ_self _)
  | @removed notes h id ih =>
    obtain ⟨rising, below⟩ := ih fun earlier id' l later split =>
      somebody earlier id' l (later ++ [.removed id ((registered notes).any (·.1 == id))])
        (by rw [← List.cons_append, ← List.append_assoc, ← split])
    rw [names_removed]
    refine ⟨rising, fun some i hi => ?_⟩
    rw [next_removed some]
    refine below (fun nobody => some ?_) i hi
    rw [registered_removed, nobody]
    rfl

theorem distinct (h : Logged notes) :
    (names notes).Nodup ↔ ∀ earlier id l later, notes = earlier ++ .added id l :: later →
      names earlier ≠ [] → registered earlier ≠ [] := by
  constructor
  · rintro apart earlier id l later rfl some nobody
    -- The name would be the first, which was given out before.
    have first : id = 0 := h.added_eq.trans (next_of_registered nobody)
    have given : 0 ∈ names earlier := h.of_append.zero_mem_names some
    have again : names (earlier ++ .added id l :: later) = names earlier ++ 0 :: names later := by
      simp [names, first]
    rw [again] at apart
    exact (List.nodup_middle.1 apart).notMem (List.mem_append_left _ given)
  · exact fun somebody => (h.names_rising somebody).1.imp Nat.ne_of_lt

theorem recurring (h : Logged notes) : Recurring notes where
  counted earlier id l later is := (is ▸ h).added_eq
  exact := h.exact
  distinct := h.distinct
  recurs earlier id l between later is again := by
    subst is
    rw [← List.cons_append, ← List.append_assoc] at h
    by_contra never
    have above := (h.of_append.next_lt fun since after split nobody =>
      never ⟨since, after, split, nobody⟩).2 id again
    exact Nat.lt_irrefl _ above
  stale earlier id l between later is l' := by
    subst is
    have new : (id, l') ∉ registered earlier := by
      intro there
      have older := h.of_append.rising.2 _ there
      rw [h.added_eq] at older
      exact Nat.lt_irrefl _ older
    rw [registered_append, List.mem_append, or_iff_right fun there => new (List.mem_filter.1 there).1]
    rw [registered]
    cases between.any (Note.removes id) <;> simp

end Logged

/-! ## Every run -/

/-- What happened to a breakpoint, out of all that happened. -/
def notesOf (breakpoint : String) (log : List (String × Entry α)) : List (Entry α) :=
  log.filterMap fun e => if e.1 = breakpoint then some e.2 else none

/-- A router with all that has happened to it, oldest first. -/
structure Station (α : Type) where
  router : Router α := {}
  log : List (String × Entry α) := []

/-- Adds a listener. -/
def Station.add (s : Station α) (breakpoint : String) (l : α) : Station α where
  router := (s.router.add breakpoint l).2
  log := s.log ++ [(breakpoint, .added (s.router.add breakpoint l).1 l)]

/-- Removes a name. -/
def Station.remove (s : Station α) (breakpoint : String) (id : ListenerId) : Station α where
  router := s.router.remove breakpoint id
  log := s.log ++ [(breakpoint, .removed id (s.router.has breakpoint id))]

/-- What is asked of a router, by whoever holds it and by the listeners
while they are called. It may depend on all that has happened, and so on
every answer that was given. -/
inductive Course (α : Type) where
  /-- Nothing more. -/
  | done
  /-- Goes on by what has happened. -/
  | look (next : List (String × Entry α) → Course α)
  /-- Adds a listener. -/
  | add (breakpoint : String) (l : α) (next : Course α)
  /-- Removes a name. -/
  | remove (breakpoint : String) (id : ListenerId) (next : Course α)
  /-- Dispatches an event, on which each listener asks something. -/
  | dispatch (breakpoint : String) (asks : α → Course α) (next : Course α)

/-- Asks all of it. -/
def Course.perform : Course α → Station α → Station α
  | .done, s => s
  | .look next, s => (next s.log).perform s
  | .add breakpoint l next, s => next.perform (s.add breakpoint l)
  | .remove breakpoint id next, s => next.perform (s.remove breakpoint id)
  | .dispatch breakpoint asks next, s =>
    next.perform (s.router.notify breakpoint (fun l s => (asks l).perform s) s)

/-- **What adding and removing keep** is kept by every course. -/
theorem Course.perform_keeps {I : Station α → Prop}
    (add : ∀ s breakpoint l, I s → I (s.add breakpoint l))
    (remove : ∀ s breakpoint id, I s → I (s.remove breakpoint id)) (course : Course α) :
    ∀ s, I s → I (course.perform s) := by
  induction course with
  | done => exact fun s h => h
  | look next ih => exact fun s h => ih s.log s h
  | add breakpoint l next ih => exact fun s h => ih _ (add s breakpoint l h)
  | remove breakpoint id next ih => exact fun s h => ih _ (remove s breakpoint id h)
  | dispatch breakpoint asks next called ih =>
    intro s h
    have calls : ∀ (ls : List (ListenerId × α)) (s : Station α), I s →
        I (ls.foldl (fun s l => (asks l.2).perform s) s) := by
      intro ls
      induction ls with
      | nil => exact fun s h => h
      | cons l ls rest => exact fun s h => rest _ (called l.2 s h)
    exact ih _ (calls _ s h)

theorem route_setRoute (r : Router α) (breakpoint other : String) (d : Dispatcher α) :
    (r.setRoute breakpoint d).route other =
      if other = breakpoint then (if d.isEmpty then {} else d) else r.route other := by
  by_cases same : other = breakpoint
  · subst same
    rw [if_pos rfl, Router.setRoute, Router.route]
    split
    · rw [Lookup.lookup_eq_none (by simp)]
      rfl
    · rw [Lookup.lookup_cons_ite, if_pos rfl]
      rfl
  · rw [if_neg same, Router.setRoute, Router.route, Router.route]
    congr 1
    split
    · exact Lookup.lookup_filter_ne same
    · rw [Lookup.lookup_cons_ite, if_neg same]
      exact Lookup.lookup_filter_ne same

theorem notesOf_concat (log : List (String × Entry α)) (breakpoint other : String) (n : Entry α) :
    notesOf other (log ++ [(breakpoint, n)]) =
      if other = breakpoint then notesOf other log ++ [n] else notesOf other log := by
  by_cases same : other = breakpoint
  · simp [notesOf, same]
  · simp [notesOf, same, Ne.symm same]

/-- The route that a log of a breakpoint leaves. -/
def routeOf (notes : List (Entry α)) : Dispatcher α := ⟨registered notes, next notes⟩

theorem routeOf_added (notes : List (Entry α)) (l : α) :
    routeOf (notes ++ [.added (next notes) l]) = ((routeOf notes).add l).2 := by
  rw [routeOf, registered_added, next_added]
  rfl

theorem routeOf_removed (notes : List (Entry α)) (id : ListenerId) (was : Bool) :
    routeOf (notes ++ [.removed id was]) =
      if ((routeOf notes).remove id).isEmpty then {} else (routeOf notes).remove id := by
  have listeners : ((routeOf notes).remove id).listeners = registered (notes ++ [.removed id was]) :=
    (registered_removed notes id was).symm
  rw [Dispatcher.isEmpty, listeners]
  split
  · rename_i nobody
    have nobody := List.isEmpty_iff.1 nobody
    rw [routeOf, next_of_registered nobody, nobody]
  · rename_i some
    rw [routeOf, next_removed (mt List.isEmpty_iff.2 some), ← listeners]
    rfl

/-- Each breakpoint has the route that its log leaves. -/
def Kept (s : Station α) : Prop :=
  ∀ breakpoint, s.router.route breakpoint = routeOf (notesOf breakpoint s.log) ∧
    Logged (notesOf breakpoint s.log)

theorem Kept.add {s : Station α} (h : Kept s) (breakpoint : String) (l : α) :
    Kept (s.add breakpoint l) := by
  intro other
  change (s.router.setRoute breakpoint ((s.router.route breakpoint).add l).2).route other = _ ∧ _
  rw [Station.add, notesOf_concat, route_setRoute]
  by_cases same : other = breakpoint
  · subst same
    obtain ⟨route, logged⟩ := h other
    have given : (s.router.add other l).1 = next (notesOf other s.log) := congrArg Dispatcher.nextId route
    rw [if_pos rfl, if_pos rfl, given, routeOf_added, route]
    refine ⟨if_neg ?_, logged.added l⟩
    simp [Dispatcher.isEmpty]
  · rw [if_neg same, if_neg same]
    exact h other

theorem Kept.remove {s : Station α} (h : Kept s) (breakpoint : String) (id : ListenerId) :
    Kept (s.remove breakpoint id) := by
  intro other
  change (s.router.setRoute breakpoint ((s.router.route breakpoint).remove id)).route other = _ ∧ _
  rw [Station.remove, notesOf_concat, route_setRoute]
  by_cases same : other = breakpoint
  · subst same
    obtain ⟨route, logged⟩ := h other
    have answer : s.router.has other id = (registered (notesOf other s.log)).any (·.1 == id) := by
      rw [Router.has, route]
      rfl
    rw [if_pos rfl, if_pos rfl, answer, routeOf_removed, route]
    exact ⟨rfl, logged.removed id⟩
  · rw [if_neg same, if_neg same]
    exact h other

/-- **The listeners of a breakpoint**, whatever is asked of a router: its
route has those that were added and not removed since, and its names
recur as `Recurring` says. -/
theorem recurring_perform (course : Course α) (breakpoint : String) :
    let s := course.perform {}
    (s.router.route breakpoint).listeners = registered (notesOf breakpoint s.log) ∧
      Recurring (notesOf breakpoint s.log) := by
  intro s
  have start : Kept ({} : Station α) := fun _ => ⟨rfl, .nil⟩
  have kept : Kept s :=
    course.perform_keeps (fun _ b l h => h.add b l) (fun _ b id h => h.remove b id) {} start
  obtain ⟨route, logged⟩ := kept breakpoint
  exact ⟨congrArg Dispatcher.listeners route, logged.recurring⟩

/-- A listener that is removed twice, the second time after another one
was added. -/
def removingTwice : Course Nat :=
  .add "1" 1 (.remove "1" 0 (.add "1" 2 (.remove "1" 0 .done)))

/-- Both had one name, and the second removal takes out the other one. -/
theorem stale_name_taken :
    notesOf "1" (removingTwice.perform {}).log =
        [.added 0 1, .removed 0 true, .added 0 2, .removed 0 true] ∧
      registered [.added 0 1, .removed 0 true, (.added 0 2 : Entry Nat)] = [(0, 2)] ∧
      ((removingTwice.perform {}).router.route "1").listeners = [] := by
  decide

end DebugClient.Routes
