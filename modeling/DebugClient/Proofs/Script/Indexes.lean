import DebugClient.Proofs.Lookup
import DebugClient.Script.Catalog
/-!
# Indexes — the same scripts by identifier and by URL

A catalog keeps its scripts twice: in the order they were registered, and
under their URLs with the newest first. `Filed` says that the two agree,
and `Queued` that the queue holds anonymous scripts that are there. Every
operation keeps both: registering and unregistering change both indexes,
an eviction takes scripts from the middle of the one and from none of the
other, and what binds source maps touches neither.
-/

namespace DebugClient

/-- A script is of a URL if it has it. A script without a URL is of none. -/
def Script.IsOf (x : Script) (url : String) : Prop := url ≠ "" ∧ x.sourceUrl = url

instance (x : Script) (url : String) : Decidable (x.IsOf url) :=
  inferInstanceAs (Decidable (url ≠ "" ∧ x.sourceUrl = url))

namespace Catalog

variable {c : Catalog} {x : Script}

/-! ## Scripts of a URL -/

theorem mem_keys_setUrl {url u : String} {scripts : List Script} {l : List (String × List Script)}
    (h : u ∈ (setUrl url scripts l).map (·.1)) : u = url ∨ u ∈ l.map (·.1) := by
  induction l with
  | nil =>
    unfold setUrl at h
    split at h <;> simp_all
  | cons e rest ih =>
    obtain ⟨v, ss⟩ := e
    unfold setUrl at h
    split at h
    · split at h
      · exact .inr (List.mem_cons_of_mem _ h)
      · simp_all
    · rcases List.mem_cons.1 h with rfl | h
      · exact .inr (by simp)
      · exact (ih h).imp id (List.mem_cons_of_mem _)

theorem nodup_keys_setUrl {l : List (String × List Script)} (h : (l.map (·.1)).Nodup) (url : String)
    (scripts : List Script) : ((setUrl url scripts l).map (·.1)).Nodup := by
  induction l with
  | nil =>
    unfold setUrl
    split <;> simp
  | cons e rest ih =>
    obtain ⟨v, ss⟩ := e
    obtain ⟨new, once⟩ := List.nodup_cons.1 h
    unfold setUrl
    split
    · rename_i e
      split
      · exact once
      · exact List.nodup_cons.2 ⟨e ▸ new, once⟩
    · rename_i ne
      refine List.nodup_cons.2 ⟨fun hv => ?_, ih once⟩
      exact (mem_keys_setUrl hv).elim ne new

/-- A URL has the scripts that were set, and every other the ones it had. -/
theorem lookup_setUrl {l : List (String × List Script)} (h : (l.map (·.1)).Nodup) (url u : String)
    (scripts : List Script) :
    ((setUrl url scripts l).lookup u).getD [] =
      if u = url then scripts else (l.lookup u).getD [] := by
  induction l with
  | nil =>
    unfold setUrl
    cases scripts with
    | nil => simp
    | cons s ss =>
      rw [if_neg (by simp), Lookup.lookup_cons_ite]
      split <;> simp
  | cons entry rest ih =>
    obtain ⟨v, ss⟩ := entry
    obtain ⟨new, once⟩ := List.nodup_cons.1 h
    unfold setUrl
    split
    · rename_i e
      subst e
      split
      · -- A URL without scripts is dropped, and the rest of the list has none of it.
        rename_i none
        have absent : rest.lookup v = Option.none := Lookup.lookup_eq_none new
        rw [Lookup.lookup_cons_ite]
        split
        · rename_i e
          rw [e, absent, List.isEmpty_iff.1 none]
          rfl
        · rfl
      · rw [Lookup.lookup_cons_ite, Lookup.lookup_cons_ite]
        split <;> rfl
    · rename_i ne
      rw [Lookup.lookup_cons_ite, Lookup.lookup_cons_ite]
      split
      · rename_i e
        subst e
        rw [if_neg ne]
      · exact ih once

/-! ## Both indexes -/

/-- The scripts that have a URL, in the order they were registered. -/
def atUrl (scripts : List Script) (url : String) : List Script :=
  scripts.filter (·.sourceUrl == url)

theorem atUrl_append (scripts : List Script) (x : Script) (url : String) :
    atUrl (scripts ++ [x]) url = atUrl scripts url ++ if x.sourceUrl = url then [x] else [] := by
  by_cases e : x.sourceUrl = url <;> simp [atUrl, e]

/-- **The two indexes agree**: a script is there once, and the scripts of a
URL are those that have it, newest first. -/
structure Filed (c : Catalog) : Prop where
  /-- An identifier has one script. -/
  ids : (c.scripts.map (·.scriptId)).Nodup
  /-- A URL has one list of scripts. -/
  urls : (c.byUrl.map (·.1)).Nodup
  /-- It holds the scripts that have the URL; anonymous scripts are in no
  list. -/
  byUrl : ∀ url, c.forUrl url = if url = "" then [] else (atUrl c.scripts url).reverse

/-- **The queue** holds anonymous scripts that are there, each once. -/
structure Queued (c : Catalog) : Prop where
  /-- They are there. -/
  mem : ∀ x ∈ c.discardable, x ∈ c.scripts
  /-- They have no URL. -/
  anonymous : ∀ x ∈ c.discardable, x.isAnonymous = true
  /-- None is there twice. -/
  once : (c.discardable.map (·.scriptId)).Nodup

theorem filed_empty : ({} : Catalog).Filed := ⟨by simp, by simp, fun url => by simp [forUrl, atUrl]⟩

theorem queued_empty : ({} : Catalog).Queued := ⟨by simp, by simp, by simp⟩

/-- A URL finds the scripts that are of it, newest first. -/
theorem Filed.forUrl_eq (h : c.Filed) (url : String) :
    c.forUrl url = (c.scripts.filter (·.IsOf url)).reverse := by
  rw [h.byUrl]
  by_cases empty : url = ""
  · simp [empty, Script.IsOf]
  · simp [empty, Script.IsOf, atUrl, beq_eq_decide]

/-- A script is found by its identifier if it is there. -/
theorem Filed.find?_iff (h : c.Filed) {id : ScriptId} :
    c.find? id = some x ↔ x ∈ c.scripts ∧ x.scriptId = id := by
  constructor
  · intro found
    exact ⟨List.mem_of_find?_eq_some found, by simpa using List.find?_some found⟩
  · rintro ⟨hx, rfl⟩
    have there : (c.scripts.find? (·.scriptId == x.scriptId)).isSome :=
      List.find?_isSome.2 ⟨x, hx, beq_self_eq_true x.scriptId⟩
    obtain ⟨y, hy⟩ := Option.isSome_iff_exists.1 there
    have same : y.scriptId = x.scriptId := by simpa using List.find?_some hy
    rw [find?, hy, List.inj_on_of_nodup_map h.ids (List.mem_of_find?_eq_some hy) hx same]

/-! ### Refiling -/

theorem isAnonymous_iff : x.isAnonymous = true ↔ x.sourceUrl = "" := by
  simp [Script.isAnonymous]

section Refiling

variable {c' : Catalog} {f : List Script → List Script}
  (refiled : c'.byUrl =
    if x.isAnonymous then c.byUrl else setUrl x.sourceUrl (f (c.forUrl x.sourceUrl)) c.byUrl)

include refiled

/-- Refiling a script changes the scripts of its URL, and no others. -/
theorem forUrl_refiled (h : c.Filed) (url : String) :
    c'.forUrl url = if url = x.sourceUrl ∧ url ≠ "" then f (c.forUrl url) else c.forUrl url := by
  rw [forUrl, refiled]
  split
  · rename_i anonymous
    rw [isAnonymous_iff] at anonymous
    rw [if_neg fun e => e.2 (e.1.trans anonymous)]
    rfl
  · rename_i named
    rw [isAnonymous_iff] at named
    rw [lookup_setUrl h.urls]
    by_cases e : url = x.sourceUrl
    · rw [if_pos e, if_pos ⟨e, e ▸ named⟩, e]
    · rw [if_neg e, if_neg fun e' => e e'.1]
      rfl

theorem urls_refiled (h : c.Filed) : (c'.byUrl.map (·.1)).Nodup := by
  rw [refiled]
  split
  · exact h.urls
  · exact nodup_keys_setUrl h.urls _ _

end Refiling

/-! ### Registering -/

theorem place_of_new {s : Script} {l : List Script} (h : ∀ t ∈ l, t.scriptId ≠ s.scriptId) :
    place s l = l ++ [s] := by
  induction l with
  | nil => rfl
  | cons t rest ih =>
    rw [place, if_neg (h t (by simp)), ih fun u hu => h u (by simp [hu])]
    rfl

/-- A script whose identifier is new goes to the end. -/
theorem scripts_register (h : c.find? x.scriptId = none) :
    (c.register x).scripts = c.scripts ++ [x] := by
  refine place_of_new fun t ht same => ?_
  have absent := List.find?_eq_none.1 h t ht
  exact absent (beq_iff_eq.2 same)

theorem Filed.register (h : c.Filed) (new : c.find? x.scriptId = none) : (c.register x).Filed := by
  have scripts := scripts_register new
  refine ⟨?_, ?_, fun url => ?_⟩
  · rw [scripts, List.map_append]
    refine List.nodup_append.2 ⟨h.ids, by simp, fun a ha b hb => ?_⟩
    obtain ⟨t, ht, rfl⟩ := List.mem_map.1 ha
    rw [List.mem_singleton.1 hb]
    exact fun same => List.find?_eq_none.1 new t ht (beq_iff_eq.2 same)
  · exact urls_refiled (x := x) (f := (x :: ·)) rfl h
  · rw [forUrl_refiled (x := x) (f := (x :: ·)) rfl h, h.byUrl, scripts]
    by_cases empty : url = ""
    · simp [empty]
    rw [if_neg empty, if_neg empty]
    by_cases e : url = x.sourceUrl
    · rw [if_pos ⟨e, empty⟩, atUrl_append, if_pos e.symm, List.reverse_append]
      rfl
    · rw [if_neg fun e' => e e'.1, atUrl_append, if_neg (Ne.symm e), List.append_nil]

theorem Queued.register (h : c.Queued) (new : c.find? x.scriptId = none) : (c.register x).Queued := by
  refine ⟨fun y hy => ?_, h.anonymous, h.once⟩
  rw [scripts_register new]
  exact List.mem_append_left _ (h.mem y hy)

/-! ### Unregistering -/

/-- **A script that is there** can be unregistered: the other scripts of its
URL stay, and those of other URLs. -/
theorem Filed.unregister (h : c.Filed) (hx : x ∈ c.scripts) : (c.unregister x).Filed := by
  refine ⟨h.ids.sublist (List.filter_sublist.map _), ?_, fun url => ?_⟩
  · exact urls_refiled (x := x) (f := (·.filter (·.scriptId != x.scriptId))) rfl h
  · rw [forUrl_refiled (x := x) (f := (·.filter (·.scriptId != x.scriptId))) rfl h, h.byUrl]
    by_cases empty : url = ""
    · simp [empty]
    have kept : atUrl (c.unregister x).scripts url =
        (atUrl c.scripts url).filter (·.scriptId != x.scriptId) := List.filter_comm _ _ _
    rw [if_neg empty, if_neg empty, kept, List.filter_reverse]
    split
    · rfl
    · -- A script of another URL is another script, and so has another identifier.
      rename_i other
      refine congrArg List.reverse (List.filter_eq_self.2 fun y hy => bne_iff_ne.2 fun same => ?_).symm
      obtain ⟨hy, url⟩ := List.mem_filter.1 hy
      obtain rfl := List.inj_on_of_nodup_map h.ids hy hx same
      exact other ⟨(beq_iff_eq.1 url).symm, empty⟩

/-- Scripts that are there can be unregistered one after another; what
stays are the scripts of other identifiers. -/
theorem Filed.unregisterAll {gone : List Script} (h : c.Filed) (there : ∀ x ∈ gone, x ∈ c.scripts)
    (once : (gone.map (·.scriptId)).Nodup) :
    (gone.foldl Catalog.unregister c).Filed ∧
      (gone.foldl Catalog.unregister c).discardable = c.discardable ∧
      (gone.foldl Catalog.unregister c).scripts =
        c.scripts.filter fun y => decide (y.scriptId ∉ gone.map (·.scriptId)) := by
  induction gone generalizing c with
  | nil => exact ⟨h, rfl, by simp⟩
  | cons x rest ih =>
    obtain ⟨new, once⟩ := List.nodup_cons.1 once
    have still : ∀ y ∈ rest, y ∈ (c.unregister x).scripts := by
      intro y hy
      refine List.mem_filter.2 ⟨there y (by simp [hy]), bne_iff_ne.2 fun same => new ?_⟩
      exact List.mem_map.2 ⟨y, hy, same⟩
    obtain ⟨filed, queue, scripts⟩ := ih (h.unregister (there x (by simp))) still once
    refine ⟨filed, queue, ?_⟩
    rw [List.foldl_cons, scripts, Catalog.unregister, List.filter_filter]
    refine List.filter_congr fun y _ => ?_
    by_cases e : y.scriptId = x.scriptId <;> simp [e]

/-! ### Evictions -/

/-- **Queueing a script**, and giving up the oldest when the queue is full,
keeps the two indexes and the queue. -/
theorem Filed.discard (h : c.Filed) (queued : c.Queued) (hx : x ∈ c.scripts)
    (anonymous : x.isAnonymous = true) (new : x.scriptId ∉ c.discardable.map (·.scriptId)) :
    (c.discard x).2.Filed ∧ (c.discard x).2.Queued ∧ (c.discard x).2.scripts.Sublist c.scripts := by
  have mem : ∀ y ∈ c.discardable ++ [x], y ∈ c.scripts := by
    intro y hy
    rcases List.mem_append.1 hy with hy | hy
    · exact queued.mem y hy
    · exact List.mem_singleton.1 hy ▸ hx
  have anonymous : ∀ y ∈ c.discardable ++ [x], y.isAnonymous = true := by
    intro y hy
    rcases List.mem_append.1 hy with hy | hy
    · exact queued.anonymous y hy
    · exact List.mem_singleton.1 hy ▸ anonymous
  have once : ((c.discardable ++ [x]).map (·.scriptId)).Nodup := by
    rw [List.map_append]
    refine List.nodup_append.2 ⟨queued.once, by simp, fun a ha b hb same => new ?_⟩
    have last : b = x.scriptId := List.mem_singleton.1 hb
    exact last ▸ same ▸ ha
  unfold Catalog.discard
  generalize c.discardable ++ [x] = queue at mem anonymous once
  dsimp only
  split
  · exact ⟨⟨h.ids, h.urls, h.byUrl⟩, ⟨mem, anonymous, once⟩, .refl _⟩
  · -- Identifiers are in the queue once, so those that stay are not of scripts that go.
    have parts := List.take_append_drop evictionBatch queue
    rw [← parts, List.map_append, List.nodup_append] at once
    have filed : ({ c with discardable := queue.drop evictionBatch } : Catalog).Filed :=
      ⟨h.ids, h.urls, h.byUrl⟩
    obtain ⟨kept, rest, scripts⟩ := filed.unregisterAll
      (fun y hy => mem y (List.mem_of_mem_take hy)) once.1
    refine ⟨kept, ⟨?_, ?_, ?_⟩, scripts ▸ List.filter_sublist⟩
    · intro y hy
      rw [rest] at hy
      rw [scripts]
      refine List.mem_filter.2 ⟨mem y (List.mem_of_mem_drop hy), decide_eq_true fun gone => ?_⟩
      exact once.2.2 _ gone _ (List.mem_map_of_mem hy) rfl
    · intro y hy
      rw [rest] at hy
      exact anonymous y (List.mem_of_mem_drop hy)
    · rw [rest]
      exact once.2.1

end Catalog

end DebugClient
