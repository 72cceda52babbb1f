import Mathlib
import DebugClient.Proofs.Session.Bindings
import DebugClient.Proofs.Session.Leftovers
/-!
# Takeovers — a source map that gives way to another

A script that is parsed takes the identity of its source map from the
script that had it, and the map of that script is detached. The identity
is a text: the context, the source URL and the map URL with colons between
them. The context is read off it, but URLs have colons of their own, so
two scripts of one context share an identity not only if they have the
same URLs, but also where one URL runs over into the other
(`parse_detaches_iff`).
-/

namespace DebugClient

namespace Script

/-! ## Identities -/

theorem append_cons_eq_iff {α : Type} {a b c d : List α} {x : α} :
    a ++ x :: b = c ++ x :: d ↔
      a = c ∧ b = d ∨ (∃ w, c = a ++ x :: w ∧ b = w ++ x :: d) ∨
        ∃ w, a = c ++ x :: w ∧ d = w ++ x :: b := by
  rw [List.append_eq_append_iff]
  constructor
  · rintro (⟨w, rfl, h⟩ | ⟨w, rfl, h⟩) <;> cases w with
    | nil =>
      rw [List.nil_append, List.cons.injEq] at h
      simp [h.2]
    | cons y w =>
      rw [List.cons_append, List.cons.injEq] at h
      simp [← h.1, ← h.2]
  · rintro (⟨rfl, rfl⟩ | ⟨w, rfl, rfl⟩ | ⟨w, rfl, rfl⟩)
    · exact .inl ⟨[], by simp, rfl⟩
    · exact .inl ⟨x :: w, rfl, rfl⟩
    · exact .inr ⟨x :: w, rfl, rfl⟩

/-- Of two pairs that are joined by a colon, the first part of the second
pair reaches past the colon of the first pair. -/
def RunsOver (a b c d : String) : Prop := ∃ w, c = a ++ ":" ++ w ∧ b = w ++ ":" ++ d

theorem toList_joined (a b : String) : (a ++ ":" ++ b).toList = a.toList ++ ':' :: b.toList := by
  simp

theorem runsOver_iff {a b c d : String} :
    RunsOver a b c d ↔
      ∃ w, c.toList = a.toList ++ ':' :: w ∧ b.toList = w ++ ':' :: d.toList := by
  constructor
  · rintro ⟨w, rfl, rfl⟩
    exact ⟨w.toList, toList_joined a w, toList_joined w d⟩
  · rintro ⟨w, hc, hb⟩
    refine ⟨String.ofList w, String.toList_inj.1 ?_, String.toList_inj.1 ?_⟩
    · rw [hc, toList_joined, String.toList_ofList]
    · rw [hb, toList_joined, String.toList_ofList]

/-- Texts joined by a colon are the same if their parts are, or if one part
runs over. -/
theorem joined_eq_iff {a b c d : String} :
    a ++ ":" ++ b = c ++ ":" ++ d ↔ a = c ∧ b = d ∨ RunsOver a b c d ∨ RunsOver c d a b := by
  rw [← String.toList_inj, toList_joined, toList_joined, append_cons_eq_iff, runsOver_iff,
    runsOver_iff, String.toList_inj, String.toList_inj]

/-- The number of a context has no colon. -/
theorem colon_not_mem_repr (context : ContextId) : ':' ∉ (Int.repr context).toList := by
  have natural : ∀ n : Nat, ':' ∉ n.repr.toList := by
    intro n there
    rw [Nat.repr_eq_ofList_toDigits, String.toList_ofList] at there
    exact absurd (Nat.isDigit_of_mem_toDigits (by decide) (by decide) there) (by decide)
  cases context with
  | ofNat n => exact natural n
  | negSucc n => simpa [Int.repr] using natural (n + 1)

/-- So the context is read off what stands in front of the first colon. -/
theorem numbered_eq_iff {context context' : ContextId} {text text' : String} :
    Int.repr context ++ ":" ++ text = Int.repr context' ++ ":" ++ text' ↔
      context = context' ∧ text = text' := by
  have apart : ∀ {context context' : ContextId} {text text' : String},
      ¬RunsOver (Int.repr context) text (Int.repr context') text' := by
    intro context context' text text' runs
    obtain ⟨w, reach, -⟩ := runsOver_iff.1 runs
    exact colon_not_mem_repr context' (by simp [reach])
  rw [joined_eq_iff, or_iff_left (not_or.2 ⟨apart, apart⟩), Int.repr_inj]

/-- **When two maps share an identity**: in one context, if both have a URL
and the URLs read the same joined. -/
theorem share_identity_iff {context context' : ContextId} {url url' : String}
    {map map' : Option String} :
    (∃ id, mapIdentity context url map = some id ∧ mapIdentity context' url' map' = some id) ↔
      context = context' ∧ ∃ m m', nonEmpty map = some m ∧ nonEmpty map' = some m' ∧
        (url = url' ∧ m = m' ∨ RunsOver url m url' m' ∨ RunsOver url' m' url m) := by
  have text : ∀ (context : ContextId) (url : String) (map : Option String),
      mapIdentity context url map =
        (nonEmpty map).map fun m => Int.repr context ++ ":" ++ (url ++ ":" ++ m) := by
    intro context url map
    simp [mapIdentity, toString, String.append_assoc]
  simp only [text, Option.map_eq_some_iff]
  constructor
  · rintro ⟨id, ⟨m, hm, rfl⟩, m', hm', same⟩
    obtain ⟨rfl, urls⟩ := numbered_eq_iff.1 same.symm
    exact ⟨rfl, m, m', hm, hm', joined_eq_iff.1 urls⟩
  · rintro ⟨rfl, m, m', hm, hm', urls⟩
    have same : url ++ ":" ++ m = url' ++ ":" ++ m' := joined_eq_iff.2 urls
    exact ⟨_, ⟨m, hm, rfl⟩, m', hm', by rw [same]⟩

/-- A text that is empty is none, and then it stays none. -/
theorem nonEmpty_nonEmpty (text : Option String) : nonEmpty (nonEmpty text) = nonEmpty text := by
  simp [nonEmpty, Option.filter_filter]

end Script

namespace Session

/-! ## What a parse orders -/

/-- Map URLs were replaced of scripts that were registered. -/
def Traced (s : Session) : Prop := ∀ e ∈ s.mapUrls, ∃ x ∈ s.registered, x.key = e.1

theorem Traced.mapsOnly {s s' : Session} (h : Traced s) (only : MapsOnly s s')
    (mapUrls : s'.mapUrls = s.mapUrls) : Traced s' := by
  rw [Traced, mapUrls, only.registered]
  exact h

theorem Traced.discard {s : Session} (h : Traced s) (x : Script) : Traced (s.discard x) := by
  have ledger := ledger_discard s x
  have mapUrls : (s.discard x).mapUrls = s.mapUrls := congrArg Ledger.mapUrls ledger
  have registered : (s.discard x).registered = s.registered := congrArg Ledger.registered ledger
  rw [Traced, mapUrls, registered]
  exact h

theorem steady_traced : Steady Traced where
  aside s s' same h := by
    have mapUrls : s'.mapUrls = s.mapUrls := congrArg Ledger.mapUrls same
    have registered : s'.registered = s.registered := congrArg Ledger.registered same
    rw [Traced, mapUrls, registered]
    exact h
  parsed s r failed h := by
    unfold Session.parsed
    split
    · exact h
    dsimp only
    have there : Traced ({ s with nextKey := s.nextKey.next }.register
        (.ofReport s.nextKey r failed (ofExtension r))) := fun e he =>
      (h e he).imp fun x hx => ⟨List.mem_cons_of_mem _ hx.1, hx.2⟩
    cases failed with
    | false => exact there.mapsOnly (mapsOnly_attachMap _ _) (mapUrls_attachMap _ _)
    | true =>
      simp only [Bool.true_and, if_true]
      split
      · exact there.discard _
      · exact there
  setMapUrl s x url hx h := by
    have registered := (mapsOnly_unbindMap s x).registered
    have replaced : Traced (((s.unbindMap x).order (.detach x)).replaceMapUrl x url) := by
      intro e he
      change ∃ y ∈ (s.unbindMap x).registered, y.key = e.1
      rw [registered]
      rcases List.mem_cons.1 he with rfl | he
      · exact ⟨x, hx, rfl⟩
      · exact h e (mapUrls_unbindMap s x ▸ (List.mem_filter.1 he).1)
    exact replaced.mapsOnly (mapsOnly_attachMap _ _) (mapUrls_attachMap _ _)
  dropContextMaps s id h := by
    refine h.mapsOnly (mapsOnly_dropContextMaps s id) ?_
    unfold Session.dropContextMaps
    dsimp only
    rw [detachAll_eq]
  forgetScripts s h := by
    have emptied : Traced { s with catalog := {} } := h
    have gone : Traced ({ s with catalog := {} }.detachAll s.catalog.clear.1) := by
      refine emptied.mapsOnly (mapsOnly_detachAll _ _) ?_
      rw [detachAll_eq]
    exact gone

/-- No map URL was replaced of the script that comes next. -/
theorem Traced.fresh {s : Session} (h : Traced s) (keyed : Keyed s) :
    s.mapUrls.lookup s.nextKey = none := by
  refine Lookup.lookup_eq_none fun there => ?_
  obtain ⟨e, he, next⟩ := List.mem_map.1 there
  obtain ⟨x, hx, same⟩ := h e he
  have older := keyed.fresh x hx
  rw [same, next] at older
  exact Nat.lt_irrefl _ older

/-- From one state to another, the map of a script was detached. -/
def Detached (x : Script) (s s' : Session) : Prop :=
  ∃ news, s'.orders = news ++ s.orders ∧ .detach x ∈ news

theorem detached_iff {x : Script} {s s' : Session} {news : List MapOrder}
    (orders : s'.orders = news ++ s.orders) : Detached x s s' ↔ .detach x ∈ news := by
  constructor
  · rintro ⟨others, same, there⟩
    rw [orders] at same
    exact List.append_cancel_right same ▸ there
  · exact fun there => ⟨news, orders, there⟩

/-- The script that is bound to an identity is the one that is attached
and has it. -/
theorem Bound.lookup_iff {s : Session} (h : Bound s) {id : String} {x : Script} :
    s.catalog.maps.lookup id = some x ↔
      x ∈ MapOrder.attached s.orders ∧ s.mapIdentity x = some id := by
  rw [Lookup.lookup_iff_mem h.once, h.attached]
  constructor
  · exact fun there => ⟨⟨id, there⟩, h.identity (id, x) there⟩
  · rintro ⟨⟨own, there⟩, named⟩
    have is : s.mapIdentity x = some own := h.identity (own, x) there
    rw [named] at is
    exact Option.some.inj is ▸ there

/-- A new script that has a map detaches the one that is bound to its
identity, and no other. -/
theorem detached_parsed {s : Session} (bound : Bound s) (traced : Traced s) {r : Wire.ScriptReport}
    (new : s.catalog.find? r.scriptId = none) (x : Script) :
    Detached x s (Session.parsed r false s).2 ↔
      ∃ id, Script.mapIdentity r.executionContextId r.url r.sourceMapUrl = some id ∧
        s.catalog.maps.lookup id = some x := by
  let y : Script := .ofReport s.nextKey r false (ofExtension r)
  let there : Session := { s with nextKey := s.nextKey.next }.register y
  have parsed : (Session.parsed r false s).2 = there.attachMap y := by
    simp [Session.parsed, new, there, y]
  have mapUrl : there.mapUrl y = Script.nonEmpty r.sourceMapUrl := by
    change (s.mapUrls.lookup s.nextKey).getD (Script.nonEmpty r.sourceMapUrl) = _
    rw [traced.fresh bound.keyed, Option.getD_none]
  have mapIdentity : there.mapIdentity y =
      Script.mapIdentity r.executionContextId r.url r.sourceMapUrl := by
    change Script.mapIdentity r.executionContextId r.url (there.mapUrl y) = _
    rw [mapUrl, Script.mapIdentity, Script.nonEmpty_nonEmpty, Script.mapIdentity]
  rw [← mapIdentity, parsed]
  cases named : there.mapIdentity y with
  | none =>
    have same : there.attachMap y = there := by simp [attachMap, named]
    have orders : (there.attachMap y).orders = [] ++ s.orders := by
      rw [same]
      rfl
    rw [detached_iff orders]
    simp
  | some id =>
    obtain ⟨url, declared⟩ : ∃ url, there.mapUrl y = some url := by
      refine Option.ne_none_iff_exists'.1 fun none => ?_
      simp [Session.mapIdentity, none, Script.mapIdentity, Script.nonEmpty] at named
    -- The script has a new key, so it does not give way to itself.
    have other : ∀ p, there.catalog.maps.lookup id = some p → p.key ≠ y.key := by
      intro p held same
      have older := bound.keyed.fresh p (bound.registered _ (Lookup.mem_of_lookup held))
      rw [same] at older
      exact Nat.lt_irrefl _ older
    have orders : (there.attachMap y).orders =
        (.attach y url :: (s.catalog.maps.lookup id).toList.map .detach) ++ s.orders := by
      rw [orders_attachMap declared named other]
      change _ :: MapOrder.detaches (s.catalog.maps.lookup id).toList s.orders = _
      cases s.catalog.maps.lookup id <;> rfl
    rw [detached_iff orders]
    simp

/-- A script that compiled takes its identity over, if it is new. -/
theorem detached_parsed_iff {s : Session} (bound : Bound s) (traced : Traced s)
    (r : Wire.ScriptReport) (x : Script) :
    Detached x s (Session.parsed r false s).2 ↔
      s.catalog.find? r.scriptId = none ∧ x ∈ MapOrder.attached s.orders ∧
        ∃ id, s.mapIdentity x = some id ∧
          Script.mapIdentity r.executionContextId r.url r.sourceMapUrl = some id := by
  cases new : s.catalog.find? r.scriptId with
  | some known =>
    have same : (Session.parsed r false s).2.orders = [] ++ s.orders := by
      rw [parsed_of_known new]
      rfl
    rw [detached_iff same]
    simp
  | none =>
    rw [detached_parsed bound traced new]
    simp only [bound.lookup_iff, true_and]
    constructor
    · rintro ⟨id, named, attached, held⟩
      exact ⟨attached, id, held, named⟩
    · rintro ⟨attached, id, held, named⟩
      exact ⟨id, named, attached, held⟩

/-- **Whose map is detached by a script that is parsed**, whatever was
reported, replaced and forgotten before: that of a script that is attached
and of the same context, if both have the same URLs, or if one of the URLs
runs over into the other. -/
theorem parse_detaches_iff (seat : Nat) (target : Target) (settings : Settings)
    (moves : List (Flow.Move ScriptCall (Ticket × Reply))) (r : Wire.ScriptReport) (x : Script) :
    let s := afterScripts seat target settings moves
    Detached x s (Session.parsed r false s).2 ↔
      s.catalog.find? r.scriptId = none ∧ x ∈ MapOrder.attached s.orders ∧
        x.contextId = r.executionContextId ∧
        ∃ map map', Script.nonEmpty (s.mapUrl x) = some map ∧
          Script.nonEmpty r.sourceMapUrl = some map' ∧
          (x.sourceUrl = r.url ∧ map = map' ∨ Script.RunsOver x.sourceUrl map r.url map' ∨
            Script.RunsOver r.url map' x.sourceUrl map) := by
  intro s
  have bound : Bound s := steady_bound.after seat target settings (bound_connect _ _ _) moves
  have traced : Traced s :=
    steady_traced.after seat target settings (fun e he => absurd he List.not_mem_nil) moves
  rw [detached_parsed_iff bound traced, ← Script.share_identity_iff]
  rfl

/-- A script that compiled, with the URL of its map. -/
def compiled (id url map : String) : Wire.ScriptReport :=
  { page with scriptId := id, url := url, sourceMapUrl := some map }

/-- A map is detached by that of another source. -/
theorem unrelated_detached :
    let first := compiled "1" "webpack" "http://h/a.map"
    let second := compiled "2" "webpack:http" "//h/a.map"
    let s := afterScripts 0 (.root ⟨0, "page", .frame⟩) {} [.begin (.parse first false)]
    ∃ x, x.sourceUrl = first.url ∧ s.mapUrl x = first.sourceMapUrl ∧
      x ∈ MapOrder.attached s.orders ∧ Detached x s (Session.parsed second false s).2 ∧
      ¬(x.sourceUrl = second.url ∧ s.mapUrl x = second.sourceMapUrl) := by
  intro first second s
  refine ⟨.ofReport ⟨0, 0⟩ first false false, rfl, rfl, ?_, ?_, ?_⟩
  · exact List.mem_cons_self ..
  · exact ⟨[.attach (.ofReport ⟨0, 1⟩ second false false) "//h/a.map",
      .detach (.ofReport ⟨0, 0⟩ first false false)], rfl, by simp⟩
  · decide

end Session

end DebugClient
