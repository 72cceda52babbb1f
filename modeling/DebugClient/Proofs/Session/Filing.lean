import DebugClient.Proofs.Script.Indexes
import DebugClient.Proofs.Session.Ledger
/-!
# Filing — the scripts of a session and how they are found

Whatever scripts are reported, evicted and forgotten, the scripts of a
session are in the order they were registered, each identifier has one,
and the scripts of a URL are those that have it, newest first
(`scripts_filed`). A report of a script that is there does nothing.

The invariant is `InOrder`. The source maps do not matter to it: what
replaces or drops them leaves the scripts as they are (`MapsOnly`).
-/

namespace DebugClient

namespace Session

/-! ## What only concerns source maps -/

/-- A change of a session that leaves its scripts as they are. -/
structure MapsOnly (s s' : Session) : Prop where
  /-- The catalog is the same but for the maps. -/
  catalog : s'.catalog = { s.catalog with maps := s'.catalog.maps }
  /-- No key was made. -/
  nextKey : s'.nextKey = s.nextKey
  /-- No script was registered. -/
  registered : s'.registered = s.registered

theorem MapsOnly.refl (s : Session) : MapsOnly s s := ⟨rfl, rfl, rfl⟩

theorem MapsOnly.trans {s s' s'' : Session} (h : MapsOnly s s') (h' : MapsOnly s' s'') :
    MapsOnly s s'' := by
  refine ⟨?_, h'.nextKey.trans h.nextKey, h'.registered.trans h.registered⟩
  rw [h'.catalog, h.catalog]

theorem mapsOnly_order (s : Session) (order : MapOrder) : MapsOnly s (s.order order) :=
  ⟨rfl, rfl, rfl⟩

theorem mapsOnly_bound (s : Session) (maps : List (String × Script)) :
    MapsOnly s { s with catalog := { s.catalog with maps } } := ⟨rfl, rfl, rfl⟩

theorem mapsOnly_giveWay (s : Session) (previous : Option Script) (script : Script) :
    MapsOnly s (s.giveWay previous script) := by
  unfold giveWay
  split
  · split
    · exact .refl s
    · exact mapsOnly_order s _
  · exact .refl s

theorem mapsOnly_attachMap (s : Session) (script : Script) : MapsOnly s (s.attachMap script) := by
  unfold attachMap
  split
  · exact ((mapsOnly_bound s _).trans (mapsOnly_giveWay _ _ script)).trans (mapsOnly_order _ _)
  · exact .refl s

theorem mapsOnly_unbindMap (s : Session) (script : Script) : MapsOnly s (s.unbindMap script) := by
  unfold unbindMap Catalog.unbind
  split
  · split
    · exact mapsOnly_bound s _
    · exact .refl s
  · exact .refl s

theorem mapsOnly_setMapUrl (s : Session) (script : Script) (url : String) :
    MapsOnly s (s.setMapUrl script url) := by
  have unbound := (mapsOnly_unbindMap s script).trans (mapsOnly_order _ (.detach script))
  have replaced : MapsOnly s (((s.unbindMap script).order (.detach script)).replaceMapUrl script url) :=
    unbound.trans ⟨rfl, rfl, rfl⟩
  exact replaced.trans (mapsOnly_attachMap _ script)

theorem mapsOnly_detachAll (s : Session) (scripts : List Script) : MapsOnly s (s.detachAll scripts) := by
  induction scripts generalizing s with
  | nil => exact .refl s
  | cons script rest ih => exact (mapsOnly_order s _).trans (ih _)

theorem mapsOnly_dropContextMaps (s : Session) (context : ContextId) :
    MapsOnly s (s.dropContextMaps context) :=
  (mapsOnly_bound s _).trans (mapsOnly_detachAll _ _)

/-! ## The invariant -/

/-- **Scripts in order**: the catalog is filed, its queue holds what is
there, and what is there is in the order it was registered. -/
structure InOrder (s : Session) : Prop where
  /-- The indexes agree. -/
  filed : s.catalog.Filed
  /-- The queue holds what is there. -/
  queued : s.catalog.Queued
  /-- The scripts are some of those that were registered, in that order. -/
  order : s.catalog.scripts.Sublist s.registered.reverse

theorem InOrder.maps {s s' : Session} (h : InOrder s) (only : MapsOnly s s') : InOrder s' := by
  have filed : ({ s.catalog with maps := s'.catalog.maps } : Catalog).Filed :=
    ⟨h.filed.ids, h.filed.urls, h.filed.byUrl⟩
  have queued : ({ s.catalog with maps := s'.catalog.maps } : Catalog).Queued :=
    ⟨h.queued.mem, h.queued.anonymous, h.queued.once⟩
  have scripts : s'.catalog.scripts = s.catalog.scripts := by rw [only.catalog]
  rw [← only.catalog] at filed queued
  exact ⟨filed, queued, by rw [scripts, only.registered]; exact h.order⟩

theorem InOrder.aside {s s' : Session} (same : s'.ledger = s.ledger) (h : InOrder s) : InOrder s' := by
  have catalog : s'.catalog = s.catalog := congrArg Ledger.catalog same
  have registered : s'.registered = s.registered := congrArg Ledger.registered same
  exact ⟨catalog ▸ h.filed, catalog ▸ h.queued, by rw [catalog, registered]; exact h.order⟩

/-- A script with a new identifier is registered last. -/
theorem InOrder.register {s : Session} (h : InOrder s) {x : Script}
    (new : s.catalog.find? x.scriptId = none) : InOrder (s.register x) := by
  refine ⟨h.filed.register new, h.queued.register new, ?_⟩
  have registered : (s.register x).registered = x :: s.registered := rfl
  have scripts : (s.register x).catalog.scripts = s.catalog.scripts ++ [x] :=
    Catalog.scripts_register new
  rw [registered, scripts, List.reverse_cons]
  exact h.order.append (.refl _)

theorem ledger_discard (s : Session) (x : Script) :
    (s.discard x).ledger = { s.ledger with catalog := (s.catalog.discard x).2 } :=
  ledger_emitAll (fun x => .debugger (.scriptDiscarded x)) (fun _ => rfl) (fun _ => rfl) _ _

/-- A script that does not compile goes to the queue, and may drive others
out. -/
theorem InOrder.discard {s : Session} (h : InOrder s) {x : Script} (hx : x ∈ s.catalog.scripts)
    (anonymous : x.isAnonymous = true)
    (new : x.scriptId ∉ s.catalog.discardable.map (·.scriptId)) : InOrder (s.discard x) := by
  have catalog : (s.discard x).catalog = (s.catalog.discard x).2 :=
    congrArg Ledger.catalog (ledger_discard s x)
  have registered : (s.discard x).registered = s.registered :=
    congrArg Ledger.registered (ledger_discard s x)
  obtain ⟨filed, queued, kept⟩ := h.filed.discard h.queued hx anonymous new
  refine ⟨catalog ▸ filed, catalog ▸ queued, ?_⟩
  rw [catalog, registered]
  exact kept.trans h.order

/-- Taking in a report keeps the scripts in order. -/
theorem InOrder.parsed {s : Session} (h : InOrder s) (r : Wire.ScriptReport) (failed : Bool) :
    InOrder (Session.parsed r failed s).2 := by
  unfold Session.parsed
  split
  · exact h
  rename_i new
  dsimp only
  have keyed : InOrder { s with nextKey := s.nextKey.next } := ⟨h.filed, h.queued, h.order⟩
  have there := keyed.register (x := .ofReport s.nextKey r failed (ofExtension r)) new
  cases failed with
  | false => exact there.maps (mapsOnly_attachMap _ _)
  | true =>
    simp only [Bool.true_and, if_true]
    split
    · -- Scripts in the queue are registered, and this one was not.
      rename_i anonymous
      refine there.discard ?_ anonymous fun queued => ?_
      · exact List.mem_of_find?_eq_some (Catalog.find?_register _ _)
      · obtain ⟨y, hy, same⟩ := List.mem_map.1 queued
        exact List.find?_eq_none.1 new y (h.queued.mem y hy) (beq_iff_eq.2 same)
    · exact there

theorem steady_inOrder : Steady InOrder where
  aside _ _ same h := h.aside same
  parsed _ r failed h := h.parsed r failed
  setMapUrl s x url _ h := h.maps (mapsOnly_setMapUrl s x url)
  dropContextMaps s id h := h.maps (mapsOnly_dropContextMaps s id)
  forgetScripts s h := by
    have detached := mapsOnly_detachAll { s with catalog := {} } s.catalog.clear.1
    have empty : InOrder { s with catalog := {} } :=
      ⟨Catalog.filed_empty, Catalog.queued_empty, List.nil_sublist _⟩
    have gone := empty.maps detached
    exact ⟨gone.filed, gone.queued, gone.order⟩

theorem inOrder_connect (seat : Nat) (target : Target) (settings : Settings) :
    InOrder (connect seat target settings) :=
  ⟨Catalog.filed_empty, Catalog.queued_empty, List.nil_sublist _⟩

/-! ## Every run -/

/-- **The scripts of a session**, whatever was reported, evicted and
forgotten, in any order: no two have one identifier; they are in the order
they were registered; an identifier finds the one that has it; a URL finds
those that have it, newest first, and the empty one none; and a report of
one that is there gives it back and does nothing. -/
theorem scripts_filed (seat : Nat) (target : Target) (settings : Settings)
    (moves : List (Flow.Move ScriptCall (Ticket × Reply))) :
    let s := afterScripts seat target settings moves
    (s.catalog.scripts.map (·.scriptId)).Nodup ∧
      s.catalog.scripts.Sublist s.registered.reverse ∧
      (∀ id x, s.catalog.find? id = some x ↔ x ∈ s.catalog.scripts ∧ x.scriptId = id) ∧
      (∀ url, s.catalog.forUrl url =
        if url = "" then [] else (s.catalog.scripts.filter (·.sourceUrl == url)).reverse) ∧
      ∀ x ∈ s.catalog.scripts, ∀ (r : Wire.ScriptReport) (failed : Bool),
        r.scriptId = x.scriptId → Session.parsed r failed s = (x, s) := by
  intro s
  have order : InOrder s := steady_inOrder.after seat target settings (inOrder_connect _ _ _) moves
  refine ⟨order.filed.ids, order.order, fun id x => order.filed.find?_iff, order.filed.byUrl, ?_⟩
  intro x hx r failed same
  exact parsed_of_known (order.filed.find?_iff.2 ⟨hx, same.symm⟩) failed

end Session

end DebugClient
