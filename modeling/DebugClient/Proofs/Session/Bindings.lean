import DebugClient.Proofs.Session.Filing
/-!
# Bindings — source maps that are attached

The catalog binds the identity of a source map to the script that has it,
and the source maps are told which scripts to attach and detach. Neither
asks the other: whatever binds, rebinds, frees or takes over an identity
has to give the orders that go with it. `Bound` says that it did, and
`maps_attached` that it does so in every run: the scripts that are
attached are the scripts that are bound.
-/

namespace DebugClient

namespace MapOrder

/-- The scripts that are attached after some orders, newest first: those
that were attached and not detached since. -/
def attached : List MapOrder → List Script
  | [] => []
  | attach script _ :: older => script :: attached older
  | detach script :: older => (attached older).filter (·.key ≠ script.key)
  | setEnabled _ :: older => attached older
  | dispose :: _ => []

/-- No script was attached while it was. The orders are newest first. -/
def NoneTwice (orders : List MapOrder) : Prop :=
  ∀ newer older script url, orders = newer ++ attach script url :: older →
    ∀ x ∈ attached older, x.key ≠ script.key

theorem noneTwice_nil : NoneTwice [] := fun newer older script url h => by simp at h

theorem NoneTwice.attach {orders : List MapOrder} (h : NoneTwice orders) {script : Script}
    (free : ∀ x ∈ attached orders, x.key ≠ script.key) (url : String) :
    NoneTwice (.attach script url :: orders) := by
  intro newer older x u e
  cases newer with
  | nil =>
    cases e
    exact free
  | cons o rest => exact h rest older x u (List.cons.inj e).2

/-- Orders of other kinds attach nothing. -/
theorem NoneTwice.other {orders : List MapOrder} (h : NoneTwice orders) {order : MapOrder}
    (other : ∀ script url, order ≠ .attach script url) : NoneTwice (order :: orders) := by
  intro newer older x u e
  cases newer with
  | nil => exact absurd (List.cons.inj e).1 (other x u)
  | cons o rest => exact h rest older x u (List.cons.inj e).2

theorem NoneTwice.detach {orders : List MapOrder} (h : NoneTwice orders) (script : Script) :
    NoneTwice (.detach script :: orders) :=
  h.other fun _ _ e => MapOrder.noConfusion e

theorem mem_attached_detach {orders : List MapOrder} {script x : Script} :
    x ∈ attached (.detach script :: orders) ↔ x ∈ attached orders ∧ x.key ≠ script.key := by
  simp [attached]

/-- Detaches scripts one after another. -/
def detaches (scripts : List Script) (orders : List MapOrder) : List MapOrder :=
  scripts.foldl (fun orders script => .detach script :: orders) orders

theorem mem_attached_detaches {scripts : List Script} {orders : List MapOrder} {x : Script} :
    x ∈ attached (detaches scripts orders) ↔
      x ∈ attached orders ∧ ∀ y ∈ scripts, x.key ≠ y.key := by
  induction scripts generalizing orders with
  | nil => simp [detaches]
  | cons script rest ih =>
    rw [detaches, List.foldl_cons, ← detaches, ih, mem_attached_detach]
    simp [and_assoc]

theorem NoneTwice.detaches {orders : List MapOrder} (h : NoneTwice orders) (scripts : List Script) :
    NoneTwice (detaches scripts orders) := by
  induction scripts generalizing orders with
  | nil => exact h
  | cons script rest ih => exact ih (h.detach script)

end MapOrder

namespace Session

/-! ## Keys -/

/-- **Keys tell scripts apart**: each script that was registered has a key
of its own, and the next key is of none. -/
structure Keyed (s : Session) : Prop where
  /-- Newer scripts have higher numbers. -/
  rising : s.registered.Pairwise fun x y => y.key.number < x.key.number
  /-- The next number is higher than all. -/
  fresh : ∀ x ∈ s.registered, x.key.number < s.nextKey.number

theorem Keyed.congr {s s' : Session} (h : Keyed s) (nextKey : s'.nextKey = s.nextKey)
    (registered : s'.registered = s.registered) : Keyed s' := by
  refine ⟨registered ▸ h.rising, ?_⟩
  rw [registered, nextKey]
  exact h.fresh

theorem Keyed.injective {s : Session} (h : Keyed s) {x y : Script} (hx : x ∈ s.registered)
    (hy : y ∈ s.registered) (same : x.key = y.key) : x = y := by
  have apart : (s.registered.map (·.key)).Nodup := by
    refine List.pairwise_map.2 (h.rising.imp fun lt e => ?_)
    rw [e] at lt
    exact Nat.lt_irrefl _ lt
  exact List.inj_on_of_nodup_map apart hx hy same

/-! ## The invariant -/

/-- **Bindings and orders agree.** Each identity is bound to a script whose
map has it, and the scripts that are bound are those that are attached. -/
structure Bound (s : Session) : Prop where
  /-- Keys tell scripts apart. -/
  keyed : Keyed s
  /-- An identity is bound once. -/
  once : (s.catalog.maps.map (·.1)).Nodup
  /-- It is that of the script it is bound to. -/
  identity : ∀ e ∈ s.catalog.maps, s.mapIdentity e.2 = some e.1
  /-- That script was registered. -/
  registered : ∀ e ∈ s.catalog.maps, e.2 ∈ s.registered
  /-- What is attached is what is bound. -/
  attached : ∀ x, x ∈ MapOrder.attached s.orders ↔ ∃ id, (id, x) ∈ s.catalog.maps
  /-- Nothing was attached twice. -/
  noneTwice : MapOrder.NoneTwice s.orders

/-- The map URL of a script depends on what was replaced only. -/
theorem mapIdentity_congr {s s' : Session} {x : Script}
    (h : s'.mapUrls.lookup x.key = s.mapUrls.lookup x.key) : s'.mapIdentity x = s.mapIdentity x := by
  simp [mapIdentity, mapUrl, h]

/-- The scripts of the catalog do not matter. -/
theorem Bound.congr {s s' : Session} (h : Bound s) (maps : s'.catalog.maps = s.catalog.maps)
    (mapUrls : s'.mapUrls = s.mapUrls) (nextKey : s'.nextKey = s.nextKey)
    (registered : s'.registered = s.registered) (orders : s'.orders = s.orders) : Bound s' := by
  refine ⟨h.keyed.congr nextKey registered, maps ▸ h.once, ?_, ?_, ?_, orders ▸ h.noneTwice⟩
  · rw [maps]
    exact fun e he => (mapIdentity_congr (by rw [mapUrls])).trans (h.identity e he)
  · rw [maps, registered]
    exact h.registered
  · rw [maps, orders]
    exact h.attached

theorem Bound.aside {s s' : Session} (same : s'.ledger = s.ledger) (h : Bound s) : Bound s' := by
  have catalog : s'.catalog = s.catalog := congrArg Ledger.catalog same
  exact h.congr (congrArg Catalog.maps catalog) (congrArg Ledger.mapUrls same)
    (congrArg Ledger.nextKey same) (congrArg Ledger.registered same) (congrArg Ledger.orders same)

/-- A script with the key of a bound one is that one, and has the
identity. -/
theorem Bound.eq_of_key {s : Session} (h : Bound s) {x : Script} (hx : x ∈ s.registered)
    {e : String × Script} (he : e ∈ s.catalog.maps) (same : e.2.key = x.key) : e.2 = x :=
  h.keyed.injective (h.registered e he) hx same

/-- Two identities of one script are the same, and so are two scripts of
one identity. -/
theorem Bound.eq_of_identity {s : Session} (h : Bound s) {e f : String × Script}
    (he : e ∈ s.catalog.maps) (hf : f ∈ s.catalog.maps)
    (same : s.mapIdentity e.2 = s.mapIdentity f.2) : e = f := by
  rw [h.identity e he, h.identity f hf] at same
  exact List.inj_on_of_nodup_map h.once he hf (Option.some.inj same)

/-- A script is bound to one identity. -/
theorem Bound.scripts_nodup {s : Session} (h : Bound s) : (s.catalog.maps.map (·.2)).Nodup := by
  refine (List.Nodup.of_map _ h.once).map_on fun e he f hf same => ?_
  exact h.eq_of_identity he hf (congrArg s.mapIdentity same)

/-! ### Attaching -/

section Attaching

variable {s : Session} {x : Script} {url id : String}

theorem mapUrls_giveWay (s : Session) (previous : Option Script) (x : Script) :
    (s.giveWay previous x).mapUrls = s.mapUrls := by
  unfold giveWay
  split <;> [split; skip] <;> rfl

theorem mapUrls_attachMap (s : Session) (x : Script) : (s.attachMap x).mapUrls = s.mapUrls := by
  unfold attachMap
  split
  · exact mapUrls_giveWay _ _ _
  · rfl

theorem attachMap_eq (hurl : s.mapUrl x = some url) (hid : s.mapIdentity x = some id) :
    s.attachMap x = ({ s with catalog := (s.catalog.bind id x).2 }.giveWay
      (s.catalog.bind id x).1 x).order (.attach x url) := by
  simp [attachMap, hurl, hid]

theorem maps_attachMap (hurl : s.mapUrl x = some url) (hid : s.mapIdentity x = some id) :
    (s.attachMap x).catalog.maps = (id, x) :: s.catalog.maps.filter (·.1 != id) := by
  rw [attachMap_eq hurl hid]
  unfold giveWay
  split <;> [split; skip] <;> rfl

theorem orders_attachMap (hurl : s.mapUrl x = some url) (hid : s.mapIdentity x = some id)
    (other : ∀ p, s.catalog.maps.lookup id = some p → p.key ≠ x.key) :
    (s.attachMap x).orders =
      .attach x url :: MapOrder.detaches (s.catalog.maps.lookup id).toList s.orders := by
  rw [attachMap_eq hurl hid]
  change _ :: (giveWay _ (s.catalog.maps.lookup id) x).orders = _
  cases found : s.catalog.maps.lookup id with
  | none => rfl
  | some p =>
    rw [giveWay, if_neg (other p found)]
    rfl

/-- **Attaching a script that has no map**: it takes its identity from the
script that had it, which is detached. -/
theorem Bound.attachMap (h : Bound s) (hx : x ∈ s.registered)
    (free : ∀ e ∈ s.catalog.maps, e.2.key ≠ x.key) : Bound (s.attachMap x) := by
  rcases hid : s.mapIdentity x with _ | id
  · have same : s.attachMap x = s := by simp [Session.attachMap, hid]
    rw [same]
    exact h
  rcases hurl : s.mapUrl x with _ | url
  · have same : s.attachMap x = s := by simp [Session.attachMap, hurl]
    rw [same]
    exact h
  have previous : ∀ p, s.catalog.maps.lookup id = some p ↔ (id, p) ∈ s.catalog.maps := fun p =>
    Lookup.lookup_iff_mem h.once
  have maps := maps_attachMap hurl hid
  have orders := orders_attachMap hurl hid fun p hp => free (id, p) ((previous p).1 hp)
  have kept : ∀ e, e ∈ (s.attachMap x).catalog.maps ↔ e = (id, x) ∨ e ∈ s.catalog.maps ∧ e.1 ≠ id := by
    simp [maps]
  -- What is attached is bound, so the script itself is not.
  have unattached : ∀ y ∈ MapOrder.attached s.orders, y.key ≠ x.key := by
    intro y hy
    obtain ⟨i, hi⟩ := (h.attached y).1 hy
    exact free (i, y) hi
  have only := mapsOnly_attachMap s x
  refine ⟨h.keyed.congr only.nextKey only.registered, ?_, ?_, ?_, ?_, ?_⟩
  · rw [maps, List.map_cons, List.nodup_cons]
    refine ⟨fun there => ?_, h.once.sublist (List.filter_sublist.map _)⟩
    obtain ⟨e, he, same⟩ := List.mem_map.1 there
    exact bne_iff_ne.1 (List.mem_filter.1 he).2 same
  · intro e he
    have same : (s.attachMap x).mapIdentity e.2 = s.mapIdentity e.2 :=
      mapIdentity_congr (by rw [mapUrls_attachMap])
    rw [same]
    rcases (kept e).1 he with rfl | ⟨he, -⟩
    · exact hid
    · exact h.identity e he
  · intro e he
    rw [only.registered]
    rcases (kept e).1 he with rfl | ⟨he, -⟩
    · exact hx
    · exact h.registered e he
  · intro y
    -- The script that gives way is the one of the identity, and has no other.
    have gone : ∀ i, (i, y) ∈ s.catalog.maps →
        ((∀ p ∈ (s.catalog.maps.lookup id).toList, y.key ≠ p.key) ↔ i ≠ id) := by
      intro i hi
      simp only [Option.mem_toList, previous]
      constructor
      · rintro apart rfl
        exact apart y hi rfl
      · intro ne p hp same
        have e := h.eq_of_key (h.registered _ hp) hi same
        have named := h.identity _ hi
        rw [e, h.identity _ hp] at named
        exact ne (Option.some.inj named).symm
    rw [orders, MapOrder.attached, List.mem_cons, MapOrder.mem_attached_detaches, h.attached]
    simp only [kept, Prod.mk.injEq]
    constructor
    · rintro (rfl | ⟨⟨i, hi⟩, apart⟩)
      · exact ⟨id, .inl ⟨rfl, rfl⟩⟩
      · exact ⟨i, .inr ⟨hi, (gone i hi).1 apart⟩⟩
    · rintro ⟨i, ⟨-, rfl⟩ | ⟨hi, ne⟩⟩
      · exact .inl rfl
      · exact .inr ⟨⟨i, hi⟩, (gone i hi).2 ne⟩
  · rw [orders]
    refine (h.noneTwice.detaches _).attach (fun y hy => ?_) url
    exact unattached y (MapOrder.mem_attached_detaches.1 hy).1

end Attaching

/-! ### Replacing -/

/-- Freeing the identity of a script frees whatever it is bound to. -/
theorem mem_maps_unbindMap {s : Session} (h : Bound s) {x : Script} (hx : x ∈ s.registered)
    (e : String × Script) :
    e ∈ (s.unbindMap x).catalog.maps ↔ e ∈ s.catalog.maps ∧ e.2.key ≠ x.key := by
  have own : ∀ e ∈ s.catalog.maps, e.2.key = x.key → s.mapIdentity x = some e.1 := by
    intro e he same
    have is := h.eq_of_key hx he same
    exact is ▸ h.identity e he
  unfold unbindMap
  cases hid : s.mapIdentity x with
  | none =>
    refine ⟨fun he => ⟨he, fun same => ?_⟩, fun he => he.1⟩
    have named := own e he same
    rw [hid] at named
    cases named
  | some id =>
    have named : ∀ e ∈ s.catalog.maps, e.2.key = x.key → s.catalog.maps.lookup id = some e.2 := by
      intro e he same
      have is := own e he same
      rw [hid] at is
      obtain rfl := Option.some.inj is
      exact (Lookup.lookup_iff_mem h.once).2 he
    dsimp only
    unfold Catalog.unbind
    split
    · rename_i held
      obtain ⟨p, hp, same⟩ := (Option.any_eq_true _ _).1 held
      simp only [List.mem_filter, bne_iff_ne]
      refine and_congr_right fun he => not_congr ⟨fun is => ?_, fun is => ?_⟩
      · have there : s.catalog.maps.lookup id = some e.2 := (Lookup.lookup_iff_mem h.once).2 (is ▸ he)
        rw [hp] at there
        exact Option.some.inj there ▸ beq_iff_eq.1 same
      · have is := own e he is
        rw [hid] at is
        exact (Option.some.inj is).symm
    · -- Another script has taken the identity over, and keeps it.
      rename_i other
      refine ⟨fun he => ⟨he, fun same => other ?_⟩, fun he => he.1⟩
      rw [named e he same]
      exact beq_iff_eq.2 same

theorem mapUrls_unbindMap (s : Session) (x : Script) : (s.unbindMap x).mapUrls = s.mapUrls := by
  unfold unbindMap
  split <;> rfl

/-- A script whose identity is freed and whose map is detached has no map;
all others are as they were. -/
theorem Bound.release {s : Session} (h : Bound s) {x : Script} (hx : x ∈ s.registered) :
    Bound ((s.unbindMap x).order (.detach x)) := by
  have mem := mem_maps_unbindMap h hx
  have mapUrls := mapUrls_unbindMap s x
  have orders : (s.unbindMap x).orders = s.orders := by
    unfold unbindMap
    split <;> rfl
  have only := (mapsOnly_unbindMap s x).trans (mapsOnly_order _ (.detach x))
  refine ⟨h.keyed.congr only.nextKey only.registered, ?_, ?_, ?_, ?_, ?_⟩
  · have sub : (s.unbindMap x).catalog.maps.Sublist s.catalog.maps := by
      unfold unbindMap Catalog.unbind
      split
      · split
        · exact List.filter_sublist
        · exact .refl _
      · exact .refl _
    exact h.once.sublist (sub.map _)
  · intro e he
    have same : ((s.unbindMap x).order (.detach x)).mapIdentity e.2 = s.mapIdentity e.2 :=
      mapIdentity_congr (congrArg (List.lookup e.2.key) mapUrls)
    rw [same]
    exact h.identity e ((mem e).1 he).1
  · rw [only.registered]
    exact fun e he => h.registered e ((mem e).1 he).1
  · intro y
    change y ∈ MapOrder.attached (.detach x :: (s.unbindMap x).orders) ↔ ∃ i, (i, y) ∈ (s.unbindMap x).catalog.maps
    rw [orders, MapOrder.mem_attached_detach, h.attached]
    simp only [mem]
    exact exists_and_right.symm
  · change MapOrder.NoneTwice (.detach x :: (s.unbindMap x).orders)
    rw [orders]
    exact h.noneTwice.detach x

/-- **Replacing the map** of a script that was registered. -/
theorem Bound.setMapUrl {s : Session} (h : Bound s) {x : Script} (hx : x ∈ s.registered)
    (url : String) : Bound (s.setMapUrl x url) := by
  have released := h.release hx
  have free : ∀ e ∈ (s.unbindMap x).catalog.maps, e.2.key ≠ x.key := fun e he =>
    ((mem_maps_unbindMap h hx e).1 he).2
  have only := mapsOnly_unbindMap s x
  have replaced : Bound (((s.unbindMap x).order (.detach x)).replaceMapUrl x url) := by
    refine ⟨released.keyed.congr rfl rfl, released.once, fun e he => ?_, released.registered,
      released.attached, released.noneTwice⟩
    have same : (((s.unbindMap x).order (.detach x)).replaceMapUrl x url).mapIdentity e.2 =
        ((s.unbindMap x).order (.detach x)).mapIdentity e.2 := by
      refine mapIdentity_congr ?_
      rw [replaceMapUrl, Lookup.lookup_cons_ite, if_neg (free e he)]
      exact Lookup.lookup_filter_ne (free e he)
    rw [same]
    exact released.identity e he
  refine replaced.attachMap ?_ free
  exact only.registered ▸ hx

/-! ### Parsing -/

/-- A script with a new key is registered. -/
theorem Bound.register {s : Session} (h : Bound s) {x : Script} (key : x.key = s.nextKey) :
    Bound ({ s with nextKey := s.nextKey.next }.register x) := by
  have registered : ({ s with nextKey := s.nextKey.next }.register x).registered = x :: s.registered :=
    rfl
  have keyed : Keyed ({ s with nextKey := s.nextKey.next }.register x) := by
    refine ⟨?_, ?_⟩ <;> rw [registered]
    · exact List.pairwise_cons.2 ⟨fun y hy => key ▸ h.keyed.fresh y hy, h.keyed.rising⟩
    · intro y hy
      have next : y.key.number ≤ s.nextKey.number := by
        rcases List.mem_cons.1 hy with rfl | hy
        · exact Nat.le_of_eq (congrArg Key.number key)
        · exact Nat.le_of_lt (h.keyed.fresh y hy)
      exact Nat.lt_succ_of_le next
  refine ⟨keyed, h.once, h.identity, fun e he => ?_, h.attached, h.noneTwice⟩
  rw [registered]
  exact List.mem_cons_of_mem _ (h.registered e he)

theorem maps_unregisterAll (gone : List Script) (c : Catalog) :
    (gone.foldl Catalog.unregister c).maps = c.maps := by
  induction gone generalizing c with
  | nil => rfl
  | cons x rest ih => exact ih _

theorem maps_discard (c : Catalog) (x : Script) : (c.discard x).2.maps = c.maps := by
  unfold Catalog.discard
  dsimp only
  split
  · rfl
  · exact maps_unregisterAll _ _

/-- Evictions free no identity. -/
theorem Bound.discard {s : Session} (h : Bound s) (x : Script) : Bound (s.discard x) := by
  have ledger := ledger_discard s x
  have catalog : (s.discard x).catalog = (s.catalog.discard x).2 := congrArg Ledger.catalog ledger
  refine h.congr ?_ (congrArg Ledger.mapUrls ledger) (congrArg Ledger.nextKey ledger)
    (congrArg Ledger.registered ledger) (congrArg Ledger.orders ledger)
  rw [catalog]
  exact maps_discard _ _

theorem Bound.parsed {s : Session} (h : Bound s) (r : Wire.ScriptReport) (failed : Bool) :
    Bound (Session.parsed r failed s).2 := by
  unfold Session.parsed
  split
  · exact h
  dsimp only
  have there := h.register (x := .ofReport s.nextKey r failed (ofExtension r)) rfl
  cases failed with
  | false =>
    -- The key is new, so no script that is bound has it.
    refine there.attachMap (List.mem_cons_self ..) fun e he same => ?_
    have old := h.keyed.fresh e.2 (h.registered e he)
    rw [same] at old
    exact Nat.lt_irrefl _ old
  | true =>
    simp only [Bool.true_and, if_true]
    split
    · exact there.discard _
    · exact there

/-! ### Dropping -/

theorem orders_detachAll (s : Session) (scripts : List Script) :
    (s.detachAll scripts).orders = MapOrder.detaches scripts s.orders := by
  induction scripts generalizing s with
  | nil => rfl
  | cons x rest ih => exact ih _

/-- **Dropping some bindings** with the maps of the scripts they are of. -/
theorem Bound.drop {s s' : Session} (h : Bound s) (p : Script → Bool)
    (maps : s'.catalog.maps = s.catalog.maps.filter fun e => !p e.2) (mapUrls : s'.mapUrls = s.mapUrls)
    (nextKey : s'.nextKey = s.nextKey) (registered : s'.registered = s.registered)
    (orders : s'.orders =
      MapOrder.detaches ((s.catalog.maps.filter fun e => p e.2).map (·.2)) s.orders) : Bound s' := by
  have kept : ∀ e, e ∈ s'.catalog.maps ↔ e ∈ s.catalog.maps ∧ p e.2 = false := by simp [maps]
  refine ⟨h.keyed.congr nextKey registered, ?_, ?_, ?_, fun x => ?_, ?_⟩
  · rw [maps]
    exact h.once.sublist (List.filter_sublist.map _)
  · exact fun e he =>
      (mapIdentity_congr (by rw [mapUrls])).trans (h.identity e ((kept e).1 he).1)
  · exact fun e he => registered ▸ h.registered e ((kept e).1 he).1
  · rw [orders, MapOrder.mem_attached_detaches, h.attached]
    simp only [kept]
    constructor
    · rintro ⟨⟨i, hi⟩, apart⟩
      refine ⟨i, hi, Bool.eq_false_iff.2 fun gone => apart x ?_ rfl⟩
      exact List.mem_map.2 ⟨(i, x), List.mem_filter.2 ⟨hi, gone⟩, rfl⟩
    · rintro ⟨i, hi, stays⟩
      refine ⟨⟨i, hi⟩, fun y hy same => ?_⟩
      obtain ⟨e, he, rfl⟩ := List.mem_map.1 hy
      obtain ⟨he, gone⟩ := List.mem_filter.1 he
      rw [← h.eq_of_key (h.registered e he) hi same, stays] at gone
      cases gone
  · rw [orders]
    exact h.noneTwice.detaches _

/-- Detaching scripts only gives the orders. -/
theorem detachAll_eq (s : Session) (scripts : List Script) :
    s.detachAll scripts = { s with journal := (s.detachAll scripts).journal } := by
  induction scripts generalizing s with
  | nil => rfl
  | cons x rest ih => exact ih _

/-- The maps that stay and the scripts whose maps go with a context. -/
theorem unbindContext_eq (c : Catalog) (context : ContextId) :
    c.unbindContext context =
      ((c.maps.filter fun e => e.2.contextId == context).map (·.2),
        { c with maps := c.maps.filter fun e => !(e.2.contextId == context) }) := by
  simp [Catalog.unbindContext, List.partition_eq_filter_filter, Function.comp_def]

theorem Bound.dropContextMaps {s : Session} (h : Bound s) (context : ContextId) :
    Bound (s.dropContextMaps context) := by
  have only := mapsOnly_dropContextMaps s context
  unfold Session.dropContextMaps at only ⊢
  rw [unbindContext_eq] at only ⊢
  dsimp only at only ⊢
  refine h.drop (·.contextId == context) ?_ ?_ only.nextKey only.registered (orders_detachAll _ _) <;>
    rw [detachAll_eq]

theorem Bound.forgetScripts {s : Session} (h : Bound s) : Bound s.forgetScripts := by
  have only := mapsOnly_detachAll { s with catalog := {} } s.catalog.clear.1
  have all : (s.catalog.maps.filter fun _ => true).map (·.2) = s.catalog.clear.1 := by
    rw [List.filter_true]
    rfl
  have orders := orders_detachAll { s with catalog := {} } s.catalog.clear.1
  have gone : Bound ({ s with catalog := {} }.detachAll s.catalog.clear.1) := by
    refine h.drop (fun _ => true) ?_ ?_ only.nextKey only.registered (all ▸ orders) <;>
      rw [detachAll_eq]
    simp
  exact gone.congr rfl rfl rfl rfl rfl

theorem steady_bound : Steady Bound where
  aside _ _ same h := h.aside same
  parsed _ r failed h := h.parsed r failed
  setMapUrl _ _ url hx h := h.setMapUrl hx url
  dropContextMaps _ id h := h.dropContextMaps id
  forgetScripts _ h := h.forgetScripts

theorem bound_connect (seat : Nat) (target : Target) (settings : Settings) :
    Bound (connect seat target settings) := by
  have registered : (connect seat target settings).registered = [] := rfl
  have orders : (connect seat target settings).orders = [.setEnabled settings.sourceMapsEnabled] := rfl
  have maps : (connect seat target settings).catalog.maps = [] := rfl
  refine ⟨⟨?_, ?_⟩, ?_, ?_, ?_, fun x => ?_, ?_⟩
  · rw [registered]
    exact List.Pairwise.nil
  · rw [registered]
    exact fun _ hx => absurd hx List.not_mem_nil
  · rw [maps]
    exact List.nodup_nil
  · rw [maps]
    exact fun _ he => absurd he List.not_mem_nil
  · rw [maps]
    exact fun _ he => absurd he List.not_mem_nil
  · simp [maps, orders, MapOrder.attached]
  · rw [orders]
    exact MapOrder.noneTwice_nil.other fun _ _ e => MapOrder.noConfusion e

/-! ## Every run -/

/-- No script of a context is bound once its maps were dropped. -/
theorem contextId_dropContextMaps {s : Session} {id : ContextId} :
    ∀ e ∈ (s.dropContextMaps id).catalog.maps, e.2.contextId ≠ id := by
  intro e he
  have maps : (s.dropContextMaps id).catalog.maps =
      s.catalog.maps.filter fun e => !(e.2.contextId == id) := by
    unfold Session.dropContextMaps
    rw [unbindContext_eq]
    dsimp only
    rw [detachAll_eq]
  rw [maps] at he
  simpa using (List.mem_filter.1 he).2

/-- Clearing frees every identity. -/
theorem maps_clearGlobalObject (s : Session) : s.clearGlobalObject.catalog.maps = [] := by
  change ({ s.clearPause with catalog := {} }.detachAll _).catalog.maps = []
  rw [detachAll_eq]

/-- No script of a context is bound once it went away. -/
theorem contextId_destroyContext {s : Session} {id : ContextId} :
    ∀ e ∈ (s.destroyContext id).catalog.maps, e.2.contextId ≠ id := by
  unfold Session.destroyContext
  dsimp only
  split
  · exact contextId_dropContextMaps
  · split
    · rw [maps_clearGlobalObject]
      exact fun _ he => absurd he List.not_mem_nil
    · exact contextId_dropContextMaps

/-- **The source maps of a session**, whatever was reported, replaced and
forgotten, in any order: the scripts that are attached are those that are
bound; an identity is that of the context, the source and the map of the
script it is bound to; so a script is bound to one identity, and of the
scripts that are attached one has it; no script was attached while it was;
and once a context went away, no script of it is attached. -/
theorem maps_attached (seat : Nat) (target : Target) (settings : Settings)
    (moves : List (Flow.Move ScriptCall (Ticket × Reply))) :
    let s := afterScripts seat target settings moves
    (∀ x, x ∈ MapOrder.attached s.orders ↔ ∃ id, (id, x) ∈ s.catalog.maps) ∧
      (∀ e ∈ s.catalog.maps, s.mapIdentity e.2 = some e.1) ∧
      (s.catalog.maps.map (·.1)).Nodup ∧
      (s.catalog.maps.map (·.2)).Nodup ∧
      (∀ x ∈ MapOrder.attached s.orders, ∀ y ∈ MapOrder.attached s.orders,
        s.mapIdentity x = s.mapIdentity y → x = y) ∧
      MapOrder.NoneTwice s.orders ∧
      ∀ id, ∀ x ∈ MapOrder.attached (s.destroyContext id).orders, x.contextId ≠ id := by
  intro s
  have bound : Bound s := steady_bound.after seat target settings (bound_connect _ _ _) moves
  refine ⟨bound.attached, bound.identity, bound.once, bound.scripts_nodup, ?_, bound.noneTwice, ?_⟩
  · intro x hx y hy same
    obtain ⟨i, hi⟩ := (bound.attached x).1 hx
    obtain ⟨j, hj⟩ := (bound.attached y).1 hy
    exact congrArg Prod.snd (bound.eq_of_identity hi hj same)
  · intro id x hx
    obtain ⟨i, hi⟩ := ((steady_bound.destroyContext bound id).attached x).1 hx
    exact contextId_destroyContext (i, x) hi

end Session

end DebugClient
