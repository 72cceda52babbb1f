import DebugClient.Value.Property
import Mathlib.Data.List.Basic
import Mathlib.Data.List.Induction
import Mathlib.Data.List.Pairwise
/-!
# Inheritance — how two listings become one

The accessors of a prototype chain and the own properties of an object are
put together name by name. A name stands where it came first and is the
property that came last (`Gathers`), so an own property takes the place of an
accessor of its name. Keys that are symbols and private members follow.

`merges_merge` says of every pair of listings which of their entries the
result has, and in which order.
-/

namespace DebugClient

namespace Property

/-- The names of properties, in order. -/
def names (ps : List Property) : List String := ps.map (·.name)

/-- **The last of its name** among entries: none behind it has its name. -/
def LastOf (entries : List Property) (p : Property) : Prop :=
  ∃ before after, entries = before ++ p :: after ∧ p.name ∉ names after

/-- **Entries gathered by name**: each name stands once, where it came first,
and is the entry that came last. -/
structure Gathers (entries gathered : List Property) : Prop where
  /-- No name stands twice. -/
  distinct : (names gathered).Nodup
  /-- Names are in the order in which they came first. -/
  ordered : (names gathered).Pairwise fun a b =>
    (names entries).idxOf a < (names entries).idxOf b
  /-- What stands under a name is the last entry of the name. -/
  last : ∀ p, p ∈ gathered ↔ LastOf entries p

/-- **A property stands apart** from the named ones: its key is a symbol, or it
is a private member. -/
def Apart (p : Property) : Prop := p.isPrivate = true ∨ p.symbol.isSome = true

instance (p : Property) : Decidable p.Apart := inferInstanceAs (Decidable (_ ∨ _))

variable {p q : Property} {ps entries gathered : List Property}

@[simp] theorem names_append (ps qs : List Property) : names (ps ++ qs) = names ps ++ names qs :=
  List.map_append

/-! ## The last of a name -/

theorem LastOf.mem (h : LastOf entries p) : p ∈ entries := by
  obtain ⟨before, after, rfl, -⟩ := h
  simp

/-- One more entry is the last of its name, and of every other name the last is
as it was. -/
theorem lastOf_snoc : LastOf (entries ++ [q]) p ↔ p = q ∨ p.name ≠ q.name ∧ LastOf entries p := by
  constructor
  · rintro ⟨before, after, is, fresh⟩
    induction after using List.reverseRecOn with
    | nil => exact .inl (List.append_inj_right' is rfl |> List.singleton_inj.1).symm
    | append_singleton after x _ =>
      rw [← List.cons_append, ← List.append_assoc] at is
      obtain ⟨rfl, same⟩ := List.append_inj' is rfl
      obtain rfl := List.singleton_inj.1 same
      rw [names_append, List.mem_append, not_or] at fresh
      exact .inr ⟨fun same => fresh.2 (by simp [names, same]), before, after, rfl, fresh.1⟩
  · rintro (rfl | ⟨other, before, after, rfl, fresh⟩)
    · exact ⟨entries, [], rfl, List.not_mem_nil⟩
    · refine ⟨before, after ++ [q], by simp, ?_⟩
      rw [names_append, List.mem_append, not_or]
      exact ⟨fresh, fun there => other (List.mem_singleton.1 there)⟩

/-- Of every name that came there is a last entry. -/
theorem exists_lastOf (entries : List Property) {name : String} (came : name ∈ names entries) :
    ∃ p, LastOf entries p ∧ p.name = name := by
  induction entries using List.reverseRecOn with
  | nil => cases came
  | append_singleton entries q ih =>
    by_cases same : q.name = name
    · exact ⟨q, lastOf_snoc.2 (.inl rfl), same⟩
    · rw [names_append, List.mem_append] at came
      have before : name ∈ names entries :=
        came.resolve_right fun there => same (List.mem_singleton.1 there).symm
      obtain ⟨p, last, rfl⟩ := ih before
      exact ⟨p, lastOf_snoc.2 (.inr ⟨Ne.symm same, last⟩), rfl⟩

/-! ## Placing -/

theorem names_place (p : Property) (ps : List Property) :
    names (place p ps) = if p.name ∈ names ps then names ps else names ps ++ [p.name] := by
  induction ps with
  | nil => rfl
  | cons q rest ih =>
    by_cases same : q.name = p.name
    · simp [place, names, same]
    · have later : p.name ∈ names (q :: rest) ↔ p.name ∈ names rest :=
        List.mem_cons.trans (or_iff_right fun is => same is.symm)
      rw [place, if_neg same]
      change q.name :: names (place p rest) = _
      rw [ih, if_congr later rfl rfl]
      split <;> rfl

/-- What is placed takes the place of the one of its name. -/
theorem mem_place (distinct : (names ps).Nodup) :
    q ∈ place p ps ↔ q = p ∨ q.name ≠ p.name ∧ q ∈ ps := by
  induction ps with
  | nil => simp [place]
  | cons r rest ih =>
    obtain ⟨fresh, distinct⟩ := List.nodup_cons.1 distinct
    by_cases same : r.name = p.name
    · rw [place, if_pos same, List.mem_cons, List.mem_cons]
      -- No other property has the name of the one that gives way.
      have others (there : q ∈ rest) : q.name ≠ p.name := fun is =>
        fresh (List.mem_map.2 ⟨q, there, is.trans same.symm⟩)
      constructor
      · rintro (is | there)
        · exact .inl is
        · exact .inr ⟨others there, .inr there⟩
      · rintro (is | ⟨other, rfl | there⟩)
        · exact .inl is
        · exact absurd same other
        · exact .inr there
    · rw [place, if_neg same, List.mem_cons, List.mem_cons, ih distinct]
      constructor
      · rintro (rfl | is | ⟨other, there⟩)
        · exact .inr ⟨same, .inl rfl⟩
        · exact .inl is
        · exact .inr ⟨other, .inr there⟩
      · rintro (is | ⟨other, is | there⟩)
        · exact .inr (.inl is)
        · exact .inl is
        · exact .inr (.inr ⟨other, there⟩)

theorem placeAll_append (ps qs onto : List Property) :
    placeAll (ps ++ qs) onto = placeAll qs (placeAll ps onto) :=
  List.foldl_append

/-! ## Gathering -/

/-- The names that stand are those that came. -/
theorem Gathers.mem_names (h : Gathers entries gathered) {name : String} :
    name ∈ names gathered ↔ name ∈ names entries := by
  constructor
  · intro there
    obtain ⟨p, stands, rfl⟩ := List.mem_map.1 there
    exact List.mem_map_of_mem ((h.last p).1 stands).mem
  · intro came
    obtain ⟨p, last, rfl⟩ := exists_lastOf entries came
    exact List.mem_map_of_mem ((h.last p).2 last)

/-- Names keep the places where they came first, and a new one comes after all
of them. -/
theorem Gathers.ordered_place (h : Gathers entries gathered) (q : Property) :
    (names (place q gathered)).Pairwise fun a b =>
      (names (entries ++ [q])).idxOf a < (names (entries ++ [q])).idxOf b := by
  have first {a : String} (came : a ∈ names gathered) :
      (names (entries ++ [q])).idxOf a = (names entries).idxOf a := by
    rw [names_append, List.idxOf_append_of_mem (h.mem_names.1 came)]
  have before : (names gathered).Pairwise fun a b =>
      (names (entries ++ [q])).idxOf a < (names (entries ++ [q])).idxOf b := by
    refine h.ordered.imp_of_mem fun ha hb lt => ?_
    rw [first ha, first hb]
    exact lt
  rw [names_place]
  split
  · exact before
  · rename_i fresh
    refine List.pairwise_append.2 ⟨before, List.pairwise_singleton .., fun a ha b hb => ?_⟩
    obtain rfl := List.mem_singleton.1 hb
    have fresh : q.name ∉ names entries := fun came => fresh (h.mem_names.2 came)
    have late : (names (entries ++ [q])).idxOf q.name = (names entries).length := by
      rw [names_append, List.idxOf_append_of_notMem fresh]
      simp [names]
    rw [first ha, late]
    exact List.idxOf_lt_length_iff.2 (h.mem_names.1 ha)

theorem Gathers.place (h : Gathers entries gathered) (q : Property) :
    Gathers (entries ++ [q]) (place q gathered) where
  distinct := (h.ordered_place q).imp fun lt same => absurd (same ▸ lt) (Nat.lt_irrefl _)
  ordered := h.ordered_place q
  last p := by rw [mem_place h.distinct, lastOf_snoc, h.last]

/-- **Placing entries one after another** gathers them. -/
theorem gathers_placeAll (entries : List Property) : Gathers entries (placeAll entries []) := by
  induction entries using List.reverseRecOn with
  | nil => exact ⟨.nil, .nil, fun p => iff_of_false List.not_mem_nil fun h => nomatch h.mem⟩
  | append_singleton entries q ih =>
    rw [placeAll_append]
    exact ih.place q

end Property

namespace Listing

open Property

/-- What two listings have under names: accessors first, without the one of
the prototype itself unless it is the object's own, and then own properties
that are no accessors. -/
def named (accessors own : List Property) : List Property :=
  accessors.filter inheritedNamed ++ own.filter ownNamed

/-- **How two listings become one**, of which a part is named. -/
structure Merges (accessors own gathered merged : List Property) : Prop where
  /-- After the named part come the accessors whose keys are symbols, and then
  own properties that are private or whose keys are symbols, all in order. -/
  parts : merged = gathered ++ accessors.filter (·.symbol.isSome) ++ own.filter ownApart
  /-- The named part has each name once, where it came first, as the entry that
  came last. -/
  gathers : Gathers (named accessors own) gathered
  /-- No name is lost. -/
  complete : ∀ p ∈ named accessors own, p.name ∈ names gathered
  /-- An own property takes the place of every accessor of its name. -/
  replaces : ∀ p ∈ own, p.ownNamed = true → ∀ q ∈ gathered, q.name = p.name →
    q ∈ own ∧ q.ownNamed = true
  /-- The accessor of the prototype is not there, unless it is the object's
  own. -/
  hidden : ∀ p ∈ gathered, p.isAccessor = true → p.name = "__proto__" → p.isOwn = true

variable {accessors own : List Property} {p : Property}

/-- The last of a name is an own property if there is one of that name. -/
theorem own_of_lastOf (last : LastOf (named accessors own) p) {q : Property} (there : q ∈ own)
    (is : q.ownNamed = true) (same : q.name = p.name) : p ∈ own ∧ p.ownNamed = true := by
  have listed : q ∈ own.filter ownNamed := List.mem_filter.2 ⟨there, is⟩
  obtain ⟨before, after, split, fresh⟩ := last
  refine List.mem_filter.1 ?_
  obtain ⟨between, rfl, rest⟩ | ⟨between, -, rest⟩ := List.append_eq_append_iff.1 split
  · rw [rest]
    simp
  -- Were it an accessor, every own property would stand behind it.
  · cases between with
    | nil =>
      rw [List.nil_append] at rest
      rw [← rest]
      exact .head after
    | cons r between =>
      obtain ⟨rfl, rfl⟩ := List.cons.inj rest
      have behind : q.name ∈ names (between ++ own.filter ownNamed) :=
        List.mem_map_of_mem (List.mem_append_right _ listed)
      exact absurd (same ▸ behind) fresh

/-- **Two listings become one** as is said, whatever they have. -/
theorem merges_merge (accessors own : List Property) :
    Merges accessors own (placeAll (named accessors own) []) (merge accessors own) where
  parts := by rw [merge, named, placeAll_append]
  gathers := gathers_placeAll _
  complete p there := (gathers_placeAll _).mem_names.2 (List.mem_map_of_mem there)
  replaces p there is q gathered same :=
    own_of_lastOf (((gathers_placeAll _).last q).1 gathered) there is same.symm
  hidden p gathered accessor name := by
    have came := (((gathers_placeAll _).last p).1 gathered).mem
    -- No own property is listed under its name that is an accessor.
    rcases List.mem_append.1 came with inherited | own
    · have := (List.mem_filter.1 inherited).2
      simp only [inheritedNamed, name, bne_self_eq_false, Bool.or_false, Bool.and_eq_true] at this
      exact this.2
    · have := (List.mem_filter.1 own).2
      simp [ownNamed, accessor] at this

/-- **What becomes of two listings** of one value. -/
inductive Inherits (accessors own : Listing) : Listing → Prop where
  /-- Both are there, and become one. Internal slots are the value's own. -/
  | merged {as os gathered merged : List Property} (inherited : accessors.properties = some as)
      (owned : own.properties = some os) (merges : Merges as os gathered merged) :
      Inherits accessors own { properties := some merged, internal := own.internal }
  /-- One of them is not to be had, and so nothing is. -/
  | failed (without : accessors.properties = none ∨ own.properties = none) :
      Inherits accessors own .failed

theorem inherits_inherited (accessors own : Listing) :
    Inherits accessors own (.inherited accessors own) := by
  rw [inherited]
  split
  · rename_i as os inherited owned
    exact .merged inherited owned (merges_merge as os)
  · rename_i without
    refine .failed ?_
    cases inherited : accessors.properties with
    | none => exact .inl rfl
    | some as =>
      cases owned : own.properties with
      | none => exact .inr rfl
      | some os => exact absurd owned (without as os inherited)

/-! ## What stands apart -/

/-- **What stands apart comes last**: whatever follows a property that does
stands apart as well. -/
def Trails (ps : List Property) : Prop := ps.Pairwise fun p q => p.Apart → q.Apart

instance (ps : List Property) : Decidable (Trails ps) := inferInstanceAs (Decidable (ps.Pairwise _))

/-- Behind a property that stands apart in its place among the named ones there
is none that does not. -/
def PrivateLast (accessors own : List Property) : Prop :=
  ∀ p q, LastOf (named accessors own) p → LastOf (named accessors own) q →
    (names (named accessors own)).idxOf p.name < (names (named accessors own)).idxOf q.name →
    p.isPrivate = true → q.isPrivate = true

/-- Under its name stands only what is no symbol. -/
theorem apart_of_named (there : p ∈ named accessors own) : p.Apart ↔ p.isPrivate = true := by
  refine or_iff_left fun symbol => ?_
  rcases List.mem_append.1 there with inherited | owned
  · have := (List.mem_filter.1 inherited).2
    simp_all [inheritedNamed]
  · have := (List.mem_filter.1 owned).2
    simp_all [ownNamed]

/-- Behind the named part everything stands apart. -/
theorem apart_of_behind
    (there : p ∈ accessors.filter (·.symbol.isSome) ++ own.filter ownApart) : p.Apart := by
  rcases List.mem_append.1 there with symbol | own
  · exact .inr (List.mem_filter.1 symbol).2
  · have := (List.mem_filter.1 own).2
    simp_all [ownApart, Apart]

/-- In a list that is in order, what is so of each and all behind it is so of
each and all of greater rank. -/
theorem pairwise_iff_of_ordered {α : Type} {rank : α → Nat} {R : α → α → Prop} {l : List α}
    (ordered : l.Pairwise fun a b => rank a < rank b) :
    l.Pairwise R ↔ ∀ a ∈ l, ∀ b ∈ l, rank a < rank b → R a b := by
  constructor
  · intro behind a ha b hb
    -- Where two stand the other way round, so do their ranks.
    have forwards : l.Pairwise fun a b => rank a < rank b → R a b := by
      refine behind.imp ?_
      exact fun h _ => h
    have backwards : l.Pairwise (flip fun a b => rank a < rank b → R a b) :=
      ordered.imp fun lt gt => absurd gt (Nat.lt_asymm lt)
    exact forwards.forall_of_forall_of_flip (fun a _ lt => absurd lt (Nat.lt_irrefl _)) backwards
      ha hb
  · exact fun all => ordered.imp_of_mem fun ha hb lt => all _ ha _ hb lt

/-- **When what stands apart comes last**: private members among the accessors
keep their places under their names, so nothing else may come there after
them. -/
theorem trails_merge_iff (accessors own : List Property) :
    Trails (merge accessors own) ↔ PrivateLast accessors own := by
  obtain ⟨parts, gathers, -, -, -⟩ := merges_merge accessors own
  have apart {p : Property} (there : p ∈ placeAll (named accessors own) []) :
      p.Apart ↔ p.isPrivate = true := apart_of_named ((gathers.last p).1 there).mem
  have ordered := List.pairwise_map.1 gathers.ordered
  -- Behind the named part everything stands apart, so only the named part matters.
  have only : Trails (merge accessors own) ↔ Trails (placeAll (named accessors own) []) := by
    rw [parts, List.append_assoc, Trails, List.pairwise_append]
    refine ⟨fun h => h.1, fun h => ⟨h, ?_, fun p _ q there _ => apart_of_behind there⟩⟩
    exact List.pairwise_of_forall_mem_list fun p _ q there _ => apart_of_behind there
  rw [only, Trails, pairwise_iff_of_ordered ordered, PrivateLast]
  constructor
  · intro trails p q last last' lt isPrivate
    have there := (gathers.last p).2 last
    have there' := (gathers.last q).2 last'
    exact (apart there').1 (trails p there q there' lt ((apart there).2 isPrivate))
  · intro trails p there q there' lt isApart
    refine (apart there').2 ?_
    exact trails p q ((gathers.last p).1 there) ((gathers.last q).1 there') lt
      ((apart there).1 isApart)

/-- Without private accessors what stands apart comes last. -/
theorem privateLast_of_public (isPublic : ∀ p ∈ accessors, p.isPrivate = false) :
    PrivateLast accessors own := by
  intro p q last _ _ isPrivate
  rcases List.mem_append.1 last.mem with inherited | owned
  · have := isPublic p (List.mem_of_mem_filter inherited)
    simp [isPrivate] at this
  · have := (List.mem_filter.1 owned).2
    simp [ownNamed, isPrivate] at this

end Listing

end DebugClient
