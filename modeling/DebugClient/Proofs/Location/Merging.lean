import Mathlib.Data.List.Pairwise
import Mathlib.Data.Prod.Lex
import Mathlib.Data.String.Basic
import Mathlib.Logic.Relation
import Mathlib.Order.Bounds.Basic
import DebugClient.Location.Range
/-!
# Merging — the ranges a step does not stop inside

`Range.merge` sorts ranges and compares each only with the one merged
last. That is enough: the sorted list falls into stretches of ranges that
are linked by overlaps, and the hull of a stretch is clear of the next
(`exists_stretches`). So merging gives one range for each class of linked
ranges, from the first start of the class to its last end
(`classes_merged`), also where ranges end before they start.

Nothing here looks at lines and columns. A range opens and closes at a
`Place`, and places are in one line, script after script.
-/

namespace DebugClient

namespace Position

instance : LinearOrder Position where
  le_refl _ := .inr ⟨rfl, Nat.le_refl _⟩
  le_trans _ _ _ := le_trans
  lt_iff_le_not_ge a b := by simp only [le_def, lt_def]; omega
  le_antisymm a b h h' := by
    obtain ⟨line, column⟩ := a
    obtain ⟨line', column'⟩ := b
    simp only [le_def, mk.injEq] at *
    omega
  le_total a b := by simp only [le_def]; omega
  toDecidableLE := inferInstance
  toDecidableEq := inferInstance
  toDecidableLT := inferInstance

theorem order_eq_lt {a b : Position} : a.order b = .lt ↔ a < b := by
  rw [order, Ordering.then_eq_lt, compare_lt_iff_lt, compare_eq_iff_eq, compare_lt_iff_lt]
  rfl

theorem order_eq_eq {a b : Position} : a.order b = .eq ↔ a = b := by
  obtain ⟨line, column⟩ := a
  obtain ⟨line', column'⟩ := b
  simp [order, Ordering.then_eq_eq]

theorem isLE_order {a b : Position} : (a.order b).isLE = true ↔ a ≤ b := by
  rw [order, Ordering.isLE_then_iff_or, compare_lt_iff_lt, compare_eq_iff_eq, Nat.isLE_compare]
  rfl

end Position

namespace Range

/-! ## Places -/

/-- A place in the sources of all scripts, one after the other. -/
abbrev Place : Type := ScriptId ×ₗ Position

/-- The place of a position of a script. -/
def place (script : ScriptId) (p : Position) : Place := toLex (script, p)

/-- Where a range starts. -/
def opens (r : Range) : Place := place r.scriptId r.start

/-- Where it ends. -/
def closes (r : Range) : Place := place r.scriptId r.finish

theorem place_lt_iff {s t : ScriptId} {p q : Position} :
    place s p < place t q ↔ s < t ∨ s = t ∧ p < q := Prod.Lex.lt_iff

theorem place_le_iff {s t : ScriptId} {p q : Position} :
    place s p ≤ place t q ↔ s < t ∨ s = t ∧ p ≤ q := Prod.Lex.le_iff

theorem place_eq_iff {s t : ScriptId} {p q : Position} : place s p = place t q ↔ s = t ∧ p = q := by
  rw [place, place, toLex_inj, Prod.mk.injEq]

variable {a b r n o : Range}

theorem precedes_iff :
    a.precedes b = true ↔ a.opens < b.opens ∨ a.opens = b.opens ∧ a.closes ≤ b.closes := by
  rw [precedes, order, Ordering.isLE_then_iff_or, Ordering.isLE_then_iff_or, compare_lt_iff_lt,
    compare_eq_iff_eq, Position.order_eq_lt, Position.order_eq_eq, Position.isLE_order]
  simp only [opens, closes, place_lt_iff, place_le_iff, place_eq_iff]
  grind

theorem opens_le_of_precedes (h : a.precedes b = true) : a.opens ≤ b.opens := by
  rcases precedes_iff.1 h with lt | ⟨eq, -⟩
  · exact lt.le
  · exact eq.le

theorem covers_iff {script : ScriptId} {p : Position} :
    r.Covers script p ↔ r.opens ≤ place script p ∧ place script p ≤ r.closes := by
  simp only [Covers, opens, closes, place_le_iff]
  grind

/-- Of two ranges, the one that opens first has to reach the other. -/
theorem overlaps_iff (h : a.opens ≤ b.opens) :
    a.overlaps b = true ↔ a.opens = b.opens ∨ b.opens ≤ a.closes := by
  simp only [opens, closes, place_le_iff, place_eq_iff] at *
  unfold overlaps
  grind

theorem overlaps_self (r : Range) : r.overlaps r = true := (overlaps_iff le_rfl).2 (.inl rfl)

/-- The first range ends before the second starts. -/
def Clear (a b : Range) : Prop := a.opens < b.opens ∧ a.closes < b.opens

theorem clear_of_not_overlaps (h : a.opens ≤ b.opens) (apart : ¬a.overlaps b = true) :
    Clear a b := by
  rw [overlaps_iff h, not_or, not_le] at apart
  exact ⟨lt_of_le_of_ne h apart.1, apart.2⟩

theorem Clear.not_overlaps (h : Clear a b) : a.overlaps b = false := by
  refine Bool.eq_false_iff.2 fun meet => ?_
  rcases (overlaps_iff h.1.le).1 meet with same | reach
  · exact h.1.ne same
  · exact h.2.not_ge reach

theorem Clear.precedes (h : Clear a b) : a.precedes b = true := precedes_iff.2 (.inl h.1)

theorem Clear.ne (h : Clear a b) : a ≠ b := fun same => h.1.ne (congrArg opens same)

theorem Clear.of_le {b' : Range} (h : Clear a b) (le : b.opens ≤ b'.opens) : Clear a b' :=
  ⟨h.1.trans_le le, h.2.trans_le le⟩

/-! ## Sorting -/

/-- Sorted by where ranges open; where they close does not matter to
merging. -/
abbrev Rising (ranges : List Range) : Prop := ranges.Pairwise fun a b => a.opens ≤ b.opens

theorem precedes_trans (a b c : Range) (hab : a.precedes b = true) (hbc : b.precedes c = true) :
    a.precedes c = true := by
  rw [precedes_iff] at *
  grind

theorem precedes_total (a b : Range) : (a.precedes b || b.precedes a) = true := by
  rw [Bool.or_eq_true, precedes_iff, precedes_iff]
  grind

theorem precedes_antisymm (hab : a.precedes b = true) (hba : b.precedes a = true) : a = b := by
  rw [precedes_iff] at *
  have same : a.opens = b.opens ∧ a.closes = b.closes := by grind
  obtain ⟨s, p, q⟩ := a
  obtain ⟨s', p', q'⟩ := b
  simp only [opens, closes, place_eq_iff] at same
  obtain ⟨⟨rfl, rfl⟩, -, rfl⟩ := same
  rfl

theorem pairwise_sorted (ranges : List Range) :
    (ranges.mergeSort precedes).Pairwise fun a b => a.precedes b = true :=
  List.pairwise_mergeSort precedes_trans precedes_total ranges

theorem rising_sorted (ranges : List Range) : Rising (ranges.mergeSort precedes) :=
  (pairwise_sorted ranges).imp opens_le_of_precedes

/-- Sorting forgets the order. -/
theorem sorted_eq_of_perm {ranges ranges' : List Range} (h : ranges.Perm ranges') :
    ranges.mergeSort precedes = ranges'.mergeSort precedes := by
  have perm := (List.mergeSort_perm ranges precedes).trans
    (h.trans (List.mergeSort_perm ranges' precedes).symm)
  exact perm.eq_of_pairwise (fun _ _ _ _ => precedes_antisymm) (pairwise_sorted _) (pairwise_sorted _)

/-! ## Extending a range -/

section Extend

@[simp] theorem opens_extend (r n : Range) : (r.extend n).opens = r.opens := by
  rw [opens, extend_scriptId, extend_start, opens]

theorem scriptId_of_overlaps (meet : a.overlaps b = true) : a.scriptId = b.scriptId := by
  simp only [overlaps, Bool.and_eq_true, beq_iff_eq] at meet
  exact meet.1

theorem closes_extend (meet : r.overlaps n = true) :
    (r.extend n).closes = max r.closes n.closes := by
  have lt_iff : r.closes < n.closes ↔ r.finish < n.finish := by
    rw [closes, closes, scriptId_of_overlaps meet, place_lt_iff]
    simp
  unfold extend
  split
  · rename_i lt
    rw [max_eq_right (lt_iff.2 lt).le, closes, scriptId_of_overlaps meet, closes]
  · rename_i ge
    rw [max_eq_left (not_lt.1 (mt lt_iff.1 ge))]

/-- Nothing lies between two ranges that overlap. -/
theorem covers_extend (le : r.opens ≤ n.opens) (meet : r.overlaps n = true) {script : ScriptId}
    {p : Position} :
    (r.extend n).Covers script p ↔ r.Covers script p ∨ n.Covers script p := by
  simp only [covers_iff, opens_extend, closes_extend meet, le_max_iff]
  rcases (overlaps_iff le).1 meet with same | reach
  · rw [same, and_or_left]
  · constructor
    · rintro ⟨lower, upper | upper⟩
      · exact .inl ⟨lower, upper⟩
      · rcases le_total n.opens (place script p) with behind | before
        · exact .inr ⟨behind, upper⟩
        · exact .inl ⟨lower, before.trans reach⟩
    · rintro (⟨lower, upper⟩ | ⟨lower, upper⟩)
      · exact ⟨lower, .inl upper⟩
      · exact ⟨le.trans lower, .inr upper⟩

theorem Rising.extend {rest : List Range} (rising : Rising (r :: n :: rest)) :
    Rising (r.extend n :: rest) := by
  obtain ⟨first, later⟩ := List.pairwise_cons.1 rising
  rw [Rising, List.pairwise_cons, opens_extend]
  exact ⟨fun x hx => first x (List.mem_cons_of_mem _ hx), (List.pairwise_cons.1 later).2⟩

end Extend

/-! ## Fusing a sorted list -/

/-- Nothing opens before the first range did. -/
theorem opens_le_of_mem_fuseFrom {rest : List Range} (rising : Rising (r :: rest))
    (h : o ∈ fuseFrom r rest) : r.opens ≤ o.opens := by
  induction rest generalizing r with
  | nil =>
    rw [fuseFrom, List.mem_singleton] at h
    exact h ▸ le_rfl
  | cons n rest ih =>
    rw [fuseFrom] at h
    split at h
    · exact opens_extend r n ▸ ih rising.extend h
    · obtain ⟨first, later⟩ := List.pairwise_cons.1 rising
      rcases List.mem_cons.1 h with rfl | h
      · exact le_rfl
      · exact (first n List.mem_cons_self).trans (ih later h)

theorem clear_fuseFrom {rest : List Range} (rising : Rising (r :: rest)) :
    (fuseFrom r rest).Pairwise Clear := by
  induction rest generalizing r with
  | nil => exact List.pairwise_singleton _ _
  | cons n rest ih =>
    rw [fuseFrom]
    split
    · exact ih rising.extend
    · rename_i apart
      obtain ⟨first, later⟩ := List.pairwise_cons.1 rising
      have clear := clear_of_not_overlaps (first n List.mem_cons_self) apart
      exact List.pairwise_cons.2
        ⟨fun o ho => clear.of_le (opens_le_of_mem_fuseFrom later ho), ih later⟩

/-- What is fused is clear of each other. -/
theorem clear_fuse {ranges : List Range} (rising : Rising ranges) : (fuse ranges).Pairwise Clear := by
  cases ranges with
  | nil => exact List.Pairwise.nil
  | cons r rest => exact clear_fuseFrom rising

theorem covers_fuseFrom {rest : List Range} (rising : Rising (r :: rest)) {script : ScriptId}
    {p : Position} :
    (∃ o ∈ fuseFrom r rest, o.Covers script p) ↔ ∃ a ∈ r :: rest, a.Covers script p := by
  induction rest generalizing r with
  | nil => rfl
  | cons n rest ih =>
    obtain ⟨first, later⟩ := List.pairwise_cons.1 rising
    rw [fuseFrom]
    split
    · rename_i meet
      rw [ih rising.extend]
      simp only [List.exists_mem_cons_iff, covers_extend (first n List.mem_cons_self) meet, or_assoc]
    · simp only [List.exists_mem_cons_iff, ih later]

theorem covers_fuse {ranges : List Range} (rising : Rising ranges) {script : ScriptId}
    {p : Position} :
    (∃ o ∈ fuse ranges, o.Covers script p) ↔ ∃ a ∈ ranges, a.Covers script p := by
  cases ranges with
  | nil => rfl
  | cons r rest => exact covers_fuseFrom rising

/-- Ranges that are clear of each other stay as they are. -/
theorem fuseFrom_of_clear {rest : List Range} (clear : (r :: rest).Pairwise Clear) :
    fuseFrom r rest = r :: rest := by
  induction rest generalizing r with
  | nil => rfl
  | cons n rest ih =>
    obtain ⟨first, later⟩ := List.pairwise_cons.1 clear
    have apart := (first n List.mem_cons_self).not_overlaps
    rw [fuseFrom, if_neg (Bool.eq_false_iff.1 apart), ih later]

theorem merge_of_clear {ranges : List Range} (clear : ranges.Pairwise Clear) :
    merge ranges = ranges := by
  have sorted : ranges.mergeSort precedes = ranges :=
    List.mergeSort_of_pairwise (clear.imp Clear.precedes)
  rw [merge, sorted]
  cases ranges with
  | nil => rfl
  | cons r rest => exact fuseFrom_of_clear clear

/-! ## Stretches -/

/-- One range of a list leads to another over ranges that overlap. -/
def Linked (ranges : List Range) : Range → Range → Prop :=
  Relation.ReflTransGen fun a b => a ∈ ranges ∧ b ∈ ranges ∧ a.overlaps b = true

theorem Linked.mono {ranges ranges' : List Range} (sub : ∀ x ∈ ranges, x ∈ ranges')
    (h : Linked ranges a b) : Linked ranges' a b :=
  Relation.ReflTransGen.mono (fun _ _ step => ⟨sub _ step.1, sub _ step.2.1, step.2.2⟩) _ _ h

theorem Linked.symm {ranges : List Range} (h : Linked ranges a b) : Linked ranges b a := by
  induction h with
  | refl => exact .refl
  | tail _ step ih => exact ih.head ⟨step.2.1, step.1, overlaps_comm _ _ ▸ step.2.2⟩

/-- A range is the hull of others: it reaches from where the first of
them opens to where the last of them closes, and meets them all. -/
structure Hull (stretch : List Range) (o : Range) : Prop where
  opens_le : ∀ a ∈ stretch, o.opens ≤ a.opens
  le_closes : ∀ a ∈ stretch, a.closes ≤ o.closes
  first : ∃ a ∈ stretch, a.opens = o.opens
  last : ∃ a ∈ stretch, a.closes = o.closes
  meets : ∀ a ∈ stretch, o.overlaps a = true

theorem hull_singleton (r : Range) : Hull [r] r := by
  refine ⟨?_, ?_, ⟨r, ?_⟩, ⟨r, ?_⟩, ?_⟩ <;> simp [overlaps_self]

theorem Hull.snoc {stretch : List Range} (h : Hull stretch r) (le : r.opens ≤ n.opens)
    (meet : r.overlaps n = true) : Hull (stretch ++ [n]) (r.extend n) := by
  have closes := closes_extend meet
  refine ⟨?_, ?_, ?_, ?_, ?_⟩
  · intro a ha
    rw [opens_extend]
    rcases List.mem_append.1 ha with ha | ha
    · exact h.opens_le a ha
    · exact List.mem_singleton.1 ha ▸ le
  · intro a ha
    rw [closes]
    rcases List.mem_append.1 ha with ha | ha
    · exact (h.le_closes a ha).trans (le_max_left _ _)
    · exact List.mem_singleton.1 ha ▸ le_max_right _ _
  · obtain ⟨a, ha, same⟩ := h.first
    exact ⟨a, List.mem_append_left _ ha, same.trans (opens_extend r n).symm⟩
  · rw [closes]
    rcases le_total r.closes n.closes with longer | shorter
    · exact ⟨n, by simp, (max_eq_right longer).symm⟩
    · obtain ⟨a, ha, same⟩ := h.last
      exact ⟨a, List.mem_append_left _ ha, same.trans (max_eq_left shorter).symm⟩
  · intro a ha
    rcases List.mem_append.1 ha with ha | ha
    · have before := h.opens_le a ha
      rw [overlaps_iff ((opens_extend r n).trans_le before), opens_extend, closes]
      exact ((overlaps_iff before).1 (h.meets a ha)).imp_right fun reach => reach.trans (le_max_left _ _)
    · obtain rfl := List.mem_singleton.1 ha
      rw [overlaps_iff ((opens_extend r a).trans_le le), opens_extend, closes]
      exact ((overlaps_iff le).1 meet).imp_right fun reach => reach.trans (le_max_left _ _)

/-- Ranges whose hulls are clear of each other do not overlap. -/
theorem Hull.not_overlaps {stretch stretch' : List Range} {o' : Range} (h : Hull stretch o)
    (h' : Hull stretch' o') (clear : Clear o o') (ha : a ∈ stretch) (hb : b ∈ stretch') :
    a.overlaps b = false := by
  have behind : o'.opens ≤ b.opens := h'.opens_le b hb
  have early : a.opens < b.opens := by
    rcases (overlaps_iff (h.opens_le a ha)).1 (h.meets a ha) with same | reach
    · exact (same ▸ clear.1).trans_le behind
    · exact (reach.trans_lt clear.2).trans_le behind
  exact Clear.not_overlaps ⟨early, ((h.le_closes a ha).trans_lt clear.2).trans_le behind⟩

/-- The ranges of a list are linked among each other. -/
def Connected (stretch : List Range) : Prop := ∀ a ∈ stretch, ∀ b ∈ stretch, Linked stretch a b

theorem connected_singleton (r : Range) : Connected [r] := by
  intro a ha b hb
  rw [List.mem_singleton.1 ha, List.mem_singleton.1 hb]
  exact .refl

/-- The next range overlaps the hull because it overlaps the range that
closes last, or the one that opens first. -/
theorem Connected.snoc {stretch : List Range} (h : Connected stretch) (hull : Hull stretch r)
    (rising : ∀ a ∈ stretch, a.opens ≤ n.opens) (meet : r.overlaps n = true) :
    Connected (stretch ++ [n]) := by
  have le : r.opens ≤ n.opens := by
    obtain ⟨a, ha, same⟩ := hull.first
    exact same ▸ rising a ha
  obtain ⟨c, hc, touch⟩ : ∃ c ∈ stretch, c.overlaps n = true := by
    rcases (overlaps_iff le).1 meet with same | reach
    · obtain ⟨a, ha, first⟩ := hull.first
      exact ⟨a, ha, (overlaps_iff (rising a ha)).2 (.inl (first.trans same))⟩
    · obtain ⟨a, ha, last⟩ := hull.last
      exact ⟨a, ha, (overlaps_iff (rising a ha)).2 (.inr (last ▸ reach))⟩
  have toNext : ∀ a ∈ stretch ++ [n], Linked (stretch ++ [n]) a n := by
    intro a ha
    rcases List.mem_append.1 ha with ha | ha
    · have within : Linked (stretch ++ [n]) a c := (h a ha c hc).mono fun _ => List.mem_append_left _
      exact within.tail ⟨List.mem_append_left _ hc, by simp, touch⟩
    · exact List.mem_singleton.1 ha ▸ .refl
  exact fun a ha b hb => (toNext a ha).trans (toNext b hb).symm

/-- **A sorted list falls into stretches**, each of linked ranges, and what
is fused are their hulls. -/
theorem exists_stretches_from {rest : List Range} {stretch : List Range} (hull : Hull stretch r)
    (connected : Connected stretch) (rising : Rising (stretch ++ rest)) :
    ∃ cuts : List (List Range × Range), cuts.map Prod.snd = fuseFrom r rest ∧
      (cuts.map Prod.fst).flatten = stretch ++ rest ∧
      ∀ c ∈ cuts, Hull c.1 c.2 ∧ Connected c.1 := by
  induction rest generalizing r stretch with
  | nil => exact ⟨[(stretch, r)], rfl, by simp, by simp [hull, connected]⟩
  | cons n rest ih =>
    have later : ∀ a ∈ stretch, a.opens ≤ n.opens := fun a ha =>
      (List.pairwise_append.1 rising).2.2 a ha n List.mem_cons_self
    have le : r.opens ≤ n.opens := by
      obtain ⟨a, ha, same⟩ := hull.first
      exact same ▸ later a ha
    rw [fuseFrom]
    split
    · rename_i meet
      obtain ⟨cuts, hulls, all, each⟩ := ih (hull.snoc le meet) (connected.snoc hull later meet)
        (by rwa [List.append_assoc])
      exact ⟨cuts, hulls, by rw [all, List.append_assoc]; rfl, each⟩
    · obtain ⟨cuts, hulls, all, each⟩ := ih (hull_singleton n) (connected_singleton n)
        (List.pairwise_append.1 rising).2.1
      refine ⟨(stretch, r) :: cuts, by rw [List.map_cons, hulls], ?_, ?_⟩
      · rw [List.map_cons, List.flatten_cons, all]
        rfl
      · exact List.forall_mem_cons.2 ⟨⟨hull, connected⟩, each⟩

theorem exists_stretches {ranges : List Range} (rising : Rising ranges) :
    ∃ cuts : List (List Range × Range), cuts.map Prod.snd = fuse ranges ∧
      (cuts.map Prod.fst).flatten = ranges ∧ ∀ c ∈ cuts, Hull c.1 c.2 ∧ Connected c.1 := by
  cases ranges with
  | nil => exact ⟨[], rfl, rfl, by simp⟩
  | cons r rest => exact exists_stretches_from (hull_singleton r) (connected_singleton r) rising

/-! ## Classes -/

/-- The ranges of a list that are linked to one of them. -/
def classOf (ranges : List Range) (a : Range) : Set Range := {b | b ∈ ranges ∧ Linked ranges a b}

/-- A range goes from the first start of some ranges of a script to their
last end. -/
structure Spans (ranges : Set Range) (o : Range) : Prop where
  scriptId : ∀ a ∈ ranges, a.scriptId = o.scriptId
  start : IsLeast (start '' ranges) o.start
  finish : IsGreatest (finish '' ranges) o.finish

/-- So there is at most one. -/
theorem Spans.unique {ranges : Set Range} {o' : Range} (h : Spans ranges o) (h' : Spans ranges o') :
    o = o' := by
  obtain ⟨a, ha, -⟩ := h.start.1
  have script := (h.scriptId a ha).symm.trans (h'.scriptId a ha)
  have start := h.start.unique h'.start
  have finish := h.finish.unique h'.finish
  cases o
  cases o'
  congr

theorem Hull.spans {stretch : List Range} (h : Hull stretch o) : Spans {a | a ∈ stretch} o := by
  have script : ∀ a ∈ stretch, a.scriptId = o.scriptId := fun a ha =>
    (scriptId_of_overlaps (h.meets a ha)).symm
  refine ⟨script, ⟨?_, ?_⟩, ⟨?_, ?_⟩⟩
  · obtain ⟨a, ha, same⟩ := h.first
    exact ⟨a, ha, (place_eq_iff.1 same).2⟩
  · rintro _ ⟨a, ha, rfl⟩
    simpa [opens, place_le_iff, script a ha] using h.opens_le a ha
  · obtain ⟨a, ha, same⟩ := h.last
    exact ⟨a, ha, (place_eq_iff.1 same).2⟩
  · rintro _ ⟨a, ha, rfl⟩
    simpa [closes, place_le_iff, script a ha] using h.le_closes a ha

/-- **The classes of a list are stretches** of the list sorted, and what
is merged are their hulls. -/
theorem exists_classes (ranges : List Range) :
    ∃ cuts : List (List Range × Range), cuts.map Prod.snd = merge ranges ∧
      (∀ a, a ∈ ranges ↔ ∃ c ∈ cuts, a ∈ c.1) ∧
      (∀ c ∈ cuts, Hull c.1 c.2) ∧
      (∀ c ∈ cuts, ∀ c' ∈ cuts, c = c' ∨ Clear c.2 c'.2 ∨ Clear c'.2 c.2) ∧
      ∀ c ∈ cuts, ∀ a ∈ c.1, classOf ranges a = {b | b ∈ c.1} := by
  obtain ⟨cuts, hulls, all, each⟩ := exists_stretches (rising_sorted ranges)
  have mem : ∀ a, a ∈ ranges ↔ ∃ c ∈ cuts, a ∈ c.1 := by
    intro a
    rw [← (List.mergeSort_perm ranges precedes).mem_iff, ← all]
    simp
  have apart : ∀ c ∈ cuts, ∀ c' ∈ cuts, c = c' ∨ Clear c.2 c'.2 ∨ Clear c'.2 c.2 := by
    have clear : cuts.Pairwise fun c c' => Clear c.2 c'.2 :=
      List.pairwise_map.1 (hulls ▸ clear_fuse (rising_sorted ranges))
    have symm : Std.Symm fun c c' : List Range × Range => Clear c.2 c'.2 ∨ Clear c'.2 c.2 :=
      ⟨fun _ _ => Or.symm⟩
    have either : cuts.Pairwise fun c c' => Clear c.2 c'.2 ∨ Clear c'.2 c.2 := clear.imp Or.inl
    exact fun c hc c' hc' => or_iff_not_imp_left.2 (either.forall hc hc')
  refine ⟨cuts, hulls, mem, fun c hc => (each c hc).1, apart, fun c hc a ha => ?_⟩
  have within : ∀ b ∈ c.1, b ∈ ranges := fun b hb => (mem b).2 ⟨c, hc, hb⟩
  refine Set.Subset.antisymm ?_ fun b hb => ⟨within b hb, ((each c hc).2 a ha b hb).mono within⟩
  rintro b ⟨-, linked⟩
  -- No step leads out of a stretch, since hulls of others are clear of it.
  induction linked with
  | refl => exact ha
  | tail _ step ih =>
    obtain ⟨c', hc', there⟩ := (mem _).1 step.2.1
    rcases apart c hc c' hc' with rfl | clear | clear
    · exact there
    · rw [(each c hc).1.not_overlaps (each c' hc').1 clear ih there] at step
      exact absurd step.2.2 Bool.false_ne_true
    · rw [overlaps_comm, (each c' hc').1.not_overlaps (each c hc).1 clear there ih] at step
      exact absurd step.2.2 Bool.false_ne_true

/-- **Merging**, for ranges of any scripts, in any order, also where they
end before they start: what comes out is sorted and does not overlap; it
holds the positions that went in; it is one range for each class of ranges
that are linked by overlaps, from their first start to their last end; the
order of what goes in does not matter; and merging again changes nothing. -/
theorem classes_merged (ranges : List Range) :
    (merge ranges).Pairwise (fun a b => a.precedes b = true) ∧
      (merge ranges).Pairwise (fun a b => a.overlaps b = false) ∧
      (∀ script p, (∃ o ∈ merge ranges, o.Covers script p) ↔ ∃ a ∈ ranges, a.Covers script p) ∧
      (∀ o ∈ merge ranges, ∃ a ∈ ranges, Spans (classOf ranges a) o) ∧
      (∀ a ∈ ranges, ∃! o, o ∈ merge ranges ∧ Spans (classOf ranges a) o) ∧
      (∀ a ∈ ranges, ∀ b ∈ ranges, ∀ o, Spans (classOf ranges a) o → Spans (classOf ranges b) o →
        Linked ranges a b) ∧
      (merge ranges).Nodup ∧
      (∀ ranges', ranges'.Perm ranges → merge ranges' = merge ranges) ∧
      merge (merge ranges) = merge ranges := by
  have clear : (merge ranges).Pairwise Clear := clear_fuse (rising_sorted ranges)
  obtain ⟨cuts, hulls, mem, hull, apart, classes⟩ := exists_classes ranges
  have spans : ∀ c ∈ cuts, ∀ a ∈ c.1, Spans (classOf ranges a) c.2 := fun c hc a ha =>
    classes c hc a ha ▸ (hull c hc).spans
  have out : ∀ o, o ∈ merge ranges ↔ ∃ c ∈ cuts, c.2 = o := by
    simp [← hulls]
  refine ⟨clear.imp Clear.precedes, clear.imp Clear.not_overlaps, fun script p => ?_, ?_, ?_, ?_,
    clear.imp Clear.ne, ?_, merge_of_clear clear⟩
  · rw [merge, covers_fuse (rising_sorted ranges)]
    simp only [List.mem_mergeSort]
  · intro o ho
    obtain ⟨c, hc, rfl⟩ := (out o).1 ho
    obtain ⟨a, ha, -⟩ := (hull c hc).first
    exact ⟨a, (mem a).2 ⟨c, hc, ha⟩, spans c hc a ha⟩
  · intro a ha
    obtain ⟨c, hc, there⟩ := (mem a).1 ha
    exact ⟨c.2, ⟨(out _).2 ⟨c, hc, rfl⟩, spans c hc a there⟩, fun o ho =>
      ho.2.unique (spans c hc a there)⟩
  · intro a ha b hb o hao hbo
    obtain ⟨c, hc, hac⟩ := (mem a).1 ha
    obtain ⟨c', hc', hbc⟩ := (mem b).1 hb
    have same : c.2 = c'.2 :=
      ((spans c hc a hac).unique hao).trans (hbo.unique (spans c' hc' b hbc))
    rcases apart c hc c' hc' with rfl | clear | clear
    · have there : b ∈ classOf ranges a := by
        rw [classes c hc a hac]
        exact hbc
      exact there.2
    · exact absurd same clear.ne
    · exact absurd same.symm clear.ne
  · intro ranges' perm
    rw [merge, merge, sorted_eq_of_perm perm]

end Range

end DebugClient
