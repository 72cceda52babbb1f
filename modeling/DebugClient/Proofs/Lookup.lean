import Mathlib.Data.List.Nodup
/-!
# Lookup — association lists with one entry a key

Registries, catalogs and source map tables are association lists in which
a key has one entry. What is looked up there is what is in the list.
-/

namespace DebugClient

namespace Lookup

variable {α β : Type} [BEq α] [LawfulBEq α] {l : List (α × β)} {a k : α} {b : β}

theorem lookup_cons_ite [DecidableEq α] (k a : α) (b : β) (l : List (α × β)) :
    ((k, b) :: l).lookup a = if a = k then some b else l.lookup a := by
  rw [List.lookup_cons]
  by_cases e : a = k
  · simp [e]
  · simp [beq_false_of_ne e, e]

theorem mem_of_lookup (h : l.lookup a = some b) : (a, b) ∈ l := by
  obtain ⟨l₁, l₂, e, -⟩ := List.lookup_eq_some_iff.1 h
  simp [e]

theorem lookup_eq_none (h : a ∉ l.map (·.1)) : l.lookup a = none := by
  refine List.lookup_eq_none_iff.2 fun p hp => bne_iff_ne.2 fun same => h ?_
  exact List.mem_map.2 ⟨p, hp, same.symm⟩

/-- A key with an entry has a value. -/
theorem exists_lookup (h : l.any (·.1 == a) = true) : ∃ b, l.lookup a = some b := by
  obtain ⟨e, there, same⟩ := List.any_eq_true.1 h
  cases found : l.lookup a with
  | some b => exact ⟨b, rfl⟩
  | none =>
    have absent := List.lookup_eq_none_iff.1 found e there
    rw [eq_of_beq same] at absent
    simp at absent

/-- A key with a value has an entry. -/
theorem any_of_lookup (h : l.lookup a = some b) : l.any (·.1 == a) = true :=
  List.any_eq_true.2 ⟨(a, b), mem_of_lookup h, beq_self_eq_true a⟩

/-- A key with one entry has its value. -/
theorem lookup_iff_mem (once : (l.map (·.1)).Nodup) : l.lookup a = some b ↔ (a, b) ∈ l := by
  refine ⟨mem_of_lookup, fun h => ?_⟩
  cases found : l.lookup a with
  | none =>
    have absent := List.lookup_eq_none_iff.1 found (a, b) h
    simp at absent
  | some c =>
    have same := List.inj_on_of_nodup_map once (mem_of_lookup found) h rfl
    exact congrArg some (congrArg Prod.snd same)

/-- Taking out the entry of another key changes nothing. -/
theorem lookup_filter_ne [DecidableEq α] (h : a ≠ k) :
    (l.filter (·.1 != k)).lookup a = l.lookup a := by
  induction l with
  | nil => rfl
  | cons e rest ih =>
    obtain ⟨j, b⟩ := e
    by_cases same : j = k
    · subst same
      rw [lookup_cons_ite, if_neg h]
      simpa using ih
    · simp [same, lookup_cons_ite, ih]

end Lookup

end DebugClient
