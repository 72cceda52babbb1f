import DebugClient.Location.Range
import DebugClient.Proofs.Session.Bindings
/-!
# Locating — the script a position of a URL is in

A URL may have been loaded more than once, and then several of its scripts
cover a position. It is located in the one that was registered last
(`located`), whatever was reported, evicted and forgotten meanwhile.

The catalog knows the order of the scripts of a URL only. That it is the
order of the journal, from which scripts may have gone since, is what
`LastRegistered` is about.
-/

namespace DebugClient

namespace Script

/-- A script covers the positions from its start to its end, both included,
and the lines from its first to its last. -/
def Covers (x : Script) (line : Nat) : Option Nat → Prop
  | some column =>
    ⟨x.lineOffset, x.columnOffset⟩ ≤ (⟨line, column⟩ : Position) ∧
      (⟨line, column⟩ : Position) ≤ ⟨x.endLine, x.endColumn⟩
  | none => x.lineOffset ≤ line ∧ line ≤ x.endLine

theorem contains_iff {x : Script} {line : Nat} {column : Option Nat} :
    x.contains line column = true ↔ x.Covers line column := by
  cases column with
  | none => exact contains_none_iff
  | some column =>
    simp only [contains, startsBy, endsBy, Covers, Position.le_def, Option.all_some,
      Bool.and_eq_true, Bool.or_eq_true, beq_iff_eq, decide_eq_true_eq]
    rw [eq_comm (a := line)]

end Script

namespace Session

variable {s : Session} {x : Script} {p : Script → Prop}

/-! ## The last of some scripts -/

/-- **The script registered last** of those that are there and have a
property: none that was registered after it is there and has it. -/
structure LastRegistered (s : Session) (p : Script → Prop) (x : Script) : Prop where
  /-- It is there. -/
  there : x ∈ s.catalog.scripts
  /-- It has the property. -/
  has : p x
  /-- It was registered after the others. -/
  last : ∃ newer older, s.registered = newer ++ x :: older ∧
    ∀ y ∈ newer, y ∈ s.catalog.scripts → ¬p y

theorem Keyed.registered_nodup (h : Keyed s) : s.registered.Nodup := by
  refine h.rising.imp fun {x y} newer same => ?_
  rw [same] at newer
  exact Nat.lt_irrefl _ newer

/-- What is left of a list in which everything is once is what of it is
there. -/
theorem filter_mem_of_sublist {α : Type} [DecidableEq α] {left all : List α}
    (sub : left.Sublist all) (once : all.Nodup) : all.filter (· ∈ left) = left := by
  induction sub with
  | slnil => rfl
  | @cons left all a sub ih =>
    obtain ⟨new, once⟩ := List.nodup_cons.1 once
    have gone : a ∉ left := fun there => new (sub.subset there)
    rw [List.filter_cons_of_neg (by simpa using gone), ih once]
  | @cons_cons left all a sub ih =>
    obtain ⟨new, once⟩ := List.nodup_cons.1 once
    have others : ∀ b ∈ all, decide (b ∈ a :: left) = decide (b ∈ left) := by
      intro b hb
      have other : b ≠ a := fun same => new (same ▸ hb)
      simp [other]
    rw [List.filter_cons_of_pos (by simp), List.filter_congr others, ih once]

/-- The script registered last is the first of those that are there, from
the newest on. -/
theorem InOrder.lastRegistered_iff (h : InOrder s) (keyed : Keyed s) [DecidablePred p] :
    s.LastRegistered p x ↔ s.catalog.scripts.reverse.find? p = some x := by
  classical
  have newest : s.catalog.scripts.reverse.Sublist s.registered := by
    simpa using h.order.reverse
  rw [← filter_mem_of_sublist newest keyed.registered_nodup, List.find?_filter,
    List.find?_eq_some_iff_append]
  simp only [List.mem_reverse, decide_eq_true_eq, Bool.not_eq_true', decide_eq_false_iff_not,
    not_and]
  constructor
  · rintro ⟨there, has, last⟩
    exact ⟨⟨there, has⟩, last⟩
  · rintro ⟨⟨there, has⟩, last⟩
    exact ⟨there, has, last⟩

/-! ## Every run -/

/-- **A position of a URL is located** exactly if a script that is there, and
is of the URL, covers it, and then in the one of these that was registered
last, whatever was reported, evicted and forgotten before. -/
theorem located (seat : Nat) (target : Target) (settings : Settings)
    (moves : List (Flow.Move ScriptCall (Ticket × Reply))) (url : String) (line : Nat)
    (column : Option Nat) (inline : Nat) :
    let s := afterScripts seat target settings moves
    let fits (x : Script) := x.IsOf url ∧ x.Covers line column
    ((s.catalog.locate? url line column inline).isSome ↔ ∃ x ∈ s.catalog.scripts, fits x) ∧
      (∀ place, s.catalog.locate? url line column inline = some place ↔
        ∃ x, s.LastRegistered fits x ∧ place = ⟨x.scriptId, line, column, inline⟩) ∧
      ∀ x : Script, x.contains line column = true ↔ x.Covers line column := by
  intro s fits
  have order : InOrder s := steady_inOrder.after seat target settings (inOrder_connect _ _ _) moves
  have bound : Bound s := steady_bound.after seat target settings (bound_connect _ _ _) moves
  classical
  have found : (s.catalog.forUrl url).find? (·.contains line column) =
      s.catalog.scripts.reverse.find? fun x => fits x := by
    rw [order.filed.forUrl_eq, ← List.filter_reverse, List.find?_filter]
    congr 1
    funext x
    simp [fits, Script.contains_iff]
  refine ⟨?_, fun place => ?_, fun x => Script.contains_iff⟩
  · rw [Catalog.locate?, found, Option.isSome_map, List.find?_isSome]
    simp
  · rw [Catalog.locate?, found, Option.map_eq_some_iff]
    simp only [order.lastRegistered_iff bound.keyed, Script.location]
    exact exists_congr fun x => and_congr_right fun _ => eq_comm

end Session

end DebugClient
