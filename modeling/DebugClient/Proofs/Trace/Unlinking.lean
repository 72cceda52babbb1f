import Mathlib.Data.List.Forall2
import Mathlib.Data.List.Induction
import DebugClient.Proofs.Trace.Recleaning
/-!
# Unlinking — which links of a trace are kept

Cleaning a trace takes the marker off every link and leaves out the links
behind the first that have no frames then. The others stay in their order,
each once, with nothing but the marker gone (`links_kept`).

A link that is left out goes with all it carries. The last link may refer
on to a trace another agent keeps, and the reference goes with it, unless
the last link that is kept has the same one (`onward_kept_iff`).
-/

namespace DebugClient

namespace Wire

namespace TraceLink

/-- A link begins with the frame that marks an await. -/
def Marked (l : TraceLink) : Prop := l.description = some asyncFunction ∧ l.callFrames ≠ []

/-- **A link without its marker**: it has all of the other but that one
frame, and is the other where there is none. -/
structure StrippedTo (l k : TraceLink) : Prop where
  /-- What the link is. -/
  description : k.description = l.description
  /-- Where the trace goes on. -/
  parentId : k.parentId = l.parentId
  /-- The marker is gone, and no other frame is. -/
  marked : l.Marked → ∃ marker, l.callFrames = marker :: k.callFrames
  /-- Without a marker no frame is gone. -/
  unmarked : ¬ l.Marked → k.callFrames = l.callFrames

/-- A link has frames beside the marker. -/
def Filled (l : TraceLink) : Prop := ∀ k, l.StrippedTo k → k.callFrames ≠ []

theorem clean_stripped (l : TraceLink) : l.StrippedTo l.clean := by
  refine ⟨l.clean_description, l.clean_parentId, fun marked => ?_, fun unmarked => ?_⟩
  · obtain ⟨marker, rest, frames⟩ := List.exists_cons_of_ne_nil marked.2
    refine ⟨marker, ?_⟩
    rw [clean, if_pos marked.1, frames, List.tail_cons]
  · by_cases described : l.description = some asyncFunction
    · have empty : l.callFrames = [] := by_contra fun filled => unmarked ⟨described, filled⟩
      rw [clean_of_isEmpty (List.isEmpty_iff.2 empty)]
    · rw [clean, if_neg described]

/-- There is one way to take the marker off. -/
theorem StrippedTo.eq_clean {l k : TraceLink} (h : l.StrippedTo k) : k = l.clean := by
  have is := l.clean_stripped
  have frames : k.callFrames = l.clean.callFrames := by
    by_cases marked : l.Marked
    · obtain ⟨marker, here⟩ := h.marked marked
      obtain ⟨marker', there⟩ := is.marked marked
      exact (List.cons.inj (here.symm.trans there)).2
    · exact (h.unmarked marked).trans (is.unmarked marked).symm
  exact (TraceLink.mk.injEq ..).mpr
    ⟨h.description.trans is.description.symm, frames, h.parentId.trans is.parentId.symm⟩

theorem filled_iff (l : TraceLink) : l.Filled ↔ (!l.clean.callFrames.isEmpty) = true := by
  have one : l.Filled ↔ l.clean.callFrames ≠ [] :=
    ⟨fun h => h _ l.clean_stripped, fun h k stripped => stripped.eq_clean ▸ h⟩
  simpa using one

end TraceLink

namespace StackTrace

/-! ## The links that are kept -/

/-- **The links of a cleaned trace**: with their places in the trace, the
links that are kept are the first and those that have frames beside the
marker. They stay in order, each without its marker. -/
theorem links_kept (t : StackTrace) :
    ∃ kept : List (TraceLink × Nat), kept.Sublist t.links.zipIdx ∧
      (∀ place ∈ t.links.zipIdx, place ∈ kept ↔ place.2 = 0 ∨ place.1.Filled) ∧
      List.Forall₂ (fun place l => place.1.StrippedTo l) kept t.clean.links := by
  have places : t.links.zipIdx = (t.link, 0) :: t.parents.zipIdx 1 := List.zipIdx_cons
  rw [places]
  refine ⟨(t.link, 0) :: (t.parents.zipIdx 1).filter fun place => !place.1.clean.callFrames.isEmpty,
    List.filter_sublist.cons_cons _, fun place there => ?_, ?_⟩
  · rcases List.mem_cons.1 there with rfl | behind
    · simp
    · have later : place.2 ≠ 0 := by
        have := List.le_snd_of_mem_zipIdx behind
        omega
      have other : place ≠ (t.link, 0) := fun same => later (congrArg Prod.snd same)
      simp [other, behind, later, TraceLink.filled_iff]
  · have parents : t.clean.parents =
        ((t.parents.zipIdx 1).filter fun place => !place.1.clean.callFrames.isEmpty).map
          fun place => place.1.clean := by
      have placed : t.parents.map TraceLink.clean =
          (t.parents.zipIdx 1).map fun place => place.1.clean := by
        conv_lhs => rw [← List.zipIdx_map_fst 1 t.parents, List.map_map]
        rfl
      exact (congrArg (List.filter _) placed).trans List.filter_map
    refine .cons t.link.clean_stripped ?_
    rw [parents, List.forall₂_map_right_iff, List.forall₂_same]
    exact fun place _ => place.1.clean_stripped

/-! ## The link at the end -/

/-- The link furthest back. -/
def last (t : StackTrace) : TraceLink := t.parents.getLastD t.link

theorem remnants_append (front back : List TraceLink) :
    remnants (front ++ back) = remnants front ++ remnants back := by
  rw [remnants, List.map_append, List.filter_append]
  rfl

/-- Links without frames beside the marker leave nothing. -/
theorem remnants_of_bare {links : List TraceLink} (bare : ∀ l ∈ links, ¬ l.Filled) :
    remnants links = [] := by
  refine List.filter_eq_nil_iff.2 fun k there => ?_
  obtain ⟨l, hl, rfl⟩ := List.mem_map.1 there
  exact fun left => bare l hl (l.filled_iff.2 left)

theorem remnants_cons_of_filled {l : TraceLink} (filled : l.Filled) (rest : List TraceLink) :
    remnants (l :: rest) = l.clean :: remnants rest :=
  List.filter_cons_of_pos (l.filled_iff.1 filled)

/-- The links behind the last one that is kept. -/
theorem exists_last_kept (t : StackTrace) :
    ∃ front k gone, t.links = front ++ k :: gone ∧ (front = [] ∨ k.Filled) ∧
      ∀ l ∈ gone, ¬ l.Filled := by
  obtain ⟨link, parents⟩ := t
  -- The links are taken from the end on, until one is kept.
  induction parents using List.reverseRecOn with
  | nil => exact ⟨[], link, [], rfl, .inl rfl, nofun⟩
  | append_singleton parents l ih =>
    by_cases filled : l.Filled
    · exact ⟨link :: parents, l, [], rfl, .inr filled, nofun⟩
    · obtain ⟨front, k, gone, split, kept, bare⟩ := ih
      have longer : (StackTrace.mk link (parents ++ [l])).links = front ++ k :: (gone ++ [l]) := by
        have both : (StackTrace.mk link (parents ++ [l])).links =
            (StackTrace.mk link parents).links ++ [l] := rfl
        rw [both, split, List.append_assoc]
        rfl
      exact ⟨front, k, gone ++ [l], longer, kept,
        List.forall_mem_append.2 ⟨bare, List.forall_mem_singleton.2 filled⟩⟩

/-- A cleaned trace ends where the last link is that is kept. -/
theorem last_clean {t : StackTrace} {front gone : List TraceLink} {k : TraceLink}
    (split : t.links = front ++ k :: gone) (kept : front = [] ∨ k.Filled)
    (bare : ∀ l ∈ gone, ¬ l.Filled) : t.clean.last = k.clean := by
  have nothing := remnants_of_bare bare
  change (remnants t.parents).getLastD t.link.clean = k.clean
  cases front with
  | nil =>
    obtain ⟨rfl, rfl⟩ := List.cons.inj split
    rw [nothing]
    rfl
  | cons first front =>
    have filled : k.Filled := kept.resolve_left (List.cons_ne_nil _ _)
    have parents : t.parents = front ++ k :: gone := (List.cons.inj split).2
    rw [parents, remnants_append, remnants_cons_of_filled filled, nothing]
    simp

/-- **A reference to another agent is kept** at the end of a trace exactly
if the last link that is kept has it: the first one, or the last that has
frames beside the marker. -/
theorem onward_kept_iff (t : StackTrace) :
    t.clean.last.parentId = t.last.parentId ↔
      ∃ front k gone, t.links = front ++ k :: gone ∧ (front = [] ∨ k.Filled) ∧
        (∀ l ∈ gone, ¬ l.Filled) ∧ k.parentId = t.last.parentId := by
  constructor
  · intro same
    obtain ⟨front, k, gone, split, kept, bare⟩ := t.exists_last_kept
    refine ⟨front, k, gone, split, kept, bare, ?_⟩
    rw [← same, last_clean split kept bare, TraceLink.clean_parentId]
  · rintro ⟨front, k, gone, split, kept, bare, same⟩
    rw [last_clean split kept bare, TraceLink.clean_parentId, same]

/-- A task that was scheduled by one of another agent, of which no frames
are known here: nothing leads on to it any more. -/
theorem onward_lost :
    let here : TraceLink := ⟨none, [⟨"main", "1", "app.js", 9, 0⟩], none⟩
    let beyond : TraceLink := ⟨some "postMessage", [], some ⟨"7", some "worker"⟩⟩
    let t : StackTrace := ⟨here, [beyond]⟩
    t.last.parentId = some ⟨"7", some "worker"⟩ ∧ t.clean.links = [here] ∧
      t.clean.last.parentId = none := by
  decide

end StackTrace

end Wire

end DebugClient
