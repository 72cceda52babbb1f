import Mathlib.Data.List.Basic
import DebugClient.Trace.Cleaning
/-!
# Recleaning — a trace that is cleaned again

Cleaning goes by descriptions, and leaves them as they are. So it takes
the first frame of an `async function` for its marker each time, whether
the marker is still there or not. A trace that was cleaned stays as it is
exactly if no such link has frames left (`clean_clean_iff`).
-/

namespace DebugClient

namespace Wire

/-- A link is done with if the frames behind the marker, if it has one,
are none. -/
theorem TraceLink.clean_stays_iff (l : TraceLink) :
    l.clean.clean = l.clean ↔ (l.description = some asyncFunction → l.callFrames.length ≤ 1) := by
  by_cases h : l.description = some asyncFunction
  · have frames : l.clean.callFrames = l.callFrames.tail := by rw [clean, if_pos h]
    have again : l.clean.clean = { l.clean with callFrames := l.callFrames.tail.tail } := by
      rw [clean, if_pos ((clean_description l).trans h), frames]
    rw [again]
    constructor
    · intro same _
      have tails : l.callFrames.tail.tail = l.callFrames.tail :=
        (congrArg callFrames same).trans frames
      have lengths := congrArg List.length tails
      simp only [List.length_tail] at lengths
      omega
    · intro few
      have gone : l.callFrames.tail = [] := by
        have few := few h
        rw [← List.length_eq_zero_iff, List.length_tail]
        omega
      rw [gone, List.tail_nil, ← gone, ← frames]
  · have same : l.clean = l := by rw [clean, if_neg h]
    rw [same, same]
    simp [h]

/-- A link without frames has none to lose. -/
theorem TraceLink.clean_of_isEmpty {l : TraceLink} (h : l.callFrames.isEmpty = true) :
    l.clean = l := by
  rw [List.isEmpty_iff] at h
  unfold clean
  split
  · rw [h, List.tail_nil, ← h]
  · rfl

namespace StackTrace

/-- What is left of the links behind the first. -/
def remnants (parents : List TraceLink) : List TraceLink :=
  (parents.map TraceLink.clean).filter fun l => !l.callFrames.isEmpty

/-- Links with frames stay exactly if cleaning leaves each as it is: a
link that is left out makes the chain shorter. -/
theorem remnants_eq_self_iff {links : List TraceLink}
    (filled : ∀ l ∈ links, (!l.callFrames.isEmpty) = true) :
    remnants links = links ↔ ∀ l ∈ links, l.clean = l := by
  have each : links.map TraceLink.clean = links ↔ ∀ l ∈ links, l.clean = l := by
    simpa using List.map_inj_left (f := TraceLink.clean) (g := id) (l := links)
  constructor
  · intro same
    have all : remnants links = links.map TraceLink.clean := by
      have sub : (remnants links).Sublist (links.map TraceLink.clean) := List.filter_sublist
      exact sub.eq_of_length (by rw [same, List.length_map])
    exact each.1 (all.symm.trans same)
  · intro stays
    rw [remnants, each.2 stays]
    exact List.filter_eq_self.2 filled

theorem remnants_remnants_iff (links : List TraceLink) :
    remnants (remnants links) = remnants links ↔ ∀ l ∈ links, l.clean.clean = l.clean := by
  have filled : ∀ l ∈ remnants links, (!l.callFrames.isEmpty) = true := fun l hl =>
    (List.mem_filter.1 hl).2
  rw [remnants_eq_self_iff filled]
  constructor
  · intro stays l hl
    cases empty : l.clean.callFrames.isEmpty with
    | true => exact TraceLink.clean_of_isEmpty empty
    | false =>
      have left : l.clean ∈ remnants links :=
        List.mem_filter.2 ⟨List.mem_map_of_mem hl, by rw [empty]; rfl⟩
      exact stays l.clean left
  · intro stays l hl
    obtain ⟨l', hl', rfl⟩ := List.mem_map.1 (List.mem_filter.1 hl).1
    exact stays l' hl'

/-- **Cleaning a trace again** changes nothing exactly if no link that is
described as an `async function`, the first one included, has more than
one frame. -/
theorem clean_clean_iff (t : StackTrace) :
    t.clean.clean = t.clean ↔
      ∀ l ∈ t.links, l.description = some asyncFunction → l.callFrames.length ≤ 1 := by
  have parts : t.clean.clean = t.clean ↔
      t.link.clean.clean = t.link.clean ∧ remnants (remnants t.parents) = remnants t.parents :=
    StackTrace.mk.injEq .. ▸ Iff.rfl
  have stays : t.clean.clean = t.clean ↔ ∀ l ∈ t.links, l.clean.clean = l.clean := by
    rw [parts, remnants_remnants_iff, links, List.forall_mem_cons]
  rw [stays]
  exact forall₂_congr fun l _ => l.clean_stays_iff

/-- A function that awaited in its caller: the first cleaning takes the
marker, the second the caller. -/
theorem caller_taken_for_marker :
    let marker : TraceFrame := ⟨"await", "1", "app.js", 3, 4⟩
    let caller : TraceFrame := ⟨"main", "1", "app.js", 9, 0⟩
    let t : StackTrace := ⟨⟨some asyncFunction, [marker, caller], none⟩, []⟩
    t.clean.link.callFrames = [caller] ∧ t.clean.clean.link.callFrames = [] ∧
      t.clean.clean ≠ t.clean := by
  decide

end StackTrace

end Wire

end DebugClient
