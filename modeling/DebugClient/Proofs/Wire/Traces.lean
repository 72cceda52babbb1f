import DebugClient.Wire.Trace
import DebugClient.Proofs.Lookup
import DebugClient.Proofs.Wire.Codecs
/-!
# Stack traces — the form of a chain does not depend on the bound

The form of traces is built up to a number of links, and both directions
choose that number: the reader takes the depth of the value, the writer
the length of the trace. So the two meet only because the number does not
matter as long as it suffices: a trace is read within every bound that is
not below its length (`codecWithin_of_length`), and no value holds more
links than its depth (`length_le_depth`).
-/

namespace DebugClient

namespace Json

theorem depth_le_depthItems {items : List Json} {j : Json} (h : j ∈ items) :
    j.depth ≤ depthItems items := by
  induction items with
  | nil => simp at h
  | cons i rest ih =>
    rcases List.mem_cons.mp h with rfl | later
    · exact Nat.le_max_left _ _
    · exact Nat.le_trans (ih later) (Nat.le_max_right _ _)

theorem depth_le_depthMembers {members : List (String × Json)} {name : String} {j : Json}
    (h : (name, j) ∈ members) : j.depth ≤ depthMembers members := by
  induction members with
  | nil => simp at h
  | cons m rest ih =>
    obtain ⟨n, i⟩ := m
    rcases List.mem_cons.mp h with here | later
    · obtain ⟨rfl, rfl⟩ := Prod.mk.inj here
      exact Nat.le_max_left _ _
    · exact Nat.le_trans (ih later) (Nat.le_max_right _ _)

/-- What a record holds is nested less deep than the record. -/
theorem depth_lt_of_row {layout : List (String × Bool)} {j : Json} {row : List (String × Json)}
    (h : Codec.row? layout j = some row) {name : String} {held : Json}
    (found : row.lookup name = some held) : held.depth < j.depth := by
  have there := Lookup.mem_of_lookup found
  cases j with
  | obj members =>
    obtain rfl : members = row := by simpa [Codec.row?] using h
    exact Nat.lt_succ_of_le (depth_le_depthMembers there)
  | arr items =>
    simp only [Codec.row?, Option.ite_none_right_eq_some, Option.some.injEq] at h
    obtain ⟨-, rfl⟩ := h
    exact Nat.lt_succ_of_le (depth_le_depthItems (List.of_mem_zip there).2)
  | _ => simp [Codec.row?] at h

end Json

namespace Wire

open Codec

instance : Lawful TraceFrame.codec := lawful_record (by decide) fun _ => rfl

instance : Lawful TraceId.codec := lawful_record (by decide) fun _ => rfl

namespace StackTrace

variable {parent : Codec StackTrace} {j : Json} {t : StackTrace} {n m : Nat}

@[simp] theorem ofLinks?_getD (p : Option StackTrace) :
    ofLinks? ((p.map links).getD []) = p := by
  cases p with
  | none => rfl
  | some p => exact ofLinks?_links p

theorem links_getD_parent? (t : StackTrace) : (t.parent?.map links).getD [] = t.parents := by
  obtain ⟨link, parents⟩ := t
  cases parents <;> rfl

/-- A trace is one link longer than the one behind its first link. -/
theorem length_links (t : StackTrace) :
    t.links.length = ((t.parent?.map fun p => p.links.length).getD 0) + 1 := by
  obtain ⟨link, parents⟩ := t
  cases parents <;> rfl

/-- What a trace is read from: its first link, and the trace behind it. -/
theorem codecOver_read_eq_some :
    (codecOver parent).read j = some t ↔ ∃ row,
      row? [("description", false), ("callFrames", false), ("parent", false), ("parentId", false)] j
        = some row ∧
      Field.readOptional .string (row.lookup "description") = some t.link.description ∧
      (row.lookup "callFrames").bind (Codec.list TraceFrame.codec).read = some t.link.callFrames ∧
      Field.readOptional parent (row.lookup "parent") = some t.parent? ∧
      Field.readOptional TraceId.codec (row.lookup "parentId") = some t.link.parentId := by
  rw [codecOver, record_read_eq_some]
  constructor
  · rintro ⟨row, ⟨description, callFrames, p, parentId, _⟩, hrow, fields, rfl⟩
    simp only [Fields.read_cons_eq_some] at fields
    obtain ⟨first, second, third, fourth, -⟩ := fields
    exact ⟨row, hrow, first, second, third.trans (by simp [parent?]), fourth⟩
  · rintro ⟨row, hrow, first, second, third, fourth⟩
    refine ⟨row, (t.link.description, t.link.callFrames, t.parent?, t.link.parentId, ()), hrow, ?_,
      ?_⟩
    · simp only [Fields.read_cons_eq_some]
      exact ⟨first, second, third, fourth, rfl⟩
    · simp [links_getD_parent?]

/-- **A value holds no more links than its depth.** -/
theorem length_le_depth (h : (codecWithin n).read j = some t) : t.links.length ≤ j.depth := by
  induction n generalizing j t with
  | zero => simp [codecWithin] at h
  | succ n ih =>
    obtain ⟨row, hrow, -, frames, behind, -⟩ := codecOver_read_eq_some.mp h
    rw [length_links]
    rcases Field.readOptional_eq_some behind with
      ⟨noParent, -⟩ | ⟨held, p, found, -, isParent, read⟩
    -- A trace with nothing behind it still holds a list of frames, and so has a depth.
    · obtain ⟨held, found, -⟩ := Option.bind_eq_some_iff.mp frames
      have := Json.depth_lt_of_row hrow found
      simp only [noParent, Option.map_none, Option.getD_none]
      omega
    · have := Json.depth_lt_of_row hrow found
      have := ih read
      simp only [isParent, Option.map_some, Option.getD_some]
      omega

/-- **Every bound that suffices reads the same trace.** -/
theorem codecWithin_of_length (h : (codecWithin n).read j = some t) (long : t.links.length ≤ m) :
    (codecWithin m).read j = some t := by
  induction n generalizing j t m with
  | zero => simp [codecWithin] at h
  | succ n ih =>
    -- The bound that suffices is not zero, and one less suffices for what is behind.
    rw [length_links] at long
    obtain ⟨m, rfl⟩ : ∃ m', m = m' + 1 := ⟨m - 1, by omega⟩
    obtain ⟨row, hrow, first, second, behind, fourth⟩ := codecOver_read_eq_some.mp h
    refine codecOver_read_eq_some.mpr ⟨row, hrow, first, second, ?_, fourth⟩
    rcases Field.readOptional_eq_some behind with
      ⟨noParent, absent⟩ | ⟨held, p, found, there, isParent, read⟩
    · rcases absent with absent | absent <;> rw [absent, noParent] <;> rfl
    · simp only [isParent, Option.map_some, Option.getD_some] at long
      rw [found, Field.readOptional_some there, ih read (by omega), isParent]
      rfl

instance [Lawful parent] : Lawful (codecOver parent) :=
  lawful_record
    (by decide : ["description", "callFrames", "parent", "parentId"].Nodup)
    fun _ => by simp [parent?]

instance lawful_codecWithin (n : Nat) : Lawful (codecWithin n) := by
  induction n with
  | zero =>
    exact ⟨fun _ _ h => by simp [codecWithin] at h, fun _ _ _ h => by simp [codecWithin] at h⟩
  | succ n ih => exact inferInstanceAs (Lawful (codecOver (codecWithin n)))

/-- **Stack traces of any length are lawful.** The bounds the two
directions choose differ, and both suffice. -/
instance lawful_codec : Lawful codec where
  stable := by
    intro j t read
    -- It is read within the depth of its value, and written within its own length.
    have short : (codecWithin t.links.length).read j = some t :=
      codecWithin_of_length read (Nat.le_refl _)
    have again : (codecWithin t.links.length).read (codec.write t) = some t :=
      Lawful.stable j t short
    exact codecWithin_of_length again (length_le_depth again)
  present := by
    intro j t _ _
    change (codecWithin t.links.length).write t ≠ .null
    rw [length_links]
    exact record_write_ne_null t

end StackTrace
end Wire
end DebugClient
