import DebugClient.Hub
import DebugClient.Proofs.Lookup
import Mathlib.Logic.Function.Basic
/-!
# Rosters — who is registered under which identity

A `Roster` is what of a hub its registry depends on: of every session the
state of its agent, its identity and how often it was announced and
dismissed, and the entries of the registry.

Three things happen to a roster. An agent is switched on or off, a session
takes on an identity, and it gives its identity up. Each of them keeps a
roster proper (`Proper`): the registry holds exactly the identities the
sessions have.
-/

namespace DebugClient

/-! ## Registries -/

namespace Registry

@[simp] theorem find?_unregister_self (r : Registry) (id : DebuggerId) :
    (r.unregister id).find? id = none := by
  refine Lookup.lookup_eq_none fun there => ?_
  obtain ⟨e, kept, same⟩ := List.mem_map.1 there
  exact bne_iff_ne.1 (List.mem_filter.1 kept).2 same

theorem find?_unregister_of_ne (r : Registry) {id other : DebuggerId} (h : other ≠ id) :
    (r.unregister id).find? other = r.find? other := Lookup.lookup_filter_ne h

/-- What a registry finds in which a session was just registered. -/
theorem find?_register (r : Registry) (id other : DebuggerId) (session : Nat) :
    (r.register id session).find? other =
      ((r.unregister id).find? other).or ([(id, session)].lookup other) := List.lookup_append

/-- The session just registered is the one of its identity. -/
@[simp] theorem find?_register_self (r : Registry) (id : DebuggerId) (session : Nat) :
    (r.register id session).find? id = some session := by
  rw [find?_register, find?_unregister_self, Option.none_or, List.lookup_cons_self]

/-- Every other identity keeps its session. -/
theorem find?_register_of_ne (r : Registry) {id other : DebuggerId} (session : Nat)
    (h : other ≠ id) : (r.register id session).find? other = r.find? other := by
  have none : [(id, session)].lookup other = none := by rw [Lookup.lookup_cons_ite, if_neg h]; rfl
  rw [find?_register, find?_unregister_of_ne r h, none, Option.or_none]

end Registry

/-! ## Posts -/

/-- What of a session the registry depends on. -/
structure Post where
  /-- Its place. -/
  seat : Nat
  /-- The state of its agent. -/
  enablement : Enablement
  /-- Its identity. -/
  identity : Option DebuggerId
  /-- How often it was announced that it can pause. -/
  announced : Nat
  /-- How often it was announced that it was disabled. -/
  dismissed : Nat

/-- Whether a signal announces that the agent can pause. -/
def Signal.announces : Signal → Bool
  | .debugger .readyToPause => true
  | _ => false

/-- Whether a signal announces that the agent was disabled. -/
def Signal.dismisses : Signal → Bool
  | .debugger .wasDisabled => true
  | _ => false

/-- The post of a session. -/
def Session.post (s : Session) : Post where
  seat := s.seat
  enablement := s.enablement
  identity := s.debuggerId
  announced := s.journal.countP Signal.announces
  dismissed := s.journal.countP Signal.dismisses

/-! ## Rosters -/

/-- What of a hub its registry depends on. -/
structure Roster where
  /-- The post of the session at each place. -/
  posts : Nat → Post
  /-- The entries of the registry. -/
  entries : List (DebuggerId × Nat)

namespace Roster

/-- The entries but that of an identity. -/
def without (id : Option DebuggerId) (entries : List (DebuggerId × Nat)) :
    List (DebuggerId × Nat) :=
  entries.filter fun e => some e.1 != id

@[simp] theorem mem_without {id : Option DebuggerId} {entries : List (DebuggerId × Nat)}
    {e : DebuggerId × Nat} : e ∈ without id entries ↔ e ∈ entries ∧ some e.1 ≠ id := by
  simp [without]

@[simp] theorem without_none (entries : List (DebuggerId × Nat)) : without none entries = entries := by
  simp [without]

theorem without_without (id : Option DebuggerId) (entries : List (DebuggerId × Nat)) :
    without id (without id entries) = without id entries := by
  simp [without]

/-- Changes the post at a place. -/
def amend (R : Roster) (k : Nat) (f : Post → Post) : Roster :=
  { R with posts := Function.update R.posts k (f (R.posts k)) }

/-- Switches an agent. -/
def switch (R : Roster) (k : Nat) (e : Enablement) : Roster :=
  R.amend k ({ · with enablement := e })

/-- A session takes on an identity, which is announced. -/
def name (R : Roster) (k : Nat) (id : DebuggerId) : Roster :=
  { R.amend k fun p => { p with identity := some id, announced := p.announced + 1 } with
    entries := without (some id) (without (R.posts k).identity R.entries) ++ [(id, (R.posts k).seat)] }

/-- A session gives up its identity, and it is announced that its agent
was disabled. -/
def unname (R : Roster) (k : Nat) : Roster :=
  { R.amend k fun p => { p with identity := none, dismissed := p.dismissed + 1 } with
    entries := without (R.posts k).identity R.entries }

/-- The post of a session after a change at a place. -/
theorem amend_posts (R : Roster) (k j : Nat) (f : Post → Post) :
    (R.amend k f).posts j = if j = k then f (R.posts k) else R.posts j :=
  Function.update_apply R.posts k (f (R.posts k)) j

theorem switch_posts (R : Roster) (k j : Nat) (e : Enablement) :
    (R.switch k e).posts j =
      if j = k then { R.posts k with enablement := e } else R.posts j :=
  amend_posts R k j _

theorem name_posts (R : Roster) (k j : Nat) (id : DebuggerId) :
    (R.name k id).posts j =
      if j = k then
        { R.posts k with identity := some id, announced := (R.posts k).announced + 1 }
      else R.posts j := by
  simp [name, amend_posts]

theorem unname_posts (R : Roster) (k j : Nat) :
    (R.unname k).posts j =
      if j = k then { R.posts k with identity := none, dismissed := (R.posts k).dismissed + 1 }
      else R.posts j := by
  simp [unname, amend_posts]

/-! ## Proper rosters -/

/-- **A proper roster** of some sessions: the registry holds the identities
the sessions have, each once, and each was given to the session that has
it. -/
structure Proper (n : Nat) (given : Nat → DebuggerId → Prop) (R : Roster) : Prop where
  /-- Every session is at its place. -/
  seat : ∀ k < n, (R.posts k).seat = k
  /-- An identity is registered once. -/
  nodup : (R.entries.map (·.1)).Nodup
  /-- What is registered is what the sessions have. -/
  mem_iff : ∀ id k, (id, k) ∈ R.entries ↔ k < n ∧ (R.posts k).identity = some id
  /-- A session has an identity that it was given. -/
  given : ∀ k < n, ∀ id, (R.posts k).identity = some id → given k id

variable {n : Nat} {given : Nat → DebuggerId → Prop} {R : Roster} {j k : Nat} {id : DebuggerId}

theorem nodup_without {entries : List (DebuggerId × Nat)} (h : (entries.map (·.1)).Nodup)
    (id : Option DebuggerId) : ((without id entries).map (·.1)).Nodup :=
  h.sublist (List.filter_sublist.map _)

/-- To take on an identity leaves every identity registered once. -/
theorem nodup_named {entries : List (DebuggerId × Nat)} (h : (entries.map (·.1)).Nodup)
    (old : Option DebuggerId) (id : DebuggerId) (k : Nat) :
    ((without (some id) (without old entries) ++ [(id, k)]).map (·.1)).Nodup := by
  have rest := nodup_without (nodup_without h old) (some id)
  simp only [List.map_append, List.map_cons, List.map_nil]
  refine List.nodup_append.2 ⟨rest, by simp, fun a ha b hb => ?_⟩
  obtain ⟨e, he, rfl⟩ := List.mem_map.1 ha
  rw [List.mem_singleton.1 hb]
  exact fun same => (mem_without.1 he).2 (congrArg some same)

/-- No two sessions have one identity. -/
theorem Proper.unique (h : R.Proper n given) (hj : (id, j) ∈ R.entries)
    (hk : (id, k) ∈ R.entries) : j = k := by
  have same := List.inj_on_of_nodup_map h.nodup hj hk rfl
  exact congrArg Prod.snd same

theorem Proper.switch (h : R.Proper n given) (e : Enablement) : (R.switch k e).Proper n given := by
  have seat : ∀ j, ((R.switch k e).posts j).seat = (R.posts j).seat := by
    intro j
    rw [switch_posts]
    split <;> simp [*]
  have identity : ∀ j, ((R.switch k e).posts j).identity = (R.posts j).identity := by
    intro j
    rw [switch_posts]
    split <;> simp [*]
  refine ⟨fun j hj => (seat j).trans (h.seat j hj), h.nodup, fun id j => ?_, fun j hj id hid => ?_⟩
  · rw [identity]
    exact h.mem_iff id j
  · exact h.given j hj id (identity j ▸ hid)

theorem Proper.unname (h : R.Proper n given) (hk : k < n) : (R.unname k).Proper n given := by
  refine ⟨fun j hj => ?_, nodup_without h.nodup _, fun id j => ?_, fun j hj id hid => ?_⟩
  · rw [unname_posts]
    split
    · rename_i e
      simpa [e] using h.seat k hk
    · exact h.seat j hj
  · rw [unname_posts]
    simp only [Roster.unname, mem_without, h.mem_iff]
    split
    · rename_i e
      subst e
      simpa using fun _ hid => hid.symm
    · rename_i ne
      refine ⟨fun hm => hm.1, fun hm => ⟨hm, fun same => ne ?_⟩⟩
      exact h.unique ((h.mem_iff id j).2 hm) ((h.mem_iff id k).2 ⟨hk, same.symm⟩)
  · rw [unname_posts] at hid
    split at hid
    · simp at hid
    · exact h.given j hj id hid

theorem Proper.name (h : R.Proper n given) (hk : k < n) (hid : given k id)
    (own : ∀ j < n, given j id → j = k) : (R.name k id).Proper n given := by
  refine ⟨fun j hj => ?_, ?_, fun i j => ?_, fun j hj i hi => ?_⟩
  · rw [name_posts]
    split
    · rename_i e
      simpa [e] using h.seat k hk
    · exact h.seat j hj
  · exact nodup_named h.nodup _ id _
  · rw [name_posts]
    simp only [Roster.name, List.mem_append, mem_without, List.mem_singleton, Prod.mk.injEq,
      h.mem_iff, h.seat k hk]
    split
    · rename_i e
      subst e
      simp only [Option.some.injEq]
      constructor
      · rintro (⟨⟨⟨-, hi⟩, ne⟩, -⟩ | ⟨rfl, -⟩)
        · exact absurd hi.symm ne
        · exact ⟨hk, rfl⟩
      · rintro ⟨-, rfl⟩
        exact .inr ⟨rfl, trivial⟩
    · rename_i ne
      constructor
      · rintro (⟨⟨hm, -⟩, -⟩ | ⟨-, e⟩)
        · exact hm
        · exact absurd e ne
      · intro hm
        refine .inl ⟨⟨hm, fun same => ne ?_⟩, fun same => ne ?_⟩
        · exact h.unique ((h.mem_iff i j).2 hm) ((h.mem_iff i k).2 ⟨hk, same.symm⟩)
        · obtain rfl := Option.some.inj same
          exact own j hm.1 (h.given j hm.1 i hm.2)
  · rw [name_posts] at hi
    split at hi
    · rename_i e
      obtain rfl := Option.some.inj hi
      exact e ▸ hid
    · exact h.given j hj i hi

/-- What the registry finds is the session that has the identity. -/
theorem Proper.lookup_iff (h : R.Proper n given) :
    R.entries.lookup id = some k ↔ k < n ∧ (R.posts k).identity = some id := by
  rw [← h.mem_iff]
  exact Lookup.lookup_iff_mem h.nodup

end Roster

end DebugClient
