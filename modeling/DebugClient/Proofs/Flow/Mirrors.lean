import DebugClient.Proofs.Flow.Pool
/-!
# Mirrors — the same flow on two states

A flow does not look at everything in the state. A `Likeness` says when two
states differ in nothing that matters, and `Flow.Mirrors` that a flow goes the
same way on such states: it reads and writes what is alike, ends with the same
result, and where it waits it waits for the same and then goes the same way
again.

Two pools go alike if the same calls stand at the same places in them. They do
after a call has come to the same place on both (`Pool.GoesAlike.opened`,
`Pool.GoesAlike.moved`).
-/

namespace DebugClient

namespace Flow

variable {κ ε σ α β η X : Type}

/-- When states are alike at a wait, and when they are at a moment between two
waits, since they were in two others. -/
structure Likeness (σ : Type) where
  /-- The states are alike. -/
  alike : σ → σ → Prop
  /-- They are alike since they were in the first two. -/
  since : σ → σ → σ → σ → Prop
  /-- Nothing has happened yet. -/
  start : ∀ s s', alike s s' → since s s' s s'
  /-- What is alike since then is alike. -/
  stop : ∀ s₀ s₀' s s', since s₀ s₀' s s' → alike s s'

variable {L : Likeness σ} {s s' : σ}

/-- **Two flows take the same steps** since they left their last waits in two
states. -/
inductive Steps (L : Likeness σ) : σ → σ → Flow σ α → Flow σ α → Prop where
  /-- They have ended with the same result. -/
  | done {s s' : σ} (a : α) : Steps L s s' (done a) (done a)
  /-- They read the state. -/
  | get {s s' : σ} {k k' : σ → Flow σ α}
      (next : ∀ t t', L.since s s' t t' → Steps L s s' (k t) (k' t')) :
      Steps L s s' (get k) (get k')
  /-- They write the state. -/
  | set {s s' t t' : σ} {k k' : Flow σ α} (alike : L.since s s' t t') (next : Steps L s s' k k') :
      Steps L s s' (set t k) (set t' k')
  /-- They wait, and are one flow from here on. -/
  | wait {s s' : σ} {ready : σ → Bool} {k : Flow σ α}
      (agree : ∀ t t', L.alike t t' → ready t = ready t')
      (next : ∀ t t', L.alike t t' → Steps L t t' k k) : Steps L s s' (wait ready k) (wait ready k)

/-- **A flow mirrors itself**: it takes the same steps on all states that are
alike. -/
def Mirrors (L : Likeness σ) (m : Flow σ α) : Prop := ∀ s s', L.alike s s' → Steps L s s' m m

/-! ## Rules -/

section Rules

theorem mirrors_done (a : α) : (done a : Flow σ α).Mirrors L := fun _ _ _ => .done a

theorem Steps.bind {m m' : Flow σ α} {f : α → Flow σ β} (h : m.Steps L s s' m')
    (alike : L.alike s s') (hf : ∀ a, (f a).Mirrors L) : (m.bind f).Steps L s s' (m'.bind f) := by
  induction h with
  | done a => exact hf a _ _ alike
  | get _ ih => exact .get fun t t' since => ih t t' since alike
  | set written _ ih => exact .set written (ih alike)
  | wait agree _ ih => exact .wait agree fun t t' alike => ih t t' alike alike

/-- What follows on a flow that mirrors itself. -/
theorem Mirrors.seq {m : Flow σ α} {f : α → Flow σ β} (hm : m.Mirrors L)
    (hf : ∀ a, (f a).Mirrors L) : (m >>= f).Mirrors L :=
  fun s s' alike => (hm s s' alike).bind alike hf

/-- What is done with a state that was read is done with one that is alike. -/
theorem mirrors_read {f : σ → Flow σ α} (same : ∀ s s', L.alike s s' → f s = f s')
    (hf : ∀ s, (f s).Mirrors L) : (read >>= f).Mirrors L := by
  refine fun s s' alike => .get fun t t' since => ?_
  change (f t).Steps L s s' (f t')
  rw [← same t t' (L.stop _ _ _ _ since)]
  exact hf t s s' alike

theorem mirrors_look {f : σ → α} (same : ∀ s s', L.alike s s' → f s = f s') :
    (look f).Mirrors L := by
  refine fun s s' _ => .get fun t t' since => ?_
  rw [same t t' (L.stop _ _ _ _ since)]
  exact .done _

theorem mirrors_modify {f : σ → σ}
    (keeps : ∀ s s' t t', L.since s s' t t' → L.since s s' (f t) (f t')) : (modify f).Mirrors L :=
  fun s s' _ => .get fun t t' since => .set (keeps s s' t t' since) (.done ())

theorem mirrors_act {f : σ → α × σ}
    (keeps : ∀ s s' t t', L.since s s' t t' →
      (f t).1 = (f t').1 ∧ L.since s s' (f t).2 (f t').2) : (act f).Mirrors L := by
  refine fun s s' _ => .get fun t t' since => ?_
  rw [(keeps s s' t t' since).1]
  exact .set (keeps s s' t t' since).2 (.done _)

theorem mirrors_await {ready : σ → Bool} (agree : ∀ s s', L.alike s s' → ready s = ready s') :
    (await ready).Mirrors L :=
  fun _ _ _ => .wait agree fun _ _ _ => .done ()

theorem mirrors_between {before after : σ → σ} {m : Flow σ α}
    (hb : ∀ s s' t t', L.since s s' t t' → L.since s s' (before t) (before t')) (hm : m.Mirrors L)
    (ha : ∀ s s' t t', L.since s s' t t' → L.since s s' (after t) (after t')) :
    (m.between before after).Mirrors L :=
  (mirrors_modify hb).seq fun _ => hm.seq fun a => (mirrors_modify ha).seq fun _ => mirrors_done a

theorem mirrors_forEach {f : α → Flow σ Unit} (hf : ∀ a, (f a).Mirrors L) (l : List α) :
    (forEach f l).Mirrors L := by
  induction l with
  | nil => exact mirrors_done ()
  | cons a rest ih => exact (hf a).seq fun _ => ih

end Rules

/-! ## From wait to wait -/

/-- A flow has ended, or waits for what states that are alike agree on and
mirrors itself after that. -/
def Rests (L : Likeness σ) : Flow σ α → Prop
  | done _ => True
  | wait ready k => (∀ t t', L.alike t t' → ready t = ready t') ∧ k.Mirrors L
  | _ => False

/-- **Two flows have gone on alike** since they left their last waits in two
states. -/
structure GoneAlike (L : Likeness σ) (s s' : σ) (r r' : Flow σ α × σ) : Prop where
  /-- They have ended with the same result, or are one flow from here on. -/
  same : r'.1 = r.1
  /-- The states are still alike. -/
  since : L.since s s' r.2 r'.2
  /-- What is left mirrors itself again. -/
  rests : r.1.Rests L

/-- Flows that take the same steps go on alike to their next wait. -/
theorem Steps.toWait {m m' : Flow σ α} {t t' : σ} (h : m.Steps L s s' m')
    (since : L.since s s' t t') : GoneAlike L s s' (m.toWait t) (m'.toWait t') := by
  induction h generalizing t t' with
  | done a => exact ⟨rfl, since, trivial⟩
  | get _ ih => exact ih t t' since since
  | set written _ ih => exact ih written
  | wait agree next _ => exact ⟨rfl, since, agree, next⟩

theorem Mirrors.toWait {m : Flow σ α} (h : m.Mirrors L) (alike : L.alike s s') :
    GoneAlike L s s' (m.toWait s) (m.toWait s') :=
  (h s s' alike).toWait (L.start s s' alike)

/-- From a wait a flow goes on alike over it. -/
theorem Rests.pass {m : Flow σ α} (h : m.Rests L) (alike : L.alike s s') :
    GoneAlike L s s' (m.pass s) (m.pass s') := by
  cases m with
  | done a => exact ⟨rfl, L.start s s' alike, trivial⟩
  | get k => exact h.elim
  | set t k => exact h.elim
  | wait ready k => exact h.2.toWait alike

theorem Rests.moves_eq {m : Flow σ α} (h : m.Rests L) (alike : L.alike s s') :
    m.moves s = m.moves s' := by
  cases m with
  | done a => rfl
  | get k => rfl
  | set t k => rfl
  | wait ready k => exact h.1 s s' alike

/-! ## Pools -/

namespace Pool

variable {sys : System κ ε σ α η} {p q : Pool κ (Flow σ α) σ α η}

/-- **Two pools go alike**: the same calls are under way at the same places, and
the same have ended with the same results. -/
structure GoesAlike (p q : Pool κ X σ α η) : Prop where
  /-- As many calls were begun. -/
  begun : q.begun = p.begun
  /-- The calls under way. -/
  waiting : q.waiting = p.waiting
  /-- The calls that have ended. -/
  ended : q.ended = p.ended

theorem GoesAlike.refl (p : Pool κ X σ α η) : p.GoesAlike p := ⟨rfl, rfl, rfl⟩

theorem GoesAlike.opened {c : κ} {r r' : Flow σ α × σ} (h : p.GoesAlike q) (same : r'.1 = r.1) :
    (p.opened sys c r).GoesAlike (q.opened sys c r') := by
  obtain ⟨m, t⟩ := r
  obtain ⟨m', t'⟩ := r'
  obtain rfl : m' = m := same
  cases m' <;> refine ⟨?_, ?_, ?_⟩ <;> simp [Pool.opened, reach, h.begun, h.waiting, h.ended]

theorem GoesAlike.moved {place : Nat} {w : Standing κ (Flow σ α)} {r r' : Flow σ α × σ}
    (h : p.GoesAlike q) (same : r'.1 = r.1) :
    (p.moved sys place w r).GoesAlike (q.moved sys place w r') := by
  obtain ⟨m, t⟩ := r
  obtain ⟨m', t'⟩ := r'
  obtain rfl : m' = m := same
  cases m' <;> refine ⟨?_, ?_, ?_⟩ <;> simp [Pool.moved, reach, h.begun, h.waiting, h.ended]

end Pool

end Flow

end DebugClient
