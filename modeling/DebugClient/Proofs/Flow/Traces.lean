import DebugClient.Proofs.Flow.Parts
import DebugClient.Proofs.Flow.Records
/-!
# Traces — where a call stands

What a call does next depends on nothing but the states in which it went
on. So if each stretch of a call is noted, with the states before and after
it, a call under way stands where its record leads (`Pool.traced`).

`Flow.Comes` says what comes of a flow before it waits: how it ends, or
where it waits and for what. A call that has waited once only stands there.
-/

namespace DebugClient

namespace Flow

variable {κ ε σ τ α β η : Type}

/-! ## Up to the first wait -/

/-- What comes of a flow at once: it ends, or it waits. -/
def Comes (ends : α → σ → Prop) (waits : (σ → Bool) → Flow σ α → σ → Prop) : Flow σ α → σ → Prop
  | done a, s => ends a s
  | get k, s => Comes ends waits (k s) s
  | set t k, _ => Comes ends waits k t
  | wait ready k, s => waits ready k s

section Rules

variable {ends ends' : α → σ → Prop} {waits waits' : (σ → Bool) → Flow σ α → σ → Prop} {s : σ}

theorem Comes.mono {m : Flow σ α} (h : m.Comes ends waits s) (hends : ∀ a t, ends a t → ends' a t)
    (hwaits : ∀ ready k t, waits ready k t → waits' ready k t) : m.Comes ends' waits' s := by
  induction m generalizing s with
  | done a => exact hends a s h
  | get k ih => exact ih s h
  | set t k ih => exact ih h
  | wait ready k ih => exact hwaits ready k s h

/-- What comes of a flow and what follows it comes of one after the
other. -/
theorem comes_bind {ends : β → σ → Prop} {waits : (σ → Bool) → Flow σ β → σ → Prop} {m : Flow σ α}
    {f : α → Flow σ β} :
    (m.bind f).Comes ends waits s ↔
      m.Comes (fun a t => (f a).Comes ends waits t) (fun ready k t => waits ready (k.bind f) t) s := by
  induction m generalizing s with
  | done a => exact Iff.rfl
  | get k ih => exact ih s
  | set t k ih => exact ih
  | wait ready k ih => exact Iff.rfl

/-- A flow on the one part of a larger state comes as far as the flow. -/
theorem comes_part {part : τ → σ} {replace : σ → τ → τ} {whole : σ → τ} {extract : τ → σ → σ}
    (around : ∀ s, part (whole s) = s) (apart : ∀ s t, extract (replace s (whole t)) t = s)
    {m : Flow σ α} :
    ((m.within part replace).within whole extract).Comes ends waits s ↔
      m.Comes ends
        (fun ready k t => waits ready ((k.within part replace).within whole extract) t) s := by
  induction m generalizing s with
  | done a => exact Iff.rfl
  | get k ih =>
    change (((k (part (whole s))).within part replace).within whole extract).Comes ends waits s ↔ _
    rw [around]
    exact ih s
  | set t k ih =>
    change ((k.within part replace).within whole extract).Comes ends waits
      (extract (replace t (whole s)) s) ↔ _
    rw [apart]
    exact ih
  | wait ready k ih => simp only [within, Comes, around]

/-- A flow that comes to an end or a wait is there once it has gone on. -/
theorem Comes.toWait {m : Flow σ α} (h : m.Comes ends waits s) :
    (∃ a t, m.toWait s = (done a, t) ∧ ends a t) ∨
      ∃ ready k t, m.toWait s = (wait ready k, t) ∧ waits ready k t := by
  induction m generalizing s with
  | done a => exact .inl ⟨a, s, rfl, h⟩
  | get k ih => exact ih s h
  | set t k ih => exact ih h
  | wait ready k ih => exact .inr ⟨ready, k, s, rfl, h⟩

end Rules

/-! ## Paths -/

/-- **A flow walks a path** to a place: the path has a pair of states
for each stretch from one wait to the next, newest first. -/
inductive Walks (m : Flow σ α) : List (σ × σ) → Flow σ α → Prop where
  /-- It begins. -/
  | first {s t : σ} {place : Flow σ α} (goes : m.toWait s = (place, t)) : Walks m [(s, t)] place
  /-- It goes on. -/
  | next {path : List (σ × σ)} {before place : Flow σ α} {s t : σ} (walks : Walks m path before)
      (goes : before.pass s = (place, t)) : Walks m ((s, t) :: path) place

/-- A flow that went one stretch has begun. -/
theorem Walks.of_one {m place : Flow σ α} {path : List (σ × σ)} (h : Walks m path place)
    (one : path.length = 1) : ∃ s t, path = [(s, t)] ∧ m.toWait s = (place, t) := by
  cases h with
  | first goes => exact ⟨_, _, rfl, goes⟩
  | next walks _ =>
    obtain rfl := List.eq_nil_of_length_eq_zero (Nat.succ.inj one)
    cases walks

/-- A flow that goes on over a wait has ended or waits. -/
theorem pass_eq {m : Flow σ α} {s : σ} {ready : σ → Bool} {k : Flow σ α} (waits : m = wait ready k) :
    (∃ a t, m.pass s = (done a, t)) ∨ ∃ ready k t, m.pass s = (wait ready k, t) :=
  waits ▸ toWait_eq k s

namespace Pool

variable {sys : System κ ε σ α (Nat × (σ × σ))}

/-- **Every call stands where its record leads**, and waits there or has
ended. -/
def Traced (sys : System κ ε σ α (Nat × (σ × σ)))
    (pool : Pool κ (Flow σ α) σ α (Nat × (σ × σ))) : Prop :=
  Logged (fun c path place => (sys.program c).Walks path place ∧ ∃ ready k, place = wait ready k)
    (fun c path result => (sys.program c).Walks path (done result)) pool

/-- What stands in front of a place and behind. -/
theorem exists_around {X : Type} {xs : List X} {place : Nat} {x : X} (found : xs[place]? = some x) :
    ∃ l r, xs = l ++ x :: r ∧ l.length = place := by
  obtain ⟨there, rfl⟩ := List.getElem?_eq_some_iff.1 found
  refine ⟨xs.take place, xs.drop (place + 1), ?_, List.length_take_of_le (Nat.le_of_lt there)⟩
  rw [List.getElem_cons_drop, List.take_append_drop]

/-- A move keeps every call where its record leads. -/
theorem Traced.step {pool : Pool κ (Flow σ α) σ α (Nat × (σ × σ))} (h : Traced sys pool)
    (noted : ∀ n c s t, sys.note n c s t = [(n, (s, t))]) (move : Move κ ε) :
    Traced sys (pool.step sys move) := by
  have notes : ∀ n c t, sys.note n c pool.state t ++ pool.notes =
      [(pool.state, t)].map (n, ·) ++ pool.notes := fun n c t => by rw [noted]; rfl
  cases move with
  | begin c =>
    rw [Pool.step]
    obtain ⟨a, t, reached⟩ | ⟨ready, k, t, reached⟩ := toWait_eq (sys.program c) pool.state
    · rw [reached]
      exact h.passes rfl rfl rfl (notes _ c t) (.first reached)
    · rw [reached]
      exact h.opens rfl rfl rfl (notes _ c t) ⟨.first reached, ready, k, rfl⟩
  | carry place =>
    rw [Pool.step]
    split
    · rename_i w found
      split
      · obtain ⟨l, r, was, rfl⟩ := exists_around found
        obtain ⟨walks, _, _, waits⟩ := h.waiting w (by simp [was])
        obtain ⟨a, t, reached⟩ | ⟨ready, k, t, reached⟩ := pass_eq (s := pool.state) waits
        · rw [reached]
          refine h.closes was rfl ?_ rfl (notes _ w.call t) (.next walks reached)
          simp [moved, was, List.eraseIdx_append]
        · rw [reached]
          refine h.goes was rfl ?_ rfl (notes _ w.call t) ⟨.next walks reached, ready, k, rfl⟩
          simp [moved, was]
      · exact h
    · exact h
  | outside e => exact h.on _

/-- **A call stands where its record leads**, if every stretch is noted. -/
theorem traced {pool : Pool κ (Flow σ α) σ α (Nat × (σ × σ))} (h : Traced sys pool)
    (noted : ∀ n c s t, sys.note n c s t = [(n, (s, t))]) (moves : List (Move κ ε)) :
    Traced sys (pool.play sys moves) := by
  induction moves generalizing pool with
  | nil => exact h
  | cons move rest ih => exact ih (h.step noted move)

end Pool

end Flow

end DebugClient
