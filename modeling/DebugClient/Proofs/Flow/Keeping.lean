import DebugClient.Proofs.Flow.Protocol
/-!
# Keeping — what is so whatever calls do

A flow carries what is so of a call on its way: of its phase, of the state
in which it left its last wait, and of the state since. What is carried
must let a call wait, and be so again when the call goes on
(`Protocol.Lets`).

If only the state matters, a flow that carries what is so of it keeps it
(`Keeps`), by the protocol that asks for nothing else. If all calls keep
it, it is so after all moves of a pool, in any order (`Pool.play_keeps`).
-/

namespace DebugClient

namespace Flow

variable {κ ε σ α β ρ η P : Type}

/-- What is so of a call lets it wait, and is so when the call goes on. -/
def Protocol.Lets (π : Protocol P σ ρ) (J : P → σ → σ → Prop) : Prop :=
  ∀ p s₀ s, J p s₀ s → ∃ q, π.moves p s₀ q s ∧ ∀ t, π.given t → J q t t

/-- A flow leaves what is so of a call so. -/
def Carries (π : Protocol P σ ρ) (J : P → σ → σ → Prop) (m : Flow σ α) : Prop :=
  ∀ p s₀ s, J p s₀ s → m.Obeys π (fun p s₀ _ s => J p s₀ s) p s₀ s

/-! ## Rules -/

section Rules

variable {π : Protocol P σ ρ} {J : P → σ → σ → Prop}

theorem carries_done (a : α) : (done a : Flow σ α).Carries π J := fun _ _ _ h => h

theorem carries_seq {m : Flow σ α} {f : α → Flow σ β} (hm : m.Carries π J)
    (hf : ∀ a, (f a).Carries π J) : (m >>= f).Carries π J := by
  intro p s₀ s h
  rw [obeys_seq]
  exact (hm p s₀ s h).mono fun p s₀ a s h => hf a p s₀ s h

theorem carries_look (f : σ → α) : (look f).Carries π J := fun _ _ _ h => h

theorem carries_read : (read : Flow σ σ).Carries π J := fun _ _ _ h => h

theorem carries_modify {f : σ → σ} (hf : ∀ p s₀ s, J p s₀ s → J p s₀ (f s)) :
    (modify f).Carries π J := hf

theorem carries_act {f : σ → α × σ} (hf : ∀ p s₀ s, J p s₀ s → J p s₀ (f s).2) :
    (act f).Carries π J := hf

theorem carries_await (lets : π.Lets J) (ready : σ → Bool) : (await ready).Carries π J := by
  intro p s₀ s h
  obtain ⟨q, moves, again⟩ := lets p s₀ s h
  exact ⟨q, moves, fun t given _ => again t given⟩

theorem carries_ite {c : Prop} [Decidable c] {m m' : Flow σ α} (hm : m.Carries π J)
    (hm' : m'.Carries π J) : (if c then m else m').Carries π J := by
  split
  · exact hm
  · exact hm'

theorem carries_forEach {f : α → Flow σ Unit} (hf : ∀ a, (f a).Carries π J) (l : List α) :
    (forEach f l).Carries π J := by
  induction l with
  | nil => exact carries_done ()
  | cons a rest ih => exact carries_seq (hf a) fun _ => ih

end Rules

/-! ## Properties of the state -/

/-- The protocol of calls of which only matters that they keep something. -/
def keeping (I : σ → Prop) : Protocol Unit σ ρ where
  given := I
  moves _ _ _ s := I s
  ends _ _ _ s := I s

variable {I : σ → Prop}

theorem lets_keeping : (keeping I : Protocol Unit σ ρ).Lets fun _ _ s => I s :=
  fun _ _ _ h => ⟨(), h, fun _ h' => h'⟩

/-- A flow leaves what is so of the state so, at each wait and at its end,
if it is so whenever the flow goes on. -/
abbrev Keeps (I : σ → Prop) (m : Flow σ α) : Prop :=
  m.Carries (keeping I : Protocol Unit σ Unit) fun _ _ s => I s

/-- **What every call and every event keeps** is so after all moves. -/
theorem Pool.play_keeps {sys : System κ ε σ α η} (calls : ∀ c, (sys.program c).Keeps I)
    (events : ∀ e s, I s → I (sys.outside e s)) {pool : Pool κ (Flow σ α) σ α η}
    (quiet : pool.waiting = []) (h : I pool.state) (moves : List (Move κ ε)) :
    I (pool.play sys moves).state := by
  have follows : Pool.Shadows (fun _ : κ => (keeping I : Protocol Unit σ α)) pool
      { pool with waiting := [] } := ⟨rfl, rfl, quiet ▸ .nil, rfl, rfl⟩
  have keeps : ∀ a b, I a.state →
      Pool.Shadow sys (fun _ => (keeping I : Protocol Unit σ α)) () (fun _ => True) a b → I b.state := by
    intro a b ha step
    cases step with
    | opens moves => exact moves
    | passes ends => exact ends
    | goes _ moves => exact moves
    | closes _ ends => exact ends
    | outside _ => exact events _ _ ha
  have obeys : ∀ c s, I s → (sys.program c).Obeys (keeping I : Protocol Unit σ α)
      (fun _ _ _ s => I s) () s s := fun c s hs =>
    (calls c () s s hs).retype (fun _ h => h) fun _ _ _ _ h => h
  obtain ⟨shadow, shadows, kept⟩ := Pool.play_shadow (fun _ h _ => h) obeys keeps follows h moves fun _ _ => trivial
  exact shadows.state ▸ kept

end Flow

end DebugClient
