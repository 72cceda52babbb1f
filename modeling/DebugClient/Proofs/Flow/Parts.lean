import DebugClient.Proofs.Flow.Protocol
/-!
# Parts — flows on a part of the state

A flow on a part of a larger state does to the part what the flow does. If
the part is all there is, nothing else is done (`obeys_part`).
-/

namespace DebugClient

namespace Flow

theorem within_bind {σ τ α β : Type} (part : τ → σ) (replace : σ → τ → τ) (m : Flow σ α)
    (f : α → Flow σ β) :
    (m.bind f).within part replace =
      (m.within part replace).bind fun a => (f a).within part replace := by
  induction m with
  | done a => rfl
  | get k ih => simp [bind, within, ih]
  | set s k ih => simp [bind, within, ih]
  | wait ready k ih => simp [bind, within, ih]

/-- A flow on the one part of a larger state does what the flow does, if the
larger state is made around the part and taken apart again. -/
theorem obeys_part {σ τ α ρ P : Type} {part : τ → σ} {replace : σ → τ → τ} {whole : σ → τ}
    {extract : τ → σ → σ} (around : ∀ s, part (whole s) = s)
    (apart : ∀ s t, extract (replace s (whole t)) t = s) {π : Protocol P σ ρ}
    {Q : P → σ → α → σ → Prop} {m : Flow σ α} {p : P} {s₀ s : σ} :
    ((m.within part replace).within whole extract).Obeys π Q p s₀ s ↔ m.Obeys π Q p s₀ s := by
  induction m generalizing p s₀ s with
  | done a => exact Iff.rfl
  | get k ih =>
    change (((k (part (whole s))).within part replace).within whole extract).Obeys π Q p s₀ s ↔ _
    rw [around]
    exact ih s
  | set t k ih =>
    change ((k.within part replace).within whole extract).Obeys π Q p s₀
      (extract (replace t (whole s)) s) ↔ _
    rw [apart]
    exact ih
  | wait ready k ih =>
    simp only [within, Obeys, around]
    exact exists_congr fun q => and_congr_right fun _ =>
      forall_congr' fun t => forall_congr' fun _ => forall_congr' fun _ => ih

end Flow

end DebugClient
