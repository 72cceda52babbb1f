import DebugClient.Proofs.Flow.Errands
import DebugClient.Proofs.Flow.Keeping
/-!
# Pairs — two flows at once

Of two flows at once the second begins where the first comes to rest, and
from then on they go on in any order. If each leaves something of the state
so and relies on nothing else, the other does not matter to it: the pair
gives what the first gives from where it begins, and what the second gives
from where the first comes to rest (`gives_zip`).
-/

namespace DebugClient

namespace Flow

variable {σ α β ρ : Type} {I : σ → Prop} {A : α → Prop} {B : β → Prop}

/-- A flow keeps what is so of the state, and gives what is said. -/
abbrev Gives (I : σ → Prop) (A : α → Prop) (m : Flow σ α) (s : σ) : Prop :=
  m.Obeys (keeping I : Protocol Unit σ Unit) (fun _ _ a t => I t ∧ A a) () s s

variable {m : Flow σ α} {g : Flow σ β} {s s₀ : σ}

/-- Where a flow went on last does not matter. -/
theorem Gives.of_obeys
    (h : m.Obeys (keeping I : Protocol Unit σ Unit) (fun _ _ a t => I t ∧ A a) () s₀ s) :
    m.Gives I A s := by
  suffices ∀ s₀', m.Obeys (keeping I : Protocol Unit σ Unit) (fun _ _ a t => I t ∧ A a) () s₀' s
    from this s
  intro s₀'
  induction m generalizing s with
  | done a => exact h
  | get k ih => exact ih s h
  | set t k ih => exact ih h
  | wait ready k _ => exact h

theorem Gives.mono {A' : α → Prop} (h : m.Gives I A s) (weaker : ∀ a, A a → A' a) :
    m.Gives I A' s :=
  Obeys.mono h fun _ _ a _ is => ⟨is.1, weaker a is.2⟩

/-- A flow that waits goes on wherever it is ready. -/
theorem Gives.goes {ready : σ → Bool} {k : Flow σ α} {t : σ} (h : (wait ready k).Gives I A s)
    (so : I t) (is : ready t = true) : k.Gives I A t := by
  obtain ⟨_, -, goes⟩ := h
  exact goes t so is

/-- What a flow keeps is so where the flow comes to rest. -/
theorem Gives.run_id (h : m.Gives I A s) : I (m.run id s).2 := by
  induction m generalizing s with
  | done a => exact h.1
  | get k ih => exact ih s (.of_obeys h)
  | set t k ih => exact ih (.of_obeys h)
  | wait ready k ih =>
    rw [run]
    split
    · rename_i is
      exact ih (h.goes h.choose_spec.1 is)
    · exact h.choose_spec.1

/-- While the first of two flows waits the second goes on. What is left of it
gives the same from wherever the first goes on. -/
theorem gives_zipWaiting {γ : Type} {C : γ → Prop} {ready : σ → Bool}
    {resume : Flow σ β → Flow σ γ} (h : g.Gives I B s)
    (resumes : ∀ t g', I t → ready t = true → (∀ u, I u → Gives I B g' u) → (resume g').Gives I C t) :
    (zipWaiting ready resume g).Gives I C s := by
  induction g generalizing s with
  | done b =>
    refine ⟨(), h.1, fun t so is => ?_⟩
    exact resumes t (done b) so is fun u so => ⟨so, h.2⟩
  | get k ih => exact ih s (.of_obeys h)
  | set t k ih => exact .of_obeys (ih (.of_obeys h))
  | wait ready' k ih =>
    have waits : I s := h.choose_spec.1
    change Gives I C (if ready' s then zipWaiting ready resume k else _) s
    split
    · rename_i is
      exact ih (h.goes waits is)
    · refine ⟨(), waits, fun t so either => ?_⟩
      change Gives I C (if ready t then resume (wait ready' k) else zipWaiting ready resume k) t
      split
      · rename_i is
        exact resumes t (wait ready' k) so is fun u so => ⟨(), so, fun v so is => h.goes so is⟩
      · rename_i isNot
        exact ih (h.goes so (by simpa [isNot] using either))

/-- **Two flows at once** give what each of them gives: the first from where
it begins, and the second from where the first comes to rest. -/
theorem gives_zip (hm : m.Gives I A s) (hg : g.Gives I B (m.run id s).2) :
    (m.zip g).Gives I (fun r => A r.1 ∧ B r.2) s := by
  induction m generalizing g s with
  | done a =>
    change Obeys _ _ (g.bind fun b => done (a, b)) () s s
    rw [obeys_bind]
    exact Obeys.mono hg fun _ _ b _ is => ⟨is.1, hm.2, is.2⟩
  | get k ih => exact ih s (.of_obeys hm) hg
  | set t k ih =>
    have both : (k.zip g).Gives I (fun r => A r.1 ∧ B r.2) t := ih (.of_obeys hm) hg
    exact .of_obeys both
  | wait ready k ih =>
    have waits : I s := hm.choose_spec.1
    rw [run] at hg
    change Gives I _ (if ready s then k.zip g else zipWaiting ready k.zip g) s
    split
    · rename_i is
      rw [if_pos is] at hg
      exact ih (hm.goes waits is) hg
    · rename_i isNot
      rw [if_neg isNot] at hg
      refine gives_zipWaiting hg fun t g' so is rests => ?_
      -- The second flow rests while the first goes on, so it may go on from anywhere.
      have first := hm.goes so is
      exact ih first (rests _ first.run_id)

/-- A flow that gives what is said yields it, if what it keeps stays so while
it waits. -/
theorem Gives.yields {rely : σ → σ → Prop} (h : m.Gives I A s)
    (stays : ∀ s t, I s → rely s t → I t) : m.Yields rely (fun a _ => A a) s := by
  induction m generalizing s with
  | done a => exact h.2
  | get k ih => exact ih s (.of_obeys h)
  | set t k ih => exact ih (.of_obeys h)
  | wait ready k ih => exact fun t relies is => ih (h.goes (stays s t h.choose_spec.1 relies) is)

end Flow

end DebugClient
