import DebugClient.Proofs.Flow.Pool
import Mathlib.Data.List.Forall2
import Mathlib.Data.List.Induction
/-!
# Protocols — what a call may do between two waits

A flow is a tree, and a pool holds many. A `Protocol` says in a few words
what matters of it: at which phase a call stands, what it may do to the
state on its way from one wait to the next, and how it may end.
`Flow.Obeys` says that a flow keeps to a protocol whatever happens to the
state while it waits.

`Pool.play_shadow` is what protocols are for. A pool whose calls obey is
followed by its shadow, which knows of each call only the phase, and what
is kept by every step of the shadow is so after all moves of the pool.
Where it matters which move a step is, the step is an `Advance`
(`Pool.play_advances`).
-/

namespace DebugClient

namespace Flow

variable {κ ε σ α β ρ η P X Y : Type}

/-- What a call may do to the state from one wait to the next. -/
structure Protocol (P σ α : Type) where
  /-- What is so of the state whenever a call goes on. -/
  given : σ → Prop
  /-- From a phase and a state to the next wait, at a phase and in a
  state. -/
  moves : P → σ → P → σ → Prop
  /-- From a phase and a state to the end, with a result and in a state. -/
  ends : P → σ → α → σ → Prop

variable {π : Protocol P σ ρ}

/-- A flow that left a wait at a phase and in a state keeps to a protocol
from the state it has reached since, and ends as it should. -/
def Obeys (π : Protocol P σ ρ) (Q : P → σ → α → σ → Prop) : Flow σ α → P → σ → σ → Prop
  | done a, p, s₀, s => Q p s₀ a s
  | get k, p, s₀, s => Obeys π Q (k s) p s₀ s
  | set t k, p, s₀, _ => Obeys π Q k p s₀ t
  | wait ready k, p, s₀, s =>
    ∃ q, π.moves p s₀ q s ∧ ∀ t, π.given t → ready t = true → Obeys π Q k q t t

/-- A flow waits at a phase, and will keep to a protocol. -/
def Stands (π : Protocol P σ ρ) (Q : P → σ → α → σ → Prop) (q : P) : Flow σ α → Prop
  | wait ready k => ∀ t, π.given t → ready t = true → Obeys π Q k q t t
  | _ => False

/-! ## Rules -/

theorem Obeys.mono {Q Q' : P → σ → α → σ → Prop} {m : Flow σ α} {p : P} {s₀ s : σ}
    (h : m.Obeys π Q p s₀ s) (hQ : ∀ p s₀ a s, Q p s₀ a s → Q' p s₀ a s) :
    m.Obeys π Q' p s₀ s := by
  induction m generalizing p s₀ s with
  | done a => exact hQ _ _ _ _ h
  | get k ih => exact ih s h
  | set t k ih => exact ih h
  | wait ready k ih =>
    obtain ⟨q, hq, hk⟩ := h
    exact ⟨q, hq, fun t ht hr => ih (hk t ht hr)⟩

/-- How the calls of a protocol may end does not matter to the waits in
between. -/
theorem Obeys.retype {ρ' : Type} {π' : Protocol P σ ρ'} {Q : P → σ → α → σ → Prop} {m : Flow σ α}
    {p : P} {s₀ s : σ} (h : m.Obeys π Q p s₀ s) (hg : ∀ t, π'.given t → π.given t)
    (hm : ∀ p s₀ q s, π.moves p s₀ q s → π'.moves p s₀ q s) : m.Obeys π' Q p s₀ s := by
  induction m generalizing p s₀ s with
  | done a => exact h
  | get k ih => exact ih s h
  | set t k ih => exact ih h
  | wait ready k ih =>
    obtain ⟨q, hq, hk⟩ := h
    exact ⟨q, hm _ _ _ _ hq, fun t ht hr => ih (hk t (hg t ht) hr)⟩

/-- **A flow and what follows it** keep to a protocol one after the
other. -/
theorem obeys_bind {Q : P → σ → β → σ → Prop} {m : Flow σ α} {f : α → Flow σ β} {p : P}
    {s₀ s : σ} :
    (m.bind f).Obeys π Q p s₀ s ↔
      m.Obeys π (fun p s₀ a s => (f a).Obeys π Q p s₀ s) p s₀ s := by
  induction m generalizing p s₀ s with
  | done a => exact Iff.rfl
  | get k ih => exact ih s
  | set t k ih => exact ih
  | wait ready k ih =>
    simp only [bind, Obeys]
    exact exists_congr fun q => and_congr_right fun _ =>
      forall_congr' fun t => forall_congr' fun _ => forall_congr' fun _ => ih

theorem obeys_seq {Q : P → σ → β → σ → Prop} {m : Flow σ α} {f : α → Flow σ β} {p : P}
    {s₀ s : σ} :
    (m >>= f).Obeys π Q p s₀ s ↔
      m.Obeys π (fun p s₀ a s => (f a).Obeys π Q p s₀ s) p s₀ s :=
  obeys_bind

theorem obeys_look {Q : P → σ → α → σ → Prop} {f : σ → α} {p : P} {s₀ s : σ} :
    (look f).Obeys π Q p s₀ s ↔ Q p s₀ (f s) s := Iff.rfl

theorem obeys_read {Q : P → σ → σ → σ → Prop} {p : P} {s₀ s : σ} :
    read.Obeys π Q p s₀ s ↔ Q p s₀ s s := Iff.rfl

theorem obeys_modify {Q : P → σ → Unit → σ → Prop} {f : σ → σ} {p : P} {s₀ s : σ} :
    (modify f).Obeys π Q p s₀ s ↔ Q p s₀ () (f s) := Iff.rfl

theorem obeys_act {Q : P → σ → α → σ → Prop} {f : σ → α × σ} {p : P} {s₀ s : σ} :
    (act f).Obeys π Q p s₀ s ↔ Q p s₀ (f s).1 (f s).2 := Iff.rfl

/-- One flow after another keeps what each of them keeps. -/
theorem obeys_forEach {f : α → Flow σ Unit} {I : P → σ → σ → Prop} {l : List α} {p : P}
    {s₀ s : σ} (hf : ∀ a ∈ l, ∀ p s₀ s, I p s₀ s → (f a).Obeys π (fun p s₀ _ s => I p s₀ s) p s₀ s)
    (h : I p s₀ s) : (forEach f l).Obeys π (fun p s₀ _ s => I p s₀ s) p s₀ s := by
  induction l generalizing p s₀ s with
  | nil => exact h
  | cons a rest ih =>
    rw [forEach, obeys_bind]
    refine (hf a (by simp) p s₀ s h).mono fun p s₀ _ s h => ?_
    exact ih (fun b hb => hf b (by simp [hb])) h

/-! ## Going on -/

/-- A flow that has gone on has ended or waits at a phase. -/
theorem Obeys.toWait {Q : P → σ → α → σ → Prop} {m : Flow σ α} {p : P} {s₀ s : σ}
    (h : m.Obeys π Q p s₀ s) :
    (∃ a, (m.toWait s).1 = done a ∧ Q p s₀ a (m.toWait s).2) ∨
      ∃ q, Stands π Q q (m.toWait s).1 ∧ π.moves p s₀ q (m.toWait s).2 := by
  induction m generalizing s with
  | done a => exact .inl ⟨a, rfl, h⟩
  | get k ih => exact ih s h
  | set t k ih => exact ih h
  | wait ready k _ =>
    obtain ⟨q, hq, hk⟩ := h
    exact .inr ⟨q, hk, hq⟩

theorem Stands.pass {Q : P → σ → α → σ → Prop} {m : Flow σ α} {q : P} {s : σ}
    (h : Stands π Q q m) (hs : π.given s) (hm : m.moves s = true) :
    (∃ a, (m.pass s).1 = done a ∧ Q q s a (m.pass s).2) ∨
      ∃ q', Stands π Q q' (m.pass s).1 ∧ π.moves q s q' (m.pass s).2 := by
  cases m with
  | wait ready k => exact (h s hs hm).toWait
  | done a => exact h.elim
  | get k => exact h.elim
  | set t k => exact h.elim

/-! ## Shadows -/

namespace Pool

/-- A step of a pool of which only the phases of the calls are known.
Outside happens what is allowed. -/
inductive Shadow (sys : System κ ε σ α η) (π : κ → Protocol P σ α) (start : P)
    (allowed : ε → Prop) : Pool κ P σ α η → Pool κ P σ α η → Prop where
  /-- A call is begun and waits. -/
  | opens {pool : Pool κ P σ α η} {c : κ} {q : P} {s : σ}
      (moves : (π c).moves start pool.state q s) :
      Shadow sys π start allowed pool
        { pool.reach sys pool.begun c s with
          begun := pool.begun + 1, waiting := pool.waiting ++ [⟨pool.begun, c, q⟩] }
  /-- A call is begun and ends. -/
  | passes {pool : Pool κ P σ α η} {c : κ} {a : α} {s : σ}
      (ends : (π c).ends start pool.state a s) :
      Shadow sys π start allowed pool
        { pool.reach sys pool.begun c s with
          begun := pool.begun + 1, ended := ⟨pool.begun, c, a⟩ :: pool.ended }
  /-- A call goes on and waits again. -/
  | goes {pool : Pool κ P σ α η} {l r : List (Standing κ P)} {w : Standing κ P} {q : P} {s : σ}
      (waiting : pool.waiting = l ++ w :: r)
      (moves : (π w.call).moves w.place pool.state q s) :
      Shadow sys π start allowed pool
        { pool.reach sys w.number w.call s with waiting := l ++ { w with place := q } :: r }
  /-- A call goes on and ends. -/
  | closes {pool : Pool κ P σ α η} {l r : List (Standing κ P)} {w : Standing κ P} {a : α} {s : σ}
      (waiting : pool.waiting = l ++ w :: r)
      (ends : (π w.call).ends w.place pool.state a s) :
      Shadow sys π start allowed pool
        { pool.reach sys w.number w.call s with
          waiting := l ++ r, ended := ⟨w.number, w.call, a⟩ :: pool.ended }
  /-- Something happens outside. -/
  | outside {pool : Pool κ P σ α η} {event : ε} (isAllowed : allowed event) :
      Shadow sys π start allowed pool { pool with state := sys.outside event pool.state }

/-- What a move does to a pool of which only the phases of the calls are
known. -/
inductive Advance (sys : System κ ε σ α η) (π : κ → Protocol P σ α) (start : P) :
    Move κ ε → Pool κ P σ α η → Pool κ P σ α η → Prop where
  /-- A call is begun and waits. -/
  | opens {pool : Pool κ P σ α η} {c : κ} {q : P} {s : σ}
      (moves : (π c).moves start pool.state q s) :
      Advance sys π start (.begin c) pool
        { pool.reach sys pool.begun c s with
          begun := pool.begun + 1, waiting := pool.waiting ++ [⟨pool.begun, c, q⟩] }
  /-- A call is begun and ends. -/
  | passes {pool : Pool κ P σ α η} {c : κ} {a : α} {s : σ}
      (ends : (π c).ends start pool.state a s) :
      Advance sys π start (.begin c) pool
        { pool.reach sys pool.begun c s with
          begun := pool.begun + 1, ended := ⟨pool.begun, c, a⟩ :: pool.ended }
  /-- A call goes on and waits again. -/
  | goes {pool : Pool κ P σ α η} {l r : List (Standing κ P)} {w : Standing κ P} {q : P} {s : σ}
      (waiting : pool.waiting = l ++ w :: r)
      (moves : (π w.call).moves w.place pool.state q s) :
      Advance sys π start (.carry l.length) pool
        { pool.reach sys w.number w.call s with waiting := l ++ { w with place := q } :: r }
  /-- A call goes on and ends. -/
  | closes {pool : Pool κ P σ α η} {l r : List (Standing κ P)} {w : Standing κ P} {a : α} {s : σ}
      (waiting : pool.waiting = l ++ w :: r)
      (ends : (π w.call).ends w.place pool.state a s) :
      Advance sys π start (.carry l.length) pool
        { pool.reach sys w.number w.call s with
          waiting := l ++ r, ended := ⟨w.number, w.call, a⟩ :: pool.ended }
  /-- Nothing goes on. -/
  | stays {pool : Pool κ P σ α η} {place : Nat} : Advance sys π start (.carry place) pool pool
  /-- Something happens outside. -/
  | outside {pool : Pool κ P σ α η} {event : ε} :
      Advance sys π start (.outside event) pool { pool with state := sys.outside event pool.state }

/-- An advance is a step, or leaves the pool as it is. -/
theorem Advance.shadow {sys : System κ ε σ α η} {π : κ → Protocol P σ α} {start : P}
    {allowed : ε → Prop} {move : Move κ ε} {a b : Pool κ P σ α η} (h : Advance sys π start move a b)
    (outside : ∀ e, move = .outside e → allowed e) : b = a ∨ Shadow sys π start allowed a b := by
  cases h with
  | opens moves => exact .inr (.opens moves)
  | passes ends => exact .inr (.passes ends)
  | goes waiting moves => exact .inr (.goes waiting moves)
  | closes waiting ends => exact .inr (.closes waiting ends)
  | stays => exact .inl rfl
  | outside => exact .inr (.outside (outside _ rfl))

/-- A call of a pool and the call of its shadow: the flow stands at the
phase. -/
def Follows (π : κ → Protocol P σ α) (w : Standing κ (Flow σ α)) (v : Standing κ P) : Prop :=
  v.number = w.number ∧ v.call = w.call ∧ Stands (π w.call) (π w.call).ends v.place w.place

/-- A pool and its shadow. -/
structure Shadows (π : κ → Protocol P σ α) (pool : Pool κ (Flow σ α) σ α η)
    (shadow : Pool κ P σ α η) : Prop where
  /-- They share the state. -/
  state : shadow.state = pool.state
  /-- As many calls were begun. -/
  begun : shadow.begun = pool.begun
  /-- The calls under way stand at the phases. -/
  waiting : List.Forall₂ (Follows π) pool.waiting shadow.waiting
  /-- The same calls have ended. -/
  ended : shadow.ended = pool.ended
  /-- The same was noted. -/
  notes : shadow.notes = pool.notes

variable {sys : System κ ε σ α η} {π : κ → Protocol P σ α} {start : P} {allowed : ε → Prop}
  {pool : Pool κ (Flow σ α) σ α η} {shadow : Pool κ P σ α η}

theorem Shadows.quiet_iff (h : Shadows π pool shadow) : shadow.Quiet ↔ pool.Quiet := by
  have hl := h.waiting.length_eq
  constructor <;> intro hq <;> rw [Quiet, ← List.length_eq_zero_iff] at hq ⊢ <;> omega

/-- The shadow of a call at a place, with what stands in front of it and
behind. -/
theorem forall₂_place {R : X → Y → Prop} {xs : List X} {ys : List Y} (h : List.Forall₂ R xs ys)
    {i : Nat} {x : X} (hx : xs[i]? = some x) :
    ∃ xl xr yl y yr, xs = xl ++ x :: xr ∧ ys = yl ++ y :: yr ∧ xl.length = i ∧
      List.Forall₂ R xl yl ∧ R x y ∧ List.Forall₂ R xr yr := by
  induction h generalizing i with
  | nil => simp at hx
  | @cons a b as bs hab hrest ih =>
    cases i with
    | zero =>
      obtain rfl : a = x := by simpa using hx
      exact ⟨[], as, [], b, bs, rfl, rfl, rfl, .nil, hab, hrest⟩
    | succ i =>
      obtain ⟨xl, xr, yl, y, yr, rfl, rfl, rfl, hl, hxy, hr⟩ := ih (by simpa using hx)
      exact ⟨a :: xl, xr, b :: yl, y, yr, rfl, rfl, rfl, .cons hab hl, hxy, hr⟩

/-- A call under way has a shadow. -/
theorem Shadows.of_waiting (h : Shadows π pool shadow) {w : Standing κ (Flow σ α)}
    (there : w ∈ pool.waiting) : ∃ v ∈ shadow.waiting, Follows π w v := by
  obtain ⟨i, place⟩ := List.mem_iff_getElem?.1 there
  obtain ⟨-, -, yl, v, yr, -, is, -, -, follows, -⟩ := forall₂_place h.waiting place
  exact ⟨v, is ▸ List.mem_append_right _ (.head _), follows⟩

/-- A phase is that of a call under way. -/
theorem Shadows.of_shadow (h : Shadows π pool shadow) {v : Standing κ P}
    (there : v ∈ shadow.waiting) : ∃ w ∈ pool.waiting, Follows π w v := by
  obtain ⟨i, place⟩ := List.mem_iff_getElem?.1 there
  obtain ⟨-, -, yl, w, yr, -, is, -, -, follows, -⟩ := forall₂_place h.waiting.flip place
  exact ⟨w, is ▸ List.mem_append_right _ (.head _), follows⟩

/-- Beginning a call is an advance of the shadow. -/
theorem opened_advance (h : Shadows π pool shadow) {c : κ}
    (obeys : (sys.program c).Obeys (π c) (π c).ends start shadow.state shadow.state) :
    ∃ shadow', Shadows π (pool.opened sys c ((sys.program c).toWait pool.state)) shadow' ∧
      Advance sys π start (.begin c) shadow shadow' := by
  obtain ⟨hs, hb, hw, he, hn⟩ := h
  have reached := obeys.toWait
  rw [hs] at reached
  generalize (sys.program c).toWait pool.state = r at reached
  obtain ⟨m, s⟩ := r
  -- The call ends at once, or has come to its first wait.
  obtain ⟨a, rfl, ends⟩ | ⟨q, stands, moves⟩ := reached
  · have passed : Advance sys π start (.begin c) shadow _ := .passes (a := a) (s := s) (hs ▸ ends)
    refine ⟨_, ?_, passed⟩
    refine ⟨rfl, ?_, hw, ?_, ?_⟩
    · simp [opened, hb]
    · simp [opened, he, hb, reach]
    · simp [opened, reach, hn, hs, hb]
  · cases m with
    | wait ready k =>
      have begins : Advance sys π start (.begin c) shadow _ := .opens (q := q) (s := s) (hs ▸ moves)
      refine ⟨_, ?_, begins⟩
      refine ⟨rfl, ?_, ?_, ?_, ?_⟩
      · simp [opened, hb]
      · exact List.rel_append hw (.cons ⟨hb, rfl, stands⟩ .nil)
      · simp [opened, he, reach]
      · simp [opened, reach, hn, hs, hb]
    | done a => exact stands.elim
    | get k => exact stands.elim
    | set t k => exact stands.elim

/-- Going on over a wait is an advance of the shadow. -/
theorem moved_advance (h : Shadows π pool shadow) {place : Nat} {w : Standing κ (Flow σ α)}
    (hw : pool.waiting[place]? = some w) (ready : w.place.moves pool.state = true)
    (given : (π w.call).given shadow.state) :
    ∃ shadow', Shadows π (pool.moved sys place w (w.place.pass pool.state)) shadow' ∧
      Advance sys π start (.carry place) shadow shadow' := by
  obtain ⟨hs, hb, hall, he, hn⟩ := h
  obtain ⟨xl, xr, yl, v, yr, hx, hy, rfl, hl, ⟨hvn, hvc, hst⟩, hr⟩ := forall₂_place hall hw
  have reached := hst.pass (hs ▸ given) ready
  generalize w.place.pass pool.state = r at reached
  obtain ⟨m, s⟩ := r
  rw [hl.length_eq]
  obtain ⟨a, rfl, ends⟩ | ⟨q, stands, moves⟩ := reached
  · have closed : Advance sys π start (.carry yl.length) shadow _ :=
      .closes (a := a) (s := s) hy (by rw [hvc, hs]; exact ends)
    refine ⟨_, ?_, closed⟩
    refine ⟨rfl, hb, ?_, ?_, ?_⟩
    · simpa [moved, hx, ← hl.length_eq, List.eraseIdx_append] using List.rel_append hl hr
    · simp [moved, he, reach, hvn, hvc]
    · simp [moved, reach, hn, hs, hvn, hvc]
  · cases m with
    | wait ready' k =>
      have gone : Advance sys π start (.carry yl.length) shadow _ :=
        .goes (q := q) (s := s) hy (by rw [hvc, hs]; exact moves)
      have follows : Follows π { w with place := wait ready' k } { v with place := q } :=
        ⟨hvn, hvc, stands⟩
      refine ⟨_, ?_, gone⟩
      refine ⟨rfl, hb, ?_, he, ?_⟩
      · simpa [moved, hx, ← hl.length_eq] using List.rel_append hl (.cons follows hr)
      · simp [moved, reach, hn, hs, hvn, hvc]
    | done a => exact stands.elim
    | get k => exact stands.elim
    | set t k => exact stands.elim

/-- **A move of a pool** is an advance of its shadow. -/
theorem step_advance (h : Shadows π pool shadow) (given : ∀ c, (π c).given shadow.state)
    (obeys : ∀ c s, (π c).given s → (sys.program c).Obeys (π c) (π c).ends start s s)
    (move : Move κ ε) :
    ∃ shadow', Shadows π (pool.step sys move) shadow' ∧ Advance sys π start move shadow shadow' := by
  cases move with
  | begin c => exact opened_advance h (obeys c _ (given c))
  | carry place =>
    simp only [step]
    split
    · rename_i w hw
      split
      · rename_i ready
        exact moved_advance h hw ready (given w.call)
      · exact ⟨shadow, h, .stays⟩
    · exact ⟨shadow, h, .stays⟩
  | outside e =>
    refine ⟨_, ?_, .outside⟩
    exact ⟨by simp [step, h.state], h.begun, h.waiting, h.ended, h.notes⟩

theorem play_snoc (sys : System κ ε σ α η) (pool : Pool κ (Flow σ α) σ α η)
    (past : List (Move κ ε)) (move : Move κ ε) :
    pool.play sys (past ++ [move]) = (pool.play sys past).step sys move := by
  rw [play, List.foldl_append]
  rfl

/-- **A pool is followed by its shadow**, move by move. If every call obeys
its protocol, what every advance keeps is so after all moves, and may speak
of the moves that were made. -/
theorem play_advances {Inv : List (Move κ ε) → Pool κ P σ α η → Prop}
    (given : ∀ past shadow, Inv past shadow → ∀ c, (π c).given shadow.state)
    (obeys : ∀ c s, (π c).given s → (sys.program c).Obeys (π c) (π c).ends start s s)
    (keeps : ∀ past move a b, Inv past a → a.state = (pool.play sys past).state →
      Advance sys π start move a b → Inv (past ++ [move]) b)
    (h : Shadows π pool shadow) (inv : Inv [] shadow) (moves : List (Move κ ε)) :
    ∃ shadow', Shadows π (pool.play sys moves) shadow' ∧ Inv moves shadow' := by
  induction moves using List.reverseRecOn with
  | nil => exact ⟨shadow, h, inv⟩
  | append_singleton past move ih =>
    obtain ⟨now, follows, kept⟩ := ih
    obtain ⟨next, after, advance⟩ := step_advance follows (given past now kept) obeys move
    exact ⟨next, play_snoc sys pool past move ▸ after,
      keeps past move now next kept follows.state advance⟩

/-- **A pool is followed by its shadow.** If every call obeys its
protocol, what is kept by every step of the shadow is so after all
moves. -/
theorem play_shadow {Inv : Pool κ P σ α η → Prop}
    (given : ∀ shadow, Inv shadow → ∀ c, (π c).given shadow.state)
    (obeys : ∀ c s, (π c).given s → (sys.program c).Obeys (π c) (π c).ends start s s)
    (keeps : ∀ a b, Inv a → Shadow sys π start allowed a b → Inv b)
    (h : Shadows π pool shadow) (inv : Inv shadow) (moves : List (Move κ ε))
    (outside : ∀ e, .outside e ∈ moves → allowed e) :
    ∃ shadow', Shadows π (pool.play sys moves) shadow' ∧ Inv shadow' := by
  induction moves generalizing pool shadow with
  | nil => exact ⟨shadow, h, inv⟩
  | cons move rest ih =>
    have first : ∀ e, move = .outside e → allowed e := fun e he => outside e (by simp [he])
    obtain ⟨next, hnext, advance⟩ := step_advance h (given shadow inv) obeys move
    have inv' : Inv next := (advance.shadow first).elim (fun e => e ▸ inv) (keeps shadow next inv)
    exact ih hnext inv' fun e he => outside e (by simp [he])

/-- **A pool is followed by its shadow**, and what is kept may speak of the
moves that were made. -/
theorem play_shadow_along {Inv : List (Move κ ε) → Pool κ P σ α η → Prop}
    (given : ∀ past shadow, Inv past shadow → ∀ c, (π c).given shadow.state)
    (obeys : ∀ c s, (π c).given s → (sys.program c).Obeys (π c) (π c).ends start s s)
    (stays : ∀ past move a, Inv past a → Inv (past ++ [move]) a)
    (keeps : ∀ past move a b, Inv past a → a.state = (pool.play sys past).state →
      Shadow sys π start (fun e => move = .outside e) a b → Inv (past ++ [move]) b)
    (h : Shadows π pool shadow) (inv : Inv [] shadow) (moves : List (Move κ ε)) :
    ∃ shadow', Shadows π (pool.play sys moves) shadow' ∧ Inv moves shadow' := by
  refine play_advances given obeys (fun past move a b kept same advance => ?_) h inv moves
  rcases advance.shadow (fun e (is : move = .outside e) => is) with rfl | step
  · exact stays past move b kept
  · exact keeps past move a b kept same step

end Pool

end Flow

end DebugClient
