import DebugClient.Proofs.Flow.Pool
/-!
# Errands — one call after another

Where every call ends before the next one begins, only what happens while
a call waits is left open. `Flow.finish` takes a flow to its end with
that: a list of events for each wait. A `Run` is a history of such calls,
and each of them is an `Errand`. Errands are among the moves of a pool
(`Pool.play_finish`).

`Flow.Yields` says what comes of a flow whatever happens while it waits,
as long as only that happens which it relies on. So what an errand does is
read off the program of its call, one operation after another.
-/

namespace DebugClient

namespace Flow

variable {κ ε σ α β η : Type}

/-! ## To the end -/

/-- What a list of events does to the state. -/
def meanwhile (outside : ε → σ → σ) (events : List ε) (s : σ) : σ :=
  events.foldl (fun s e => outside e s) s

/-- Goes on to the end, with what happens at each wait. A flow that is not
ready after that, or has more or fewer waits, does not come to its end. -/
def finish (outside : ε → σ → σ) : Flow σ α → List (List ε) → σ → Option (α × σ)
  | done a, [], s => some (a, s)
  | done _, _ :: _, _ => none
  | get k, waits, s => finish outside (k s) waits s
  | set t k, waits, _ => finish outside k waits t
  | wait _ _, [], _ => none
  | wait ready k, events :: waits, s =>
    if ready (meanwhile outside events s) then finish outside k waits (meanwhile outside events s)
    else none

/-- To come to the end of a flow and what follows it is to come to the end of
one after the other, with the waits of each. -/
theorem finish_bind {outside : ε → σ → σ} {m : Flow σ α} {f : α → Flow σ β}
    {waits : List (List ε)} {s u : σ} {b : β} :
    (m.bind f).finish outside waits s = some (b, u) ↔
      ∃ first later a t, waits = first ++ later ∧ m.finish outside first s = some (a, t) ∧
        (f a).finish outside later t = some (b, u) := by
  induction m generalizing waits s with
  | done a =>
    constructor
    · exact fun ends => ⟨[], waits, a, s, rfl, rfl, ends⟩
    · rintro ⟨first, later, a', t, rfl, ended, ends⟩
      cases first with
      | nil =>
        obtain ⟨rfl, rfl⟩ : a = a' ∧ s = t := by simpa [finish] using ended
        exact ends
      | cons events rest => cases ended
  | get k ih => exact ih s
  | set t k ih => exact ih
  | wait ready k ih =>
    cases waits with
    | nil =>
      refine iff_of_false nofun ?_
      rintro ⟨first, later, a, t, is, ended, -⟩
      obtain ⟨rfl, -⟩ := List.append_eq_nil_iff.1 is.symm
      cases ended
    | cons events rest =>
      rw [bind, finish]
      constructor
      · intro ends
        split at ends
        · rename_i is
          obtain ⟨first, later, a, t, rfl, ended, ends⟩ := ih.1 ends
          exact ⟨events :: first, later, a, t, rfl, by rw [finish, if_pos is, ended], ends⟩
        · cases ends
      · rintro ⟨first, later, a, t, is, ended, ends⟩
        cases first with
        | nil => cases ended
        | cons _ first =>
          obtain ⟨rfl, rfl⟩ := List.cons.inj is
          rw [finish] at ended
          split at ended
          · rename_i is
            rw [if_pos is]
            exact ih.2 ⟨first, later, a, t, rfl, ended, ends⟩
          · cases ended

/-- A call that was made and has ended. -/
structure Errand (κ ε σ α : Type) where
  /-- What was called. -/
  call : κ
  /-- What happened at each wait. -/
  waits : List (List ε)
  /-- The state in which it was called. -/
  before : σ
  /-- What it gave. -/
  result : α
  /-- The state it left. -/
  after : σ

/-- What was called one after another, newest first, and the state after
that. -/
inductive Run (sys : System κ ε σ α η) (start : σ) : List (Errand κ ε σ α) → σ → Prop where
  /-- Nothing was called. -/
  | start : Run sys start [] start
  /-- One more call was made and has ended. -/
  | call {past : List (Errand κ ε σ α)} {s s' : σ} {c : κ} {waits : List (List ε)} {a : α}
      (run : Run sys start past s)
      (ends : (sys.program c).finish sys.outside waits s = some (a, s')) :
      Run sys start (⟨c, waits, s, a, s'⟩ :: past) s'

/-- Makes calls, given newest first, with what happens at their waits. -/
def errands (sys : System κ ε σ α η) (start : σ) :
    List (κ × List (List ε)) → Option (List (Errand κ ε σ α) × σ)
  | [] => some ([], start)
  | (c, waits) :: older => do
    let (past, s) ← errands sys start older
    let (a, s') ← (sys.program c).finish sys.outside waits s
    return (⟨c, waits, s, a, s'⟩ :: past, s')

/-- What comes of calls is a run. -/
theorem run_of_errands {sys : System κ ε σ α η} {start s : σ} {past : List (Errand κ ε σ α)}
    {calls : List (κ × List (List ε))} (made : errands sys start calls = some (past, s)) :
    Run sys start past s := by
  induction calls generalizing past s with
  | nil =>
    obtain ⟨rfl, rfl⟩ : [] = past ∧ start = s := by simpa [errands] using made
    exact .start
  | cons call older ih =>
    obtain ⟨c, waits⟩ := call
    simp only [errands, Option.bind_eq_bind, Option.bind_eq_some_iff] at made
    obtain ⟨⟨past', t⟩, before, ⟨a, s'⟩, ends, is⟩ := made
    obtain ⟨rfl, rfl⟩ : ⟨c, waits, t, a, s'⟩ :: past' = past ∧ s' = s := by simpa using is
    exact .call (ih before) ends

/-- A call of a run was made after the calls before it, and has ended as
it says. -/
theorem Run.split {sys : System κ ε σ α η} {start s : σ} {newer older : List (Errand κ ε σ α)}
    {e : Errand κ ε σ α} (run : Run sys start (newer ++ e :: older) s) :
    Run sys start older e.before ∧
      (sys.program e.call).finish sys.outside e.waits e.before = some (e.result, e.after) := by
  induction newer generalizing s with
  | nil =>
    cases run with
    | call run ends => exact ⟨run, ends⟩
  | cons last rest ih =>
    cases run with
    | call run ends => exact ih run

/-! ## What comes of a flow -/

/-- Whatever happens while a flow waits that it relies on, it gives a
result and leaves a state as is said. -/
def Yields (rely : σ → σ → Prop) (Q : α → σ → Prop) : Flow σ α → σ → Prop
  | done a, s => Q a s
  | get k, s => Yields rely Q (k s) s
  | set t k, _ => Yields rely Q k t
  | wait ready k, s => ∀ t, rely s t → ready t = true → Yields rely Q k t

section Rules

variable {rely : σ → σ → Prop} {s : σ}

theorem Yields.mono {Q Q' : α → σ → Prop} {m : Flow σ α} (h : m.Yields rely Q s)
    (weaker : ∀ a t, Q a t → Q' a t) : m.Yields rely Q' s := by
  induction m generalizing s with
  | done a => exact weaker a s h
  | get k ih => exact ih s h
  | set t k ih => exact ih h
  | wait ready k ih => exact fun t relies is => ih (h t relies is)

theorem Yields.and {Q Q' : α → σ → Prop} {m : Flow σ α} (h : m.Yields rely Q s)
    (h' : m.Yields rely Q' s) : m.Yields rely (fun a t => Q a t ∧ Q' a t) s := by
  induction m generalizing s with
  | done a => exact ⟨h, h'⟩
  | get k ih => exact ih s h h'
  | set t k ih => exact ih h h'
  | wait ready k ih => exact fun t relies is => ih (h t relies is) (h' t relies is)

/-- What comes of a flow and what follows it comes of one after the
other. -/
theorem yields_bind {Q : β → σ → Prop} {m : Flow σ α} {f : α → Flow σ β} :
    (m.bind f).Yields rely Q s ↔ m.Yields rely (fun a t => (f a).Yields rely Q t) s := by
  induction m generalizing s with
  | done a => exact Iff.rfl
  | get k ih => exact ih s
  | set t k ih => exact ih
  | wait ready k ih => exact forall_congr' fun t => forall_congr' fun _ => forall_congr' fun _ => ih

theorem yields_seq {Q : β → σ → Prop} {m : Flow σ α} {f : α → Flow σ β} :
    (m >>= f).Yields rely Q s ↔ m.Yields rely (fun a t => (f a).Yields rely Q t) s :=
  yields_bind

theorem yields_read {Q : σ → σ → Prop} : read.Yields rely Q s ↔ Q s s := Iff.rfl

theorem yields_look {Q : α → σ → Prop} {f : σ → α} : (look f).Yields rely Q s ↔ Q (f s) s := Iff.rfl

theorem yields_modify {Q : Unit → σ → Prop} {f : σ → σ} :
    (modify f).Yields rely Q s ↔ Q () (f s) := Iff.rfl

theorem yields_act {Q : α → σ → Prop} {f : σ → α × σ} :
    (act f).Yields rely Q s ↔ Q (f s).1 (f s).2 := Iff.rfl

theorem yields_between {Q : α → σ → Prop} {before after : σ → σ} {m : Flow σ α} :
    (m.between before after).Yields rely Q s ↔
      m.Yields rely (fun a t => Q a (after t)) (before s) :=
  yields_bind (m := m) (s := before s)

theorem yields_await {Q : Unit → σ → Prop} {ready : σ → Bool} :
    (await ready).Yields rely Q s ↔ ∀ t, rely s t → ready t = true → Q () t := Iff.rfl

end Rules

/-! ## What a flow leaves as it is -/

/-- A flow leaves what is so of the state so, whatever happens while it
waits that it relies on. -/
def Leaves (rely : σ → σ → Prop) (I : σ → Prop) (m : Flow σ α) : Prop :=
  ∀ s, I s → m.Yields rely (fun _ t => I t) s

section Leaving

variable {rely : σ → σ → Prop} {I : σ → Prop}

theorem leaves_done (a : α) : (done a : Flow σ α).Leaves rely I := fun _ h => h

theorem leaves_seq {m : Flow σ α} {f : α → Flow σ β} (hm : m.Leaves rely I)
    (hf : ∀ a, (f a).Leaves rely I) : (m >>= f).Leaves rely I := by
  intro s h
  rw [yields_seq]
  exact (hm s h).mono fun a t ht => hf a t ht

theorem leaves_read : (read : Flow σ σ).Leaves rely I := fun _ h => h

theorem leaves_look (f : σ → α) : (look f).Leaves rely I := fun _ h => h

theorem leaves_modify {f : σ → σ} (hf : ∀ s, I s → I (f s)) : (modify f).Leaves rely I := hf

theorem leaves_act {f : σ → α × σ} (hf : ∀ s, I s → I (f s).2) : (act f).Leaves rely I := hf

theorem leaves_await (waits : ∀ s t, I s → rely s t → I t) (ready : σ → Bool) :
    (await ready).Leaves rely I := fun s h t relies _ => waits s t h relies

theorem leaves_forEach {f : α → Flow σ Unit} (hf : ∀ a, (f a).Leaves rely I) (l : List α) :
    (forEach f l).Leaves rely I := by
  induction l with
  | nil => exact leaves_done ()
  | cons a rest ih => exact leaves_seq (hf a) fun _ => ih

end Leaving

/-! ## At the end -/

/-- **A flow that has come to its end** has given and left what comes of
it, if what happened is what it relies on. -/
theorem Yields.finish {rely : σ → σ → Prop} {Q : α → σ → Prop} {m : Flow σ α} {s s' : σ} {a : α}
    {outside : ε → σ → σ} {waits : List (List ε)} (h : m.Yields rely Q s)
    (relies : ∀ events ∈ waits, ∀ t, rely t (meanwhile outside events t))
    (ends : m.finish outside waits s = some (a, s')) : Q a s' := by
  induction m generalizing s waits with
  | done b =>
    cases waits with
    | nil =>
      obtain ⟨rfl, rfl⟩ : b = a ∧ s = s' := by simpa [Flow.finish] using ends
      exact h
    | cons events rest => cases ends
  | get k ih => exact ih s h relies ends
  | set t k ih => exact ih h relies ends
  | wait ready k ih =>
    cases waits with
    | nil => cases ends
    | cons events rest =>
      rw [Flow.finish] at ends
      split at ends
      · rename_i is
        have first := relies events (.head _) s
        exact ih (h _ first is) (fun later there => relies later (.tail _ there)) ends
      · cases ends

/-! ## Errands among moves -/

/-- To come to the end is to come to the first wait and go on. -/
theorem finish_toWait (outside : ε → σ → σ) (m : Flow σ α) (waits : List (List ε)) (s : σ) :
    m.finish outside waits s = (m.toWait s).1.finish outside waits (m.toWait s).2 := by
  induction m generalizing s with
  | done a => rfl
  | get k ih => exact ih s s
  | set t k ih => exact ih t
  | wait ready k ih => rfl

namespace Pool

/-- The moves of a call at a place over its waits. -/
def carries (κ : Type) (place : Nat) (waits : List (List ε)) : List (Move κ ε) :=
  waits.flatMap fun events => events.map .outside ++ [.carry place]

theorem play_outside (sys : System κ ε σ α η) (pool : Pool κ (Flow σ α) σ α η) (events : List ε) :
    pool.play sys (events.map .outside) =
      { pool with state := meanwhile sys.outside events pool.state } := by
  induction events generalizing pool with
  | nil => rfl
  | cons e rest ih => exact ih _

/-- A call at a place goes on over a wait, after what happens at it. -/
theorem play_over {sys : System κ ε σ α η} {pool : Pool κ (Flow σ α) σ α η} {place : Nat}
    {w : Standing κ (Flow σ α)} {ready : σ → Bool} {k : Flow σ α} {events : List ε} {s : σ}
    (found : pool.waiting[place]? = some w) (waits : w.place = wait ready k)
    (happens : meanwhile sys.outside events pool.state = s) (is : ready s = true) :
    pool.play sys (events.map .outside ++ [.carry place]) =
      { pool with state := s }.moved sys place w (k.toWait s) := by
  have outside := play_outside sys pool events
  rw [happens] at outside
  have moves : w.place.moves s = true := by rw [waits]; exact is
  have pass : w.place.pass s = k.toWait s := by rw [waits]; rfl
  rw [play, List.foldl_append, List.foldl_cons, List.foldl_nil]
  rw [play] at outside
  rw [outside, step]
  simp only [found, moves, if_true, pass]

/-- The call that was begun last comes to its end. -/
theorem play_carries {sys : System κ ε σ α η} {pool : Pool κ (Flow σ α) σ α η}
    {waiting : List (Standing κ (Flow σ α))} {w : Standing κ (Flow σ α)} {ready : σ → Bool}
    {k : Flow σ α} (last : pool.waiting = waiting ++ [w]) (place : w.place = wait ready k)
    {waits : List (List ε)} {a : α} {s' : σ}
    (ends : w.place.finish sys.outside waits pool.state = some (a, s')) :
    let after := pool.play sys (carries κ waiting.length waits)
    after.state = s' ∧ after.waiting = waiting ∧ after.ended = ⟨w.number, w.call, a⟩ :: pool.ended := by
  induction waits generalizing pool w ready k with
  | nil => rw [place] at ends; cases ends
  | cons events rest ih =>
    rw [place, Flow.finish] at ends
    generalize happens : meanwhile sys.outside events pool.state = s at ends
    split at ends
    · rename_i is
      have found : pool.waiting[waiting.length]? = some w := by simp [last]
      rw [carries, List.flatMap_cons, play, List.foldl_append]
      have goes := play_over found place happens is
      rw [play] at goes
      rw [goes]
      rw [finish_toWait] at ends
      obtain ⟨b, t, reached⟩ | ⟨ready', k', t, reached⟩ := toWait_eq k s
      · rw [reached] at ends ⊢
        cases rest with
        | nil =>
          obtain ⟨rfl, rfl⟩ : b = a ∧ t = s' := by simpa [Flow.finish] using ends
          simp [moved, reach, last, List.eraseIdx_append]
        | cons => cases ends
      · rw [reached] at ends ⊢
        refine ih (w := { w with place := wait ready' k' }) ?_ rfl ends
        simp [moved, last]
    · cases ends

/-- **An errand is among the moves**: a call that is begun and carried over
its waits ends as its errand does, and the other calls stay where they are. -/
theorem play_finish {sys : System κ ε σ α η} {pool : Pool κ (Flow σ α) σ α η} {c : κ}
    {waits : List (List ε)} {a : α} {s' : σ}
    (ends : (sys.program c).finish sys.outside waits pool.state = some (a, s')) :
    let after := pool.play sys (.begin c :: carries κ pool.waiting.length waits)
    after.state = s' ∧ after.waiting = pool.waiting ∧
      after.ended = ⟨pool.begun, c, a⟩ :: pool.ended := by
  rw [finish_toWait] at ends
  rw [play, List.foldl_cons, step]
  obtain ⟨b, t, reached⟩ | ⟨ready, k, t, reached⟩ := toWait_eq (sys.program c) pool.state
  · rw [reached] at ends ⊢
    cases waits with
    | nil =>
      obtain ⟨rfl, rfl⟩ : b = a ∧ t = s' := by simpa [Flow.finish] using ends
      exact ⟨rfl, rfl, rfl⟩
    | cons => cases ends
  · rw [reached] at ends ⊢
    exact play_carries (w := ⟨pool.begun, c, wait ready k⟩) rfl rfl ends

end Pool

end Flow

end DebugClient
