import DebugClient.Flow.Tasks
import Mathlib.Logic.Function.Iterate
/-!
# Pools — flows side by side, in any order

A `Pool` holds calls under way and the state they share. A call goes from
where it begins to its first wait, and later from one wait to the next,
whenever whoever schedules the calls lets it. Between two such moves the
state may change from outside: answers come in, in any order.

`Pool.play` makes a list of moves, so what holds of all lists holds of
all orders in which calls and answers can meet. A move takes a flow over
one wait only. A schedule that lets a ready flow go on at once makes
several moves in a row: that is what `Flow.run` does (`play_run`).
-/

namespace DebugClient

namespace Flow

variable {κ ε σ α η X : Type}

/-! ## From wait to wait -/

/-- Goes on to the next wait, or to the end. -/
def toWait : Flow σ α → σ → Flow σ α × σ
  | done a, s => (done a, s)
  | get k, s => toWait (k s) s
  | set t k, _ => toWait k t
  | wait ready k, s => (wait ready k, s)

/-- What has gone on has ended or waits. -/
theorem toWait_eq (m : Flow σ α) (s : σ) :
    (∃ a t, m.toWait s = (done a, t)) ∨ ∃ ready k t, m.toWait s = (wait ready k, t) := by
  induction m generalizing s with
  | done a => exact .inl ⟨a, s, rfl⟩
  | get k ih => exact ih s s
  | set t k ih => exact ih t
  | wait ready k ih => exact .inr ⟨ready, k, s, rfl⟩

/-- What a flow does at once it has done at its first wait. -/
theorem toWait_act {β : Type} (f : σ → β × σ) (k : β → Flow σ α) (s : σ) :
    (act f >>= k).toWait s = (k (f s).1).toWait (f s).2 := rfl

/-- Goes on over a wait. -/
def pass : Flow σ α → σ → Flow σ α × σ
  | wait _ k, s => k.toWait s
  | m, s => (m, s)

/-- Goes on over a wait for what is so. -/
def goOn (r : Flow σ α × σ) : Flow σ α × σ := if r.1.moves r.2 then r.1.pass r.2 else r

/-- To run is to go on over some waits. -/
theorem run_eq_goOn (m : Flow σ α) (s : σ) : ∃ n, m.run id s = goOn^[n] (m.toWait s) := by
  induction m generalizing s with
  | done a => exact ⟨0, rfl⟩
  | get k ih => exact ih s s
  | set t k ih => exact ih t
  | wait ready k ih =>
    by_cases hr : ready s = true
    · obtain ⟨n, hn⟩ := ih s
      refine ⟨n + 1, ?_⟩
      have first : goOn (wait ready k, s) = k.toWait s := if_pos hr
      rw [run, if_pos hr, hn, toWait, Function.iterate_succ_apply, first]
    · exact ⟨0, by rw [run, if_neg hr]; rfl⟩

theorem goOn_done (a : α) (s : σ) (n : Nat) : goOn^[n] ((done a : Flow σ α), s) = (done a, s) :=
  Function.iterate_fixed rfl n

/-! ## Pools -/

/-- A call under way: when it was begun, what was called, and where it
stands. -/
structure Standing (κ X : Type) where
  /-- How many calls were begun before it. -/
  number : Nat
  /-- What was called. -/
  call : κ
  /-- Where it stands. -/
  place : X

/-- Calls under way, and the state they share. -/
structure Pool (κ X σ α η : Type) where
  /-- The state. -/
  state : σ
  /-- How many calls were begun. -/
  begun : Nat := 0
  /-- The calls under way, in the order they were begun. -/
  waiting : List (Standing κ X) := []
  /-- The calls that have ended with their results, newest first. -/
  ended : List (Standing κ α) := []
  /-- What was noted of the calls, newest first. -/
  notes : List η := []

/-- What can be called, and what happens outside. -/
structure System (κ ε σ α η : Type) where
  /-- The flow of a call. -/
  program : κ → Flow σ α
  /-- What an event outside does to the state. -/
  outside : ε → σ → σ
  /-- What is noted of a call that went from one wait to the next, by the
  states before and after; newest first. -/
  note : Nat → κ → σ → σ → List η

/-- What may happen next. -/
inductive Move (κ ε : Type) where
  /-- A call is begun. -/
  | begin (call : κ)
  /-- The call at a place among those under way goes on. -/
  | carry (place : Nat)
  /-- Something happens outside. -/
  | outside (event : ε)

/-- The call a move begins. -/
def Move.begun? : Move κ ε → Option κ
  | .begin call => some call
  | _ => none

/-- The calls that moves begin, in order. The number of each is its place. -/
def callsOf (moves : List (Move κ ε)) : List κ := moves.filterMap Move.begun?

@[simp] theorem callsOf_begin (moves : List (Move κ ε)) (call : κ) :
    callsOf (moves ++ [.begin call]) = callsOf moves ++ [call] := by
  simp [callsOf, Move.begun?]

@[simp] theorem callsOf_carry (moves : List (Move κ ε)) (place : Nat) :
    callsOf (moves ++ [.carry place]) = callsOf moves := by
  simp [callsOf, Move.begun?]

@[simp] theorem callsOf_outside (moves : List (Move κ ε)) (event : ε) :
    callsOf (moves ++ [.outside event]) = callsOf moves := by
  simp [callsOf, Move.begun?]

namespace Pool

/-- The pool once a call has gone on to a state. -/
def reach (sys : System κ ε σ α η) (pool : Pool κ X σ α η) (number : Nat) (call : κ) (s : σ) :
    Pool κ X σ α η :=
  { pool with state := s, notes := sys.note number call pool.state s ++ pool.notes }

/-- Begins a call that has gone on to its first wait or its end. -/
def opened (sys : System κ ε σ α η) (pool : Pool κ (Flow σ α) σ α η) (call : κ) :
    Flow σ α × σ → Pool κ (Flow σ α) σ α η
  | (done a, s) =>
    { pool.reach sys pool.begun call s with
      begun := pool.begun + 1, ended := ⟨pool.begun, call, a⟩ :: pool.ended }
  | (m, s) =>
    { pool.reach sys pool.begun call s with
      begun := pool.begun + 1, waiting := pool.waiting ++ [⟨pool.begun, call, m⟩] }

/-- Puts a call that has gone on in its place, or takes it out at its
end. -/
def moved (sys : System κ ε σ α η) (pool : Pool κ (Flow σ α) σ α η) (place : Nat)
    (w : Standing κ (Flow σ α)) : Flow σ α × σ → Pool κ (Flow σ α) σ α η
  | (done a, s) =>
    { pool.reach sys w.number w.call s with
      waiting := pool.waiting.eraseIdx place, ended := ⟨w.number, w.call, a⟩ :: pool.ended }
  | (m, s) =>
    { pool.reach sys w.number w.call s with
      waiting := pool.waiting.set place { w with place := m } }

/-! ### What a call leaves that has gone on -/

section Places

variable {sys : System κ ε σ α η} {pool : Pool κ (Flow σ α) σ α η} {c : κ} {r : Flow σ α × σ}
  {place : Nat} {w : Standing κ (Flow σ α)}

theorem state_opened : (pool.opened sys c r).state = r.2 := by
  obtain ⟨m, s⟩ := r
  cases m <;> rfl

theorem begun_opened : (pool.opened sys c r).begun = pool.begun + 1 := by
  obtain ⟨m, s⟩ := r
  cases m <;> rfl

/-- A call under way was so before, or has just been begun. -/
theorem mem_waiting_opened {v : Standing κ (Flow σ α)} (there : v ∈ (pool.opened sys c r).waiting) :
    v ∈ pool.waiting ∨ v.number = pool.begun := by
  obtain ⟨m, s⟩ := r
  cases m with
  | done a => exact .inl there
  | get k | set t k | wait ready k =>
    exact (List.mem_append.1 there).imp_right fun new => by rw [List.mem_singleton.1 new]

theorem notes_opened : (pool.opened sys c r).notes =
    sys.note pool.begun c pool.state r.2 ++ pool.notes := by
  obtain ⟨m, s⟩ := r
  cases m <;> rfl

/-- A call that is begun has ended if it has a result. -/
theorem ended_opened : (pool.opened sys c r).ended =
    (r.1.result?.map (⟨pool.begun, c, ·⟩)).toList ++ pool.ended := by
  obtain ⟨m, s⟩ := r
  cases m <;> rfl

theorem state_moved : (pool.moved sys place w r).state = r.2 := by
  obtain ⟨m, s⟩ := r
  cases m <;> rfl

theorem begun_moved : (pool.moved sys place w r).begun = pool.begun := by
  obtain ⟨m, s⟩ := r
  cases m <;> rfl

/-- A call under way was so before. -/
theorem mem_waiting_moved {v : Standing κ (Flow σ α)} (is : pool.waiting[place]? = some w)
    (there : v ∈ (pool.moved sys place w r).waiting) :
    ∃ u ∈ pool.waiting, u.number = v.number ∧ u.call = v.call := by
  obtain ⟨m, s⟩ := r
  cases m with
  | done a => exact ⟨v, List.mem_of_mem_eraseIdx there, rfl, rfl⟩
  | get k | set t k | wait ready k =>
    rcases List.mem_or_eq_of_mem_set there with old | rfl
    · exact ⟨v, old, rfl, rfl⟩
    · exact ⟨w, List.mem_of_getElem? is, rfl, rfl⟩

theorem notes_moved : (pool.moved sys place w r).notes =
    sys.note w.number w.call pool.state r.2 ++ pool.notes := by
  obtain ⟨m, s⟩ := r
  cases m <;> rfl

/-- A call that goes on has ended if it has a result. -/
theorem ended_moved : (pool.moved sys place w r).ended =
    (r.1.result?.map (⟨w.number, w.call, ·⟩)).toList ++ pool.ended := by
  obtain ⟨m, s⟩ := r
  cases m <;> rfl

end Places

/-- Makes a move. A call that waits for what is not so stays where it
is. -/
def step (sys : System κ ε σ α η) (pool : Pool κ (Flow σ α) σ α η) :
    Move κ ε → Pool κ (Flow σ α) σ α η
  | .begin call => pool.opened sys call ((sys.program call).toWait pool.state)
  | .carry place =>
    match pool.waiting[place]? with
    | some w =>
      if w.place.moves pool.state then pool.moved sys place w (w.place.pass pool.state) else pool
    | none => pool
  | .outside event => { pool with state := sys.outside event pool.state }

/-- A call goes on that waits for what is so. -/
theorem step_carry {sys : System κ ε σ α η} {pool : Pool κ (Flow σ α) σ α η} {place : Nat}
    {w : Standing κ (Flow σ α)} (there : pool.waiting[place]? = some w)
    (ready : w.place.moves pool.state = true) :
    pool.step sys (.carry place) = pool.moved sys place w (w.place.pass pool.state) := by
  rw [step, there]
  exact if_pos ready

/-- Any other one stays where it is. -/
theorem step_stay {sys : System κ ε σ α η} {pool : Pool κ (Flow σ α) σ α η} {place : Nat}
    (stays : ∀ w, pool.waiting[place]? = some w → w.place.moves pool.state = false) :
    pool.step sys (.carry place) = pool := by
  rw [step]
  split
  · rename_i w there
    exact if_neg (Bool.eq_false_iff.1 (stays w there))
  · rfl

/-- Makes moves, one after another. -/
def play (sys : System κ ε σ α η) (pool : Pool κ (Flow σ α) σ α η) (moves : List (Move κ ε)) :
    Pool κ (Flow σ α) σ α η :=
  moves.foldl (step sys) pool

theorem play_replicate_carry {sys : System κ ε σ α η} {pool : Pool κ (Flow σ α) σ α η} {place : Nat}
    (none : pool.waiting[place]? = none) (n : Nat) :
    pool.play sys (List.replicate n (.carry place)) = pool := by
  induction n with
  | zero => rfl
  | succ n ih =>
    rw [List.replicate_succ, play, List.foldl_cons, step, none]
    exact ih

/-- The call that was begun last goes on over some waits. -/
theorem play_carry {sys : System κ ε σ α η} {pool : Pool κ (Flow σ α) σ α η}
    {waiting : List (Standing κ (Flow σ α))} {w : Standing κ (Flow σ α)}
    (last : pool.waiting = waiting ++ [w]) (n : Nat) :
    (pool.play sys (List.replicate n (.carry waiting.length))).state =
      (goOn^[n] (w.place, pool.state)).2 := by
  induction n generalizing pool w with
  | zero => rfl
  | succ n ih =>
    have found : pool.waiting[waiting.length]? = some w := by simp [last]
    rw [List.replicate_succ, play, List.foldl_cons, step, found, Function.iterate_succ_apply, goOn]
    dsimp only
    split
    · generalize w.place.pass pool.state = r
      obtain ⟨m, s⟩ := r
      cases m with
      | done a =>
        -- The place is the last one, so once the call has ended nothing stands there.
        rw [goOn_done]
        have gone : (pool.moved sys waiting.length w (done a, s)).waiting[waiting.length]? = none := by
          simp [moved, last, List.length_eraseIdx]
        exact congrArg Pool.state (play_replicate_carry gone n)
      | get k => exact ih (w := { w with place := get k }) (by simp [moved, last])
      | set t k => exact ih (w := { w with place := set t k }) (by simp [moved, last])
      | wait ready k => exact ih (w := { w with place := wait ready k }) (by simp [moved, last])
    · exact ih last

/-- **A run is among the moves**: a call that is begun and then goes on
whenever it can leaves the state that running it leaves. -/
theorem play_run (sys : System κ ε σ α η) (pool : Pool κ (Flow σ α) σ α η) (call : κ) :
    ∃ n, (pool.play sys (.begin call :: List.replicate n (.carry pool.waiting.length))).state =
      ((sys.program call).run id pool.state).2 := by
  obtain ⟨n, runs⟩ := run_eq_goOn (sys.program call) pool.state
  refine ⟨n, ?_⟩
  rw [runs, play, List.foldl_cons, step]
  generalize (sys.program call).toWait pool.state = r
  obtain ⟨m, s⟩ := r
  cases m with
  | done a =>
    rw [goOn_done]
    exact congrArg Pool.state (play_replicate_carry (by simp [opened, reach]) n)
  | get k => exact play_carry (w := ⟨pool.begun, call, get k⟩) rfl n
  | set t k => exact play_carry (w := ⟨pool.begun, call, set t k⟩) rfl n
  | wait ready k => exact play_carry (w := ⟨pool.begun, call, wait ready k⟩) rfl n

/-- Whether no call is under way. -/
def Quiet (pool : Pool κ X σ α η) : Prop := pool.waiting = []

end Pool

end Flow

end DebugClient
