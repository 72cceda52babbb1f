import DebugClient.Flow
/-!
# Tasks — flows that wait side by side

Several flows may wait on one state. A round carries every one of them on
as far as it goes, in the order they were begun, and `settle` holds rounds
until a round would move none. There are finitely many rounds: each leaves
every flow as it was or further along (`closer_round`), and a list of flows
cannot come closer to its end for ever (`closer_wf`).
-/

namespace DebugClient
namespace Flow

variable {σ α : Type}

/-! ## Further along -/

/-- A flow that is what another does next. -/
inductive Below : Flow σ α → Flow σ α → Prop where
  | get (next : σ → Flow σ α) (s : σ) : Below (next s) (get next)
  | set (s : σ) (next : Flow σ α) : Below next (set s next)
  | wait (ready : σ → Bool) (next : Flow σ α) : Below next (wait ready next)

/-- A flow is what some flow does later. -/
abbrev Later : Flow σ α → Flow σ α → Prop := Relation.TransGen Below

theorem below_wf : WellFounded (Below : Flow σ α → Flow σ α → Prop) := by
  refine ⟨fun m => ?_⟩
  induction m with
  | done a => exact ⟨_, fun _ h => nomatch h⟩
  | get k ih => exact ⟨_, fun _ h => by cases h; exact ih _⟩
  | set s k ih => exact ⟨_, fun _ h => by cases h; exact ih⟩
  | wait r k ih => exact ⟨_, fun _ h => by cases h; exact ih⟩

theorem later_wf : WellFounded (Later : Flow σ α → Flow σ α → Prop) := below_wf.transGen

/-- Whether a flow goes on in a state. -/
def moves (s : σ) : Flow σ α → Bool
  | done _ => false
  | get _ => true
  | set _ _ => true
  | wait ready _ => ready s

theorem run_of_not_moves {surroundings : σ → σ} {m : Flow σ α} {s : σ} (h : m.moves s = false) :
    m.run surroundings s = (m, s) := by
  cases m <;> simp_all [moves, run]

/-- Where a flow stops, it is as it was or further along. -/
theorem run_eq_or_later (surroundings : σ → σ) (m : Flow σ α) (s : σ) :
    (m.run surroundings s).1 = m ∨ Later (m.run surroundings s).1 m := by
  induction m generalizing s with
  | done a => exact .inl rfl
  | get k ih =>
    exact .inr ((ih s s).elim (fun h => .single (by simpa [run, h] using Below.get k s))
      fun h => .tail h (.get k s))
  | set t k ih =>
    exact .inr ((ih (surroundings t)).elim
      (fun h => .single (by simpa [run, h] using Below.set t k)) fun h => .tail h (.set t k))
  | wait ready k ih =>
    by_cases hr : ready s
    · refine .inr ?_
      simp only [run, hr, if_true]
      exact (ih s).elim (fun h => .single (by simpa [h] using Below.wait ready k))
        fun h => .tail h (.wait ready k)
    · exact .inl (by simp [run, hr])

/-- A flow that goes on gets further along. -/
theorem run_later {surroundings : σ → σ} {m : Flow σ α} {s : σ} (h : m.moves s = true) :
    Later (m.run surroundings s).1 m := by
  cases m with
  | done a => simp [moves] at h
  | get k =>
    exact (run_eq_or_later surroundings (k s) s).elim
      (fun e => .single (by simpa [run, e] using Below.get k s)) fun l => .tail l (.get k s)
  | set t k =>
    exact (run_eq_or_later surroundings k (surroundings t)).elim
      (fun e => .single (by simpa [run, e] using Below.set t k)) fun l => .tail l (.set t k)
  | wait ready k =>
    simp only [moves] at h
    simp only [run, h, if_true]
    exact (run_eq_or_later surroundings k s).elim
      (fun e => .single (by simpa [e] using Below.wait ready k)) fun l => .tail l (.wait ready k)

/-! ## Lists of flows -/

/-- A flow under a number. -/
structure Task (σ α : Type) where
  /-- The number. -/
  number : Nat
  /-- The flow. -/
  flow : Flow σ α

/-- A list of tasks of which the first that differs is further along. -/
inductive Closer : List (Task σ α) → List (Task σ α) → Prop where
  | head {a b : Task σ α} {as bs : List (Task σ α)} (later : Later b.flow a.flow)
      (length_eq : bs.length = as.length) : Closer (b :: bs) (a :: as)
  | tail {a : Task σ α} {as bs : List (Task σ α)} (closer : Closer bs as) :
      Closer (a :: bs) (a :: as)

theorem Closer.length_eq {as bs : List (Task σ α)} (h : Closer bs as) : bs.length = as.length := by
  induction h with
  | head _ h => simp [h]
  | tail _ ih => simp [ih]

theorem closer_acc (n : Nat) : ∀ as : List (Task σ α), as.length = n → Acc Closer as := by
  induction n with
  | zero =>
    intro as h
    rw [List.length_eq_zero_iff.1 h]
    exact ⟨_, fun _ h => nomatch h⟩
  | succ n ihn =>
    suffices H : ∀ m : Flow σ α, ∀ i : Nat, ∀ as, as.length = n → Acc Closer (⟨i, m⟩ :: as) by
      intro as h
      cases as with
      | nil => simp at h
      | cons a as => exact H a.flow a.number as (by simpa using h)
    intro m
    induction later_wf.apply m with
    | intro m _ ihm =>
      intro i as h
      induction ihn as h with
      | intro as _ ihas =>
        refine ⟨_, fun bs hbs => ?_⟩
        cases hbs with
        | head later length_eq => exact ihm _ later _ _ (length_eq.trans h)
        | tail closer => exact ihas _ closer (closer.length_eq.trans h)

theorem closer_wf : WellFounded (Closer : List (Task σ α) → List (Task σ α) → Prop) :=
  ⟨fun as => closer_acc _ as rfl⟩

/-! ## Rounds -/

/-- Carries every task on as far as it goes. -/
def round (surroundings : σ → σ) : List (Task σ α) → σ → List (Task σ α) × σ
  | [], s => ([], s)
  | t :: rest, s =>
    let (flow, s) := t.flow.run surroundings s
    let (rest, s) := round surroundings rest s
    ({ t with flow } :: rest, s)

theorem length_round (surroundings : σ → σ) (tasks : List (Task σ α)) (s : σ) :
    (round surroundings tasks s).1.length = tasks.length := by
  induction tasks generalizing s with
  | nil => rfl
  | cons t rest ih => simp [round, ih]

/-- A round in which a task can go on brings the tasks closer to their
end. -/
theorem closer_round {surroundings : σ → σ} {tasks : List (Task σ α)} {s : σ}
    (h : tasks.any (·.flow.moves s) = true) : Closer (round surroundings tasks s).1 tasks := by
  induction tasks generalizing s with
  | nil => simp at h
  | cons t rest ih =>
    cases ht : t.flow.moves s with
    | true => exact .head (run_later ht) (length_round surroundings rest _)
    | false =>
      have hr : rest.any (·.flow.moves s) = true := by simpa [ht] using h
      simpa [round, run_of_not_moves ht] using Closer.tail (a := t) (ih hr)

/-- The results of tasks that have ended, in order. -/
def results (tasks : List (Task σ α)) : List (Nat × α) :=
  tasks.filterMap fun t => t.flow.result?.map (t.number, ·)

/-- The tasks that have not ended, in order. -/
def unfinished (tasks : List (Task σ α)) : List (Task σ α) :=
  tasks.filter (·.flow.result?.isNone)

/-- Holds rounds until no task can go on. The results are in the order in
which the tasks ended. -/
def settle (surroundings : σ → σ) (tasks : List (Task σ α)) (ended : List (Nat × α)) (s : σ) :
    List (Task σ α) × List (Nat × α) × σ :=
  if _h : tasks.any (·.flow.moves s) = true then
    let after := round surroundings tasks s
    settle surroundings after.1
      (ended ++ (results after.1).filter fun r => !ended.any (·.1 == r.1)) after.2
  else (tasks, ended, s)
termination_by closer_wf.wrap tasks
decreasing_by exact closer_round _h

/-- What a turn has led to. -/
structure Turn (σ α : Type) where
  /-- The tasks that wait. -/
  waiting : List (Task σ α)
  /-- The results of those that ended, in the order in which they did. -/
  ended : List (Nat × α)
  /-- The state. -/
  state : σ

/-- Begins a task, and then carries those that wait on as far as they go;
the new one is the last of them. -/
def begin (surroundings : σ → σ) (task : Task σ α) (waiting : List (Task σ α)) (s : σ) :
    Turn σ α :=
  let (flow, s) := task.flow.run surroundings s
  let begun := { task with flow }
  let (tasks, ended, s) := settle surroundings (waiting ++ [begun]) (results [begun]) s
  ⟨unfinished tasks, ended, s⟩

end Flow

end DebugClient
