/-!
# Flows — work that may have to wait

Most of what a session does needs answers of the backend, and other work
may go on before they come. A `Flow` is such work: it reads and writes a
state it shares with other flows, and where it cannot go on it waits
until the state is one it is ready for. Between two waits nothing else
happens. A flow is finite: it is a tree of what it does next.

`Flow.run` carries a flow on as far as it goes. Whoever runs it says what
the surroundings do to the state each time it was written, and gets back
the part of the flow that still waits. `Flow.zip` waits for two flows at
once, and `Flow.within` is a flow on a part of a larger state.
-/

namespace DebugClient

/-- Work on a shared state that gives a result in the end. -/
inductive Flow (σ α : Type) where
  /-- The result. -/
  | done (result : α)
  /-- Reads the state. -/
  | get (next : σ → Flow σ α)
  /-- Writes the state. -/
  | set (state : σ) (next : Flow σ α)
  /-- Waits until the state is one it is ready for. -/
  | wait (ready : σ → Bool) (next : Flow σ α)

namespace Flow

variable {σ τ α β γ : Type}

/-- Goes on with what follows from a result. -/
def bind : Flow σ α → (α → Flow σ β) → Flow σ β
  | done a, f => f a
  | get k, f => get fun s => (k s).bind f
  | set s k, f => set s (k.bind f)
  | wait r k, f => wait r (k.bind f)

instance : Monad (Flow σ) where
  pure := done
  bind := bind

theorem bind_done (m : Flow σ α) : m.bind done = m := by
  induction m with
  | done a => rfl
  | get k ih => simp [bind, ih]
  | set s k ih => simp [bind, ih]
  | wait r k ih => simp [bind, ih]

theorem bind_assoc (m : Flow σ α) (f : α → Flow σ β) (g : β → Flow σ γ) :
    (m.bind f).bind g = m.bind fun a => (f a).bind g := by
  induction m with
  | done a => rfl
  | get k ih => simp [bind, ih]
  | set s k ih => simp [bind, ih]
  | wait r k ih => simp [bind, ih]

instance : LawfulMonad (Flow σ) :=
  LawfulMonad.mk' _ bind_done (fun _ _ => rfl) bind_assoc

/-! ## Parts -/

/-- The state. -/
def read : Flow σ σ := get done

/-- A reading of the state. -/
def look (f : σ → α) : Flow σ α := get fun s => done (f s)

/-- Changes the state. -/
def modify (f : σ → σ) : Flow σ Unit := get fun s => set (f s) (done ())

/-- Changes the state and gives a result. -/
def act (f : σ → α × σ) : Flow σ α := get fun s => set (f s).2 (done (f s).1)

/-- Waits until the state is one that is ready. -/
def await (ready : σ → Bool) : Flow σ Unit := wait ready (done ())

/-- Changes the state before a flow and again when it has ended. -/
def between (before after : σ → σ) (m : Flow σ α) : Flow σ α :=
  (modify before).bind fun _ => m.bind fun a => (modify after).bind fun _ => done a

/-- One flow for each element, one after another. -/
def forEach (f : α → Flow σ Unit) : List α → Flow σ Unit
  | [] => done ()
  | a :: rest => (f a).bind fun _ => forEach f rest

/-! ## Two at once -/

/-- Carries the second of two flows on while the first waits. `resume` is
both flows once the first is ready. -/
def zipWaiting (ready : σ → Bool) (resume : Flow σ β → Flow σ γ) : Flow σ β → Flow σ γ
  | done b => wait ready (resume (done b))
  | get k => get fun s => zipWaiting ready resume (k s)
  | set s k => set s (zipWaiting ready resume k)
  | wait ready' k =>
    get fun s =>
      if ready' s then zipWaiting ready resume k
      else
        wait (fun s => ready s || ready' s)
          (get fun s => if ready s then resume (wait ready' k) else zipWaiting ready resume k)

/-- Two flows at once: the first goes as far as it can, then the second,
and so on with those that are ready. -/
def zip : Flow σ α → Flow σ β → Flow σ (α × β)
  | done a, g => g.bind fun b => done (a, b)
  | get k, g => get fun s => (k s).zip g
  | set s k, g => set s (k.zip g)
  | wait ready k, g => get fun s => if ready s then k.zip g else zipWaiting ready k.zip g

/-! ## A part of the state -/

/-- A flow on a part of a larger state. -/
def within (part : τ → σ) (replace : σ → τ → τ) : Flow σ α → Flow τ α
  | done a => done a
  | get k => get fun t => (k (part t)).within part replace
  | set s k => get fun t => set (replace s t) (k.within part replace)
  | wait ready k => wait (fun t => ready (part t)) (k.within part replace)

/-! ## Running -/

/-- Carries a flow on until it ends or waits for what is not so. The
surroundings act after every write. -/
def run (surroundings : σ → σ) : Flow σ α → σ → Flow σ α × σ
  | done a, s => (done a, s)
  | get k, s => run surroundings (k s) s
  | set s k, _ => run surroundings k (surroundings s)
  | wait ready k, s => if ready s then run surroundings k s else (wait ready k, s)

/-- The result of a flow that has ended. -/
def result? : Flow σ α → Option α
  | done a => some a
  | _ => none

end Flow

end DebugClient
