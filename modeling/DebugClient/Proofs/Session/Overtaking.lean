import DebugClient.Proofs.Session.Stops
import Mathlib.Data.Finset.Max
/-!
# Overtaking — what came last and what took effect last

Whatever stops and goes on, in any order, the notes of a pool are a record
of every event. An event has its effect when it comes, or it is a stop that
waits for its frames and has its effect once they are expanded (`Timely`), and
the session is paused exactly if the newest effect was that a pause is held. So
what counts is the order of the effects and not that of the events.

At rest the session is paused only if a stop came last, unless a stop was
overtaken: execution went on for the last time while a stop waited that was
held later, and none that came after that was held (`Overtaken`,
`stop_last_iff`). A stop can be overtaken while its frames are expanded
(`overtaken_stop`). Where no frames are expanded none is
(`not_overtaken_of_plain`).
-/

namespace DebugClient

namespace Session

/-- Events that stop execution or let it go on, handled side by side. -/
abbrev Stopping := Flow.Pool StopCall (Work Unit) Session Unit (Nat × StopEffect)

/-! ## What moves add -/

/-- A stop waits that has had no effect. -/
def Pends (pool : Stopping) (number : Nat) : Prop :=
  ∃ w ∈ pool.waiting, w.number = number ∧ Flow.Pool.noted number pool.notes = [] ∧ w.call.IsStop

/-- **What moves add** to the notes: effects of events that came meanwhile, and
of stops that waited for theirs. That no pause is held any more is an effect of
going on. -/
structure Adds (moves : List (Flow.Move StopCall StopNews)) (a b : Stopping) : Prop where
  /-- More events have come. -/
  begun : a.begun ≤ b.begun
  /-- An event that waits has come meanwhile, or waited before. -/
  waiting : ∀ w ∈ b.waiting, a.begun ≤ w.number ∨
    ∃ v ∈ a.waiting, v.number = w.number ∧ v.call = w.call
  /-- The effects. -/
  notes : ∃ new, b.notes = new ++ a.notes ∧ ∀ e ∈ new,
    (a.begun ≤ e.1 ∨ Pends a e.1) ∧ (e.2 = .cleared → .begin .resumed ∈ moves)

/-- An event that has no effects has had none before. -/
theorem noted_eq_nil_of_append {number : Nat} {new notes : List (Nat × StopEffect)}
    (none : Flow.Pool.noted number (new ++ notes) = []) : Flow.Pool.noted number notes = [] := by
  rw [Flow.Pool.noted, List.filterMap_append] at none
  exact (List.append_eq_nil_iff.1 none).2

section Adding

variable {first later : List (Flow.Move StopCall StopNews)} {a b c : Stopping}

/-- Moves may add nothing. -/
theorem Adds.nothing (begun : b.begun = a.begun) (waiting : b.waiting = a.waiting)
    (notes : b.notes = a.notes) : Adds first a b :=
  ⟨Nat.le_of_eq begun.symm, fun w hw => .inr ⟨w, waiting ▸ hw, rfl, rfl⟩, [], notes, nofun⟩

/-- A stop that waits has come meanwhile, or waited before. -/
theorem Adds.pends (h : Adds first a b) {number : Nat} (pends : Pends b number) :
    a.begun ≤ number ∨ Pends a number := by
  obtain ⟨w, hw, rfl, none, stop⟩ := pends
  obtain ⟨new, notes, -⟩ := h.notes
  refine (h.waiting w hw).imp_right fun before => ?_
  obtain ⟨v, hv, same, called⟩ := before
  exact ⟨v, hv, same, noted_eq_nil_of_append (notes ▸ none), called ▸ stop⟩

theorem Adds.trans (h : Adds first a b) (h' : Adds later b c) : Adds (first ++ later) a c := by
  obtain ⟨new, notes, added⟩ := h.notes
  obtain ⟨new', notes', added'⟩ := h'.notes
  refine ⟨Nat.le_trans h.begun h'.begun, fun w hw => ?_, new' ++ new, ?_, fun e he => ?_⟩
  · obtain since | ⟨v, hv, same, called⟩ := h'.waiting w hw
    · exact .inl (Nat.le_trans h.begun since)
    · rw [← same, ← called]
      exact h.waiting v hv
  · rw [notes', notes, List.append_assoc]
  · rcases List.mem_append.1 he with he | he
    · obtain ⟨from?, cleared⟩ := added' e he
      refine ⟨?_, fun is => List.mem_append_right _ (cleared is)⟩
      exact from?.elim (fun since => .inl (Nat.le_trans h.begun since)) h.pends
    · exact (added e he).imp_right fun cleared is => List.mem_append_left _ (cleared is)

end Adding

/-! ## Every order of events -/

/-- **What holds in every order**: the session takes events in, the notes
are a record of every event, and the session is paused or not as they say. -/
structure Heeded (prompt : Prop) (start : Bool) (pool : Stopping) : Prop where
  /-- The session takes events in. -/
  takes : TakesStops prompt pool.state
  /-- The notes are a record. -/
  logged : pool.Logged (Stage prompt pool.state.journal) fun c all _ => c.Due all
  /-- The notes say whether the session is paused. -/
  paused : pool.state.isPaused = holdsAfter (pool.notes.map (·.2)) start

theorem holdsAfter_append (new old : List StopEffect) (start : Bool) :
    holdsAfter (new ++ old) start = holdsAfter new (holdsAfter old start) := List.foldr_append

section Steps

variable {prompt : Prop} {start : Bool} {a : Stopping} {c : StopCall} {had all new : List StopEffect}
  {r : Work Unit × Session}

/-- What is noted of a call is what it has had since. -/
theorem Far.note {s₀ s : Session} (h : Far (new ++ had) had s₀ s) (c : StopCall) (n : Nat) :
    stopping.note n c s₀ s = new.map (n, ·) := by
  obtain ⟨new', is, effects, -⟩ := h.effects
  rw [List.append_cancel_right is]
  exact congrArg (List.map _) (effectsSince_eq effects)

/-- What a call has had is what it had before, and more. -/
theorem Far.grown {s₀ s : Session} (h : Far all had s₀ s) : ∃ new, all = new ++ had :=
  h.effects.imp fun _ is => is.1

/-- **What a call did** is taken into the account, wherever it stands now. -/
theorem Heeded.account (h : Heeded prompt start a) {b : Stopping} {s : Session} {n : Nat}
    (far : Far (new ++ had) had a.state s) (state : b.state = s)
    (notes : b.notes = new.map (n, ·) ++ a.notes)
    (logged : a.Logged (Stage prompt s.journal) (fun c all _ => c.Due all) →
      b.Logged (Stage prompt s.journal) fun c all _ => c.Due all) : Heeded prompt start b := by
  subst state
  refine ⟨⟨far.enabled.trans h.takes.1, fun early => far.expands.trans (h.takes.2 early)⟩,
    logged (h.logged.mono fun _ _ _ stage => stage.mono far.said), ?_⟩
  obtain ⟨new', is, -, paused⟩ := far.effects
  rw [notes, List.map_append, holdsAfter_append, ← h.paused, paused, List.append_cancel_right is]
  simp [Function.comp_def]

/-- An event comes. -/
theorem Heeded.opened (h : Heeded prompt start a) (reached : Reached prompt c [] a.state r all)
    (due : all = [] ∨ c.Due all) :
    Heeded prompt start (a.opened stopping c r) ∧ Adds [.begin c] a (a.opened stopping c r) := by
  have far : Far (all ++ []) [] a.state r.2 := (List.append_nil all).symm ▸ reached.far
  have notes : (a.opened stopping c r).notes = all.map (a.begun, ·) ++ a.notes := by
    rw [Flow.Pool.notes_opened, far.note]
  refine ⟨h.account far Flow.Pool.state_opened notes fun logged =>
    logged.opened (far.note c _) reached.ended reached.waits, ?_, fun w hw => ?_, _, notes, fun e he => ?_⟩
  · rw [Flow.Pool.begun_opened]
    exact Nat.le_succ _
  · exact (Flow.Pool.mem_waiting_opened hw).elim (fun old => .inr ⟨w, old, rfl, rfl⟩)
      fun new => .inl (Nat.le_of_eq new.symm)
  · obtain ⟨effect, had, rfl⟩ := List.mem_map.1 he
    refine ⟨.inl (Nat.le_refl _), ?_⟩
    rintro rfl
    obtain rfl | due := due
    · cases had
    · rw [StopCall.resumed_of_cleared due had]
      exact .head _

/-- The handler of an event goes on. -/
theorem Heeded.moved (h : Heeded prompt start a) {place : Nat}
    {w : Flow.Standing StopCall (Work Unit)} (there : a.waiting[place]? = some w)
    (reached : Reached prompt w.call (Flow.Pool.noted w.number a.notes) a.state r all)
    (due : w.call.Due all) :
    Heeded prompt start (a.moved stopping place w r) ∧
      Adds [.carry place] a (a.moved stopping place w r) := by
  obtain ⟨new, rfl⟩ := reached.far.grown
  have far := reached.far
  have notes : (a.moved stopping place w r).notes = new.map (w.number, ·) ++ a.notes := by
    rw [Flow.Pool.notes_moved, far.note]
  have waits : w ∈ a.waiting := List.mem_of_getElem? there
  refine ⟨h.account far Flow.Pool.state_moved notes fun logged =>
    logged.moved there (far.note _ _) reached.ended reached.waits, ?_, fun v hv => ?_, _, notes,
    fun e he => ?_⟩
  · exact Nat.le_of_eq Flow.Pool.begun_moved.symm
  · exact .inr (Flow.Pool.mem_waiting_moved there hv)
  · obtain ⟨effect, had, rfl⟩ := List.mem_map.1 he
    -- Only a stop that waited for its frames had not had its effect.
    obtain ⟨none, stop⟩ := (h.logged.waiting w waits).late due (List.ne_nil_of_mem had)
    refine ⟨.inr ⟨w, waits, rfl, none, stop⟩, ?_⟩
    rintro rfl
    obtain ⟨r, is, -⟩ := stop
    have resumed := StopCall.resumed_of_cleared due (List.mem_append_left _ had)
    cases resumed.symm.trans is

theorem Heeded.step (h : Heeded prompt start a) (move : Flow.Move StopCall StopNews)
    (plain : ∀ e, move = .outside e → prompt → e.Plain) :
    Heeded prompt start (a.step stopping move) ∧ Adds [move] a (a.step stopping move) := by
  cases move with
  | begin c =>
    obtain ⟨all, due, reached⟩ := comes_to c h.takes
    exact h.opened reached due
  | carry place =>
    by_cases goes : ∃ w, a.waiting[place]? = some w ∧ w.place.moves a.state = true
    · obtain ⟨w, there, ready⟩ := goes
      obtain ⟨all, due, reached⟩ := goes_to (h.logged.waiting w (List.mem_of_getElem? there)) ready
      rw [Flow.Pool.step_carry there ready]
      exact h.moved there reached due
    · rw [Flow.Pool.step_stay fun w there =>
        Bool.eq_false_iff.2 fun ready => goes ⟨w, there, ready⟩]
      exact ⟨h, .nothing rfl rfl rfl⟩
  | outside e =>
    have kept : TakesStops prompt (e.apply a.state) := by
      refine ⟨?_, fun early => ?_⟩
      · cases e <;> exact h.takes.1
      · cases e with
        | install policies => exact plain _ rfl early
        | _ => exact h.takes.2 early
    have said : (e.apply a.state).journal = a.state.journal := by cases e <;> rfl
    have same : (e.apply a.state).isPaused = a.state.isPaused := by cases e <;> rfl
    have logged := h.logged.on (e.apply a.state)
    exact ⟨⟨kept, said ▸ logged, same.trans h.paused⟩, .nothing rfl rfl rfl⟩

/-- **Whatever comes**, it keeps the account. -/
theorem Heeded.play (h : Heeded prompt start a) (moves : List (Flow.Move StopCall StopNews))
    (plain : ∀ e, .outside e ∈ moves → prompt → e.Plain) :
    Heeded prompt start (a.play stopping moves) ∧ Adds moves a (a.play stopping moves) := by
  induction moves generalizing a with
  | nil => exact ⟨h, .nothing rfl rfl rfl⟩
  | cons move rest ih =>
    obtain ⟨stepped, first⟩ := h.step move fun e is => plain e (is ▸ .head _)
    obtain ⟨played, later⟩ := ih stepped fun e he => plain e (.tail _ he)
    exact ⟨played, first.trans later⟩

end Steps

section Runs

variable {prompt : Prop} {s : Session} {moves before after : List (Flow.Move StopCall StopNews)}

theorem heeded_start (takes : TakesStops prompt s) : Heeded prompt s.isPaused { state := s } :=
  ⟨takes, .empty rfl rfl rfl, rfl⟩

/-- An enabled session takes events in; its stops need not be prompt. -/
theorem heeded (enabled : s.isEnabled = true) (moves : List (Flow.Move StopCall StopNews)) :
    Heeded False s.isPaused (afterStops s moves) :=
  ((heeded_start ⟨enabled, False.elim⟩).play moves fun _ _ => False.elim).1

theorem afterStops_append : afterStops s (before ++ after) = (afterStops s before).play stopping after :=
  List.foldl_append

end Runs

/-! ## Effects in time -/

/-- **A stop waits for its frames.** It has had no effect; as it arrived a
policy was asked to expand its frames, and its handler waits for nothing but
the answer. With the answer it has its effect. -/
structure Expanding (pool : Stopping) (place : Nat) (w : Flow.Standing StopCall (Work Unit)) : Prop where
  /-- It has had no effect. -/
  before : Flow.Pool.noted w.number pool.notes = []
  /-- It waits for the answer. -/
  awaits : ∃ r met, w.call = .paused r ∧ r.reason ≠ .instrumentation ∧
    AskedFrames r met pool.state.journal ∧ ∀ t, w.place.moves t = t.isAdvised met.nextTicket
  /-- It has its effect when it goes on. -/
  takes : w.place.moves pool.state = true →
    w.call.Due (Flow.Pool.noted w.number (pool.step stopping (.carry place)).notes)

/-- **Effects are in time**: every event has had the effect it should, but for
stops that wait for their frames. -/
structure Timely (pool : Stopping) : Prop where
  /-- An effect is of an event. -/
  owned : ∀ e ∈ pool.notes, e.1 ∈ pool.numbers
  /-- Events whose handlers have ended. -/
  ended : ∀ w ∈ pool.ended, w.call.Due (Flow.Pool.noted w.number pool.notes)
  /-- Events whose handlers wait. -/
  waiting : ∀ place w, pool.waiting[place]? = some w →
    w.call.Due (Flow.Pool.noted w.number pool.notes) ∨ Expanding pool place w

/-- A stop that is at this stage waits for its frames. -/
theorem Heeded.due_or_expanding {prompt : Prop} {start : Bool} {a : Stopping}
    (h : Heeded prompt start a) {place : Nat} {w : Flow.Standing StopCall (Work Unit)}
    (there : a.waiting[place]? = some w) :
    w.call.Due (Flow.Pool.noted w.number a.notes) ∨ Expanding a place w := by
  have stage := h.logged.waiting w (List.mem_of_getElem? there)
  have takes (ready : w.place.moves a.state = true) :
      w.call.Due (Flow.Pool.noted w.number (a.step stopping (.carry place)).notes) := by
    obtain ⟨all, due, reached⟩ := goes_to stage ready
    obtain ⟨new, rfl⟩ := reached.far.grown
    rw [Flow.Pool.step_carry there ready, Flow.Pool.notes_moved, reached.far.note,
      Flow.Pool.noted_append_self]
    exact due
  obtain ⟨number, call, flow⟩ := w
  dsimp only at stage
  generalize effects : Flow.Pool.noted number a.notes = had at stage
  cases stage with
  | settled due _ => exact .inl (effects ▸ due)
  | expanding _ is stop asked => exact .inr ⟨effects, ⟨_, _, is, stop, asked, fun _ => rfl⟩, takes⟩

theorem Heeded.timely {prompt : Prop} {start : Bool} {a : Stopping} (h : Heeded prompt start a) :
    Timely a :=
  ⟨h.logged.owned, h.logged.ended, fun _ _ there => h.due_or_expanding there⟩

/-! ## At rest -/

section Rest

variable (pool : Stopping)

/-- An event counts: that execution goes on, and a stop, unless it was
before a script runs or at the end of a run to a location. -/
def Counts (w : Flow.Standing StopCall Unit) : Prop :=
  match w.call with
  | .paused r => r.reason ≠ .instrumentation ∧ (w.number, .swallowed) ∉ pool.notes
  | .resumed => True

/-- Of the events that count a stop came last. -/
def StopLast : Prop :=
  ∃ w ∈ pool.ended, Counts pool w ∧ w.call ≠ .resumed ∧
    ∀ v ∈ pool.ended, Counts pool v → v.number ≤ w.number

variable {pool}

/-- The record of an event that has ended says whether it counts. -/
theorem counts_iff {w : Flow.Standing StopCall Unit}
    (due : w.call.Due (Flow.Pool.noted w.number pool.notes)) :
    (w.call = .resumed ↔ (w.number, .cleared) ∈ pool.notes) ∧
      (Counts pool w ∧ w.call ≠ .resumed ↔ (w.number, .held) ∈ pool.notes) := by
  have record : ∀ effect, (w.number, effect) ∈ pool.notes ↔
      effect ∈ Flow.Pool.noted w.number pool.notes := fun effect => Flow.Pool.mem_noted.symm
  unfold Counts
  simp only [record]
  generalize Flow.Pool.noted w.number pool.notes = effects at due ⊢
  cases called : w.call with
  | resumed =>
    rw [called, StopCall.Due] at due
    simp [due]
  | paused r =>
    rw [called, StopCall.Due] at due
    split at due
    · rename_i before
      simp [due, before]
    · rename_i other
      rcases due with due | due <;> simp [due, other]

/-- A session is paused that was not at first: a pause was held. -/
theorem exists_held {notes : List (Nat × StopEffect)}
    (paused : holdsAfter (notes.map (·.2)) false = true) : ∃ n, (n, .held) ∈ notes := by
  induction notes with
  | nil => cases paused
  | cons note rest ih =>
    obtain ⟨n, effect⟩ := note
    cases effect with
    | held => exact ⟨n, .head _⟩
    | swallowed =>
      obtain ⟨k, hk⟩ := ih paused
      exact ⟨k, .tail _ hk⟩
    | cleared => cases paused

/-- A pause that was held is, if execution did not go on. -/
theorem holdsAfter_of_held {notes : List (Nat × StopEffect)} (still : ∀ e ∈ notes, e.2 ≠ .cleared)
    {n : Nat} (held : (n, .held) ∈ notes) (start : Bool) :
    holdsAfter (notes.map (·.2)) start = true := by
  induction notes with
  | nil => cases held
  | cons note rest ih =>
    obtain ⟨k, effect⟩ := note
    cases effect with
    | held => rfl
    | swallowed => exact ih (fun e he => still e (.tail _ he)) (by simpa using held)
    | cleared => exact absurd rfl (still _ (.head _))

/-- Of the stops that are held one came last. -/
theorem exists_last_held {notes : List (Nat × StopEffect)} {n : Nat} (held : (n, .held) ∈ notes) :
    ∃ k, (k, .held) ∈ notes ∧ ∀ j, (j, .held) ∈ notes → j ≤ k := by
  have some : (notes.toFinset.filter (·.2 = .held)).Nonempty := ⟨(n, .held), by simp [held]⟩
  obtain ⟨⟨k, effect⟩, there, last⟩ := Finset.exists_max_image _ (·.1) some
  obtain ⟨there, rfl⟩ : (k, effect) ∈ notes ∧ effect = .held := by simpa using there
  exact ⟨k, there, fun j hj => last (j, .held) (by simpa using hj)⟩

/-- At rest every effect is of an event that has ended. -/
theorem Timely.owner (h : Timely pool) (quiet : pool.Quiet) {n : Nat} {effect : StopEffect}
    (noted : (n, effect) ∈ pool.notes) : ∃ w ∈ pool.ended, w.number = n := by
  have there := h.owned _ noted
  rw [Flow.Pool.numbers, quiet] at there
  exact List.mem_map.1 there

end Rest

/-! ## Stops that are overtaken -/

/-- **A stop is overtaken**: execution goes on for the last time while a stop
waits that is held later, and every stop that is held has come before. -/
def Overtaken (s : Session) (moves : List (Flow.Move StopCall StopNews)) : Prop :=
  ∃ before after, moves = before ++ .begin .resumed :: after ∧ .begin .resumed ∉ after ∧
    (∃ w ∈ (afterStops s before).waiting, (w.number, .held) ∉ (afterStops s before).notes ∧
      (w.number, .held) ∈ (afterStops s moves).notes) ∧
    ∀ n, (n, .held) ∈ (afterStops s moves).notes → n < (afterStops s before).begun

section Overtaking

variable {s : Session} {moves before after : List (Flow.Move StopCall StopNews)}

/-- What is there is there for a last time. -/
theorem exists_last_mem {α : Type} {x : α} {l : List α} (there : x ∈ l) :
    ∃ before after, l = before ++ x :: after ∧ x ∉ after := by
  obtain ⟨after, before, is, fresh⟩ := List.eq_append_cons_of_mem (List.mem_reverse.2 there)
  refine ⟨before.reverse, after.reverse, ?_, fun again => fresh (List.mem_reverse.1 again)⟩
  rw [← l.reverse_reverse, is]
  simp

/-- **Since execution went on for the last time** effects are of stops that have
come since or waited then. -/
theorem since_resumed (enabled : s.isEnabled = true) (last : .begin .resumed ∉ after) :
    ∃ new, (afterStops s (before ++ .begin .resumed :: after)).notes =
        new ++ ((afterStops s before).begun, .cleared) :: (afterStops s before).notes ∧
      ∀ e ∈ new, e.2 ≠ .cleared ∧
        ((afterStops s before).begun < e.1 ∨ Pends (afterStops s before) e.1) := by
  have past := heeded enabled before
  rw [afterStops_append]
  generalize afterStops s before = pool at past ⊢
  have far : Far ([.cleared] ++ []) [] pool.state pool.state.resumed := far_resumed (.refl _ _)
  have stepped : pool.step stopping (.begin .resumed) =
      pool.opened stopping .resumed (.done (), pool.state.resumed) :=
    congrArg (pool.opened stopping .resumed) (toWait_resumed past.takes.1)
  have resumed := (past.step (.begin .resumed) fun _ _ => False.elim).1
  obtain ⟨-, added⟩ := resumed.play after fun _ _ => False.elim
  obtain ⟨new, notes, added⟩ := added.notes
  rw [stepped] at added
  refine ⟨new, ?_, fun e he => ⟨fun is => last ((added e he).2 is), ?_⟩⟩
  · rw [Flow.Pool.play, List.foldl_cons]
    refine notes.trans ?_
    rw [stepped, Flow.Pool.notes_opened, far.note]
    rfl
  · refine (added e he).1.imp Nat.lt_of_succ_le fun pends => ?_
    obtain ⟨w, hw, same, fresh, stop⟩ := pends
    rw [Flow.Pool.notes_opened] at fresh
    exact ⟨w, hw, same, noted_eq_nil_of_append fresh, stop⟩

/-- That no pause is held any more is an effect of going on. -/
theorem resumed_mem (enabled : s.isEnabled = true) {n : Nat}
    (cleared : (n, .cleared) ∈ (afterStops s moves).notes) : .begin .resumed ∈ moves := by
  obtain ⟨-, added⟩ := (heeded_start ⟨enabled, False.elim⟩).play moves fun _ _ => False.elim
  obtain ⟨new, notes, added⟩ := added.notes
  exact (added _ ((List.append_nil new ▸ notes) ▸ cleared)).2 rfl

/-- Execution has not gone on after the last time. -/
theorem le_begun_of_cleared (enabled : s.isEnabled = true) (last : .begin .resumed ∉ after) {n : Nat}
    (cleared : (n, .cleared) ∈ (afterStops s (before ++ .begin .resumed :: after)).notes) :
    n ≤ (afterStops s before).begun := by
  obtain ⟨new, notes, added⟩ := since_resumed enabled last
  rw [notes] at cleared
  rcases List.mem_append.1 cleared with early | cleared
  · exact absurd rfl (added _ early).1
  rcases List.mem_cons.1 cleared with is | old
  · exact Nat.le_of_eq (congrArg Prod.fst is)
  · have past := (heeded enabled before).logged
    exact Nat.le_of_lt (past.numbered.below _ (past.owned _ old))

/-- A session that is paused holds a stop that has come since execution went on
for the last time, or waited then. -/
theorem exists_held_since (enabled : s.isEnabled = true) (last : .begin .resumed ∉ after)
    (paused : (afterStops s (before ++ .begin .resumed :: after)).state.isPaused = true) :
    ∃ n, (n, .held) ∈ (afterStops s (before ++ .begin .resumed :: after)).notes ∧
      ((afterStops s before).begun < n ∨ Pends (afterStops s before) n) := by
  obtain ⟨new, notes, added⟩ := since_resumed enabled last
  rw [(heeded enabled _).paused, notes, List.map_append, holdsAfter_append] at paused
  obtain ⟨n, held⟩ := exists_held paused
  exact ⟨n, notes ▸ List.mem_append_left _ held, (added _ held).2⟩

/-- If a session is paused though no stop came last, execution went on after all
stops that are held. -/
theorem exists_resumed_after (enabled : s.isEnabled = true) (running : s.isPaused = false)
    (quiet : (afterStops s moves).Quiet) (paused : (afterStops s moves).state.isPaused = true)
    (other : ¬ StopLast (afterStops s moves)) :
    ∃ n, (n, .cleared) ∈ (afterStops s moves).notes ∧
      ∀ j, (j, .held) ∈ (afterStops s moves).notes → j < n := by
  have account := heeded enabled moves
  have timely := account.timely
  have due := timely.ended
  rw [account.paused, running] at paused
  obtain ⟨n, hn⟩ := exists_held paused
  obtain ⟨k, hk, newest⟩ := exists_last_held hn
  obtain ⟨w, hw, rfl⟩ := timely.owner quiet hk
  obtain ⟨counts, stop⟩ := (counts_iff (due w hw)).2.2 hk
  obtain ⟨v, hv, counted, later⟩ : ∃ v ∈ (afterStops s moves).ended,
      Counts (afterStops s moves) v ∧ w.number < v.number := by
    by_contra none
    refine other ⟨w, hw, counts, stop, fun v hv counted => ?_⟩
    exact Nat.le_of_not_lt fun later => none ⟨v, hv, counted, later⟩
  have after (j : Nat) (held : (j, .held) ∈ (afterStops s moves).notes) : j < v.number :=
    Nat.lt_of_le_of_lt (newest j held) later
  have called : v.call = .resumed := by
    by_contra is
    exact Nat.lt_irrefl _ (after _ ((counts_iff (due v hv)).2.1 ⟨counted, is⟩))
  exact ⟨v.number, (counts_iff (due v hv)).1.1 called, after⟩

/-- A session that is paused though no stop came last has overtaken one. -/
theorem overtaken_of_paused (enabled : s.isEnabled = true) (running : s.isPaused = false)
    (quiet : (afterStops s moves).Quiet) (paused : (afterStops s moves).state.isPaused = true)
    (other : ¬ StopLast (afterStops s moves)) : Overtaken s moves := by
  obtain ⟨n, cleared, after⟩ := exists_resumed_after enabled running quiet paused other
  obtain ⟨before, rest, rfl, last⟩ := exists_last_mem (resumed_mem enabled cleared)
  have early (j : Nat)
      (held : (j, .held) ∈ (afterStops s (before ++ .begin .resumed :: rest)).notes) :
      j < (afterStops s before).begun :=
    Nat.lt_of_lt_of_le (after j held) (le_begun_of_cleared enabled last cleared)
  refine ⟨before, rest, rfl, last, ?_, early⟩
  obtain ⟨j, held, since | ⟨w, hw, rfl, none, -⟩⟩ := exists_held_since enabled last paused
  · exact absurd (early j held) (Nat.lt_asymm since)
  · refine ⟨w, hw, fun there => ?_, held⟩
    rw [← Flow.Pool.mem_noted, none] at there
    cases there

/-- A session that has overtaken a stop is paused, though execution went on
last. -/
theorem paused_of_overtaken (enabled : s.isEnabled = true) (quiet : (afterStops s moves).Quiet)
    (late : Overtaken s moves) :
    (afterStops s moves).state.isPaused = true ∧ ¬ StopLast (afterStops s moves) := by
  obtain ⟨before, after, rfl, last, ⟨w, -, fresh, held⟩, early⟩ := late
  obtain ⟨new, notes, added⟩ := since_resumed enabled last
  have account := heeded enabled (before ++ .begin .resumed :: after)
  have due := account.timely.ended
  have since : (w.number, .held) ∈ new := by
    rw [notes] at held
    simpa [fresh] using held
  constructor
  · rw [account.paused, notes, List.map_append, holdsAfter_append]
    exact holdsAfter_of_held (fun e he => (added e he).1) since _
  · rintro ⟨k, hk, counts, stop, newest⟩
    have cleared : ((afterStops s before).begun, StopEffect.cleared) ∈
        (afterStops s (before ++ .begin .resumed :: after)).notes := by simp [notes]
    obtain ⟨v, hv, is⟩ := account.timely.owner quiet cleared
    have called := (counts_iff (due v hv)).1.2 (is ▸ cleared)
    have first := newest v hv (by rw [Counts, called]; trivial)
    have second := early k.number ((counts_iff (due k hk)).2.1 ⟨counts, stop⟩)
    exact Nat.lt_irrefl _ (Nat.lt_of_lt_of_le second (is ▸ first))

/-- At rest a session that was not paused at first is paused only if a stop
came last, exactly if none was overtaken. -/
theorem stopLast_iff_not_overtaken (enabled : s.isEnabled = true) (running : s.isPaused = false)
    (quiet : (afterStops s moves).Quiet) :
    ((afterStops s moves).state.isPaused = true → StopLast (afterStops s moves)) ↔
      ¬ Overtaken s moves := by
  constructor
  · intro stops late
    obtain ⟨paused, other⟩ := paused_of_overtaken enabled quiet late
    exact other (stops paused)
  · intro none paused
    by_contra other
    exact none (overtaken_of_paused enabled running quiet paused other)

/-- **Where no frames are expanded** no stop is overtaken: none waits for its
effect. -/
theorem not_overtaken_of_plain (enabled : s.isEnabled = true) (plain : s.policies.expandsFrames = false)
    (still : ∀ e, .outside e ∈ moves → e.Plain) : ¬ Overtaken s moves := by
  rintro ⟨before, after, rfl, -, ⟨w, hw, fresh, held⟩, -⟩
  have takes : TakesStops True s := ⟨enabled, fun _ => plain⟩
  obtain ⟨past, -⟩ := (heeded_start takes).play before fun e he _ => still e (List.mem_append_left _ he)
  obtain ⟨-, added⟩ := past.play (.begin .resumed :: after) fun e he _ =>
    still e (List.mem_append_right _ he)
  obtain ⟨new, notes, added⟩ := added.notes
  rw [afterStops_append] at held
  have since : (w.number, .held) ∈ new :=
    (List.mem_append.1 (notes ▸ held)).resolve_right fresh
  obtain later | ⟨v, hv, same, none, stop⟩ := (added _ since).1
  · have below := past.logged.numbered.below w.number
      (List.mem_append_left _ (List.mem_map_of_mem hw))
    exact Nat.lt_irrefl _ (Nat.lt_of_lt_of_le below later)
  · have due := (past.logged.waiting v hv).due trivial
    rw [same, none] at due
    exact stop.not_due due

/-- There the session is paused at rest only if of the events that count a stop
came last. -/
theorem stop_last_of_plain (enabled : s.isEnabled = true) (running : s.isPaused = false)
    (plain : s.policies.expandsFrames = false) (still : ∀ e, .outside e ∈ moves → e.Plain)
    (quiet : (afterStops s moves).Quiet) (paused : (afterStops s moves).state.isPaused = true) :
    StopLast (afterStops s moves) :=
  (stopLast_iff_not_overtaken enabled running quiet).2 (not_overtaken_of_plain enabled plain still) paused

end Overtaking

/-- **When a stop came last.** Whatever stops and goes on, in any order, and
however long stops are expanded: at every time effects are in time, and a
session is paused as the last one says. Once every event has been handled a
session that was not paused at first is paused only if of the events that count
a stop came last, exactly if none was overtaken. -/
theorem stop_last_iff {s : Session} (enabled : s.isEnabled = true)
    (moves : List (Flow.Move StopCall StopNews)) :
    Timely (afterStops s moves) ∧
      (afterStops s moves).state.isPaused =
        holdsAfter ((afterStops s moves).notes.map (·.2)) s.isPaused ∧
      (s.isPaused = false → (afterStops s moves).Quiet →
        (((afterStops s moves).state.isPaused = true → StopLast (afterStops s moves)) ↔
          ¬ Overtaken s moves)) :=
  ⟨(heeded enabled moves).timely, (heeded enabled moves).paused, stopLast_iff_not_overtaken enabled⟩

/-! ## Two runs -/

/-- A session that is enabled and shows frames as a policy says. -/
def expanding : Session :=
  { connect 0 (.root ⟨0, "page", .frame⟩) {} with
    enablement := .enabled, policies := { expandsFrames := true } }

/-- A stop. -/
def stop : StopCall := .paused ⟨[], .debugCommand, none, [], none, none⟩

/-- Execution goes on, and then stops. -/
def expanded : List (Flow.Move StopCall StopNews) :=
  [.begin .resumed, .begin stop, .outside (.advise 0 (.frames [])), .carry 0]

/-- Execution stops, and goes on before the frames are expanded. -/
def overtaken : List (Flow.Move StopCall StopNews) :=
  [.begin stop, .begin .resumed, .outside (.advise 0 (.frames [])), .carry 0]

/-- A stop that came last is held once its frames are expanded. -/
theorem paused_once_expanded :
    expanding.isEnabled = true ∧ expanding.isPaused = false ∧
      (afterStops expanding expanded).Quiet ∧
      (afterStops expanding expanded).state.isPaused = true ∧ StopLast (afterStops expanding expanded) := by
  have quiet : (afterStops expanding expanded).Quiet := rfl
  have paused : (afterStops expanding expanded).state.isPaused = true := rfl
  refine ⟨rfl, rfl, quiet, paused, ?_⟩
  refine ((stop_last_iff (s := expanding) rfl expanded).2.2 rfl quiet).2 ?_ paused
  -- Nothing waits when execution goes on.
  rintro ⟨before, after, is, -, ⟨w, hw, -⟩, -⟩
  obtain ⟨rfl, -⟩ | ⟨rest, rfl, others⟩ := List.cons_eq_append_iff.1 is
  · cases hw
  · have again : Flow.Move.begin StopCall.resumed ∈ rest ++ .begin .resumed :: after := by simp
    rw [← others] at again
    simp [stop] at again

/-- **A stop that is overtaken.** At rest the session is paused, and what
came last is that execution goes on. -/
theorem overtaken_stop :
    expanding.isEnabled = true ∧ expanding.isPaused = false ∧
      (afterStops expanding overtaken).Quiet ∧ (afterStops expanding overtaken).state.isPaused = true ∧
      ¬ StopLast (afterStops expanding overtaken) := by
  have quiet : (afterStops expanding overtaken).Quiet := rfl
  have paused : (afterStops expanding overtaken).state.isPaused = true := rfl
  refine ⟨rfl, rfl, quiet, paused, ?_⟩
  rintro ⟨w, hw, -, stop, newest⟩
  have ended : (afterStops expanding overtaken).ended = [⟨0, Session.stop, ()⟩, ⟨1, .resumed, ()⟩] := rfl
  rw [ended] at hw newest
  have before := newest ⟨1, .resumed, ()⟩ (by simp) trivial
  rcases List.mem_cons.1 hw with rfl | hw
  · exact absurd before (by decide)
  · rw [List.mem_singleton.1 hw] at stop
    exact stop rfl

end Session

end DebugClient
