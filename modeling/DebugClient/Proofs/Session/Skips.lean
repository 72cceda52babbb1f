import DebugClient.Proofs.Flow.Records
import DebugClient.Proofs.Session.Journal
import DebugClient.Proofs.Session.Requests
import DebugClient.Session.Stepping
/-!
# Skips — the timers that end skipping pauses

A timer that was replaced or cancelled still runs out. It is told by its
token, and whether the token counts follows from the calls so far alone:
it is that of the last arming, and nothing has cancelled it since
(`TimerCounts`). Everything a call does to timers it does before it first
waits, so the answers of the backend have no say in it.

`timersAfter` is the calls so far as the session sees them, and
`timersAfter_pending` that it sees what counts. `SkipLedger` is what is so
after all moves; the result is `timers_kept`.
-/

namespace DebugClient

/-- Whether pauses are skipped, if a command tells of it. -/
def Wire.Command.skips? : Wire.Command → Option Bool
  | .setSkipAllPauses skip => some skip
  | _ => none

namespace Session

/-! ## The system -/

/-- What pauses are skipped by, and no longer. -/
inductive SkipCall where
  /-- Pauses are skipped until a navigation, or for so many milliseconds. -/
  | skipFor (delay : Nat)
  /-- Pauses are skipped, or no longer. -/
  | skip (on : Bool)
  /-- The target is asked to pause. -/
  | pause
  /-- The target has navigated. -/
  | navigate
  /-- The timer of a token has run out. -/
  | expire (token : Nat)

/-- The work of a call. -/
def SkipCall.work : SkipCall → Work Unit
  | skipFor delay => holding (skipAllPausesFor delay)
  | skip on => holding (skipAllPauses on)
  | pause => holding pauseTarget
  | navigate => holding navigated
  | expire token => timerExpired token

/-- Whatever timers depend on. Outside, answers come in. Noted is what each
call says. -/
def skipping : Flow.System SkipCall (Ticket × Reply) Session Unit (Nat × Signal) where
  program := SkipCall.work
  outside answer s := s.answer answer.1 answer.2
  note number _ before after := (after.saidSince before.journal.length).map (number, ·)

/-- A session after moves. -/
def afterSkips (start : Session) (moves : List (Flow.Move SkipCall (Ticket × Reply))) :
    Flow.Pool SkipCall (Flow Session Unit) Session Unit (Nat × Signal) :=
  Flow.Pool.play skipping { state := start } moves

/-- What was last told of skipping pauses. -/
def lastSkip (s : Session) : Option Bool := (commandsOf s.journal).findSome? Wire.Command.skips?

/-! ## Which timer counts -/

/-- Whether a call sets a timer. -/
def SkipCall.arms : SkipCall → Bool
  | skipFor _ => true
  | _ => false

/-- The token of the timer set after calls, if so many were set before
them. -/
def tokenAfter (before : Nat) (calls : List SkipCall) : Nat :=
  before + calls.countP SkipCall.arms + 1

/-- Whether the timer of a token no longer counts after a call: it was
replaced or cancelled, or has run out. -/
def SkipCall.Retires (token : Nat) : SkipCall → Prop
  | expire other => other = token
  | _ => True

/-- **The timer of a token counts** after calls: it was set by the last call
that set one, and nothing has cancelled it since. -/
def TimerCounts (before : Nat) (calls : List SkipCall) (token : Nat) : Prop :=
  ∃ earlier delay later, calls = earlier ++ .skipFor delay :: later ∧
    token = tokenAfter before earlier ∧ ∀ c ∈ later, ¬ c.Retires token

theorem timerCounts_snoc {before : Nat} {calls : List SkipCall} {c : SkipCall} {token : Nat} :
    TimerCounts before (calls ++ [c]) token ↔
      c.arms = true ∧ token = tokenAfter before calls ∨
        ¬ c.Retires token ∧ TimerCounts before calls token := by
  constructor
  · rintro ⟨earlier, delay, later, split, is, kept⟩
    -- The last call set the timer itself, or came after the one that did.
    rcases later.eq_nil_or_concat with rfl | ⟨later, last, rfl⟩
    · obtain ⟨rfl, rfl⟩ := List.append_inj' split rfl |>.imp_right List.singleton_inj.mp
      exact .inl ⟨rfl, is⟩
    · rw [List.concat_eq_append, ← List.cons_append, ← List.append_assoc] at split
      obtain ⟨rfl, rfl⟩ := List.append_inj' split rfl |>.imp_right List.singleton_inj.mp
      exact .inr ⟨kept c (by simp), earlier, delay, later, rfl, is,
        fun d hd => kept d (by simp [hd])⟩
  · rintro (⟨arms, is⟩ | ⟨kept, earlier, delay, later, rfl, is, others⟩)
    · cases c with
      | skipFor delay => exact ⟨calls, delay, [], rfl, is, by simp⟩
      | _ => simp [SkipCall.arms] at arms
    · refine ⟨earlier, delay, later ++ [c], by simp, is, fun d hd => ?_⟩
      rcases List.mem_append.1 hd with hd | hd
      · exact others d hd
      · exact List.mem_singleton.1 hd ▸ kept

/-- The timer that counts was set by one of the calls. -/
theorem TimerCounts.set_before {before : Nat} {calls : List SkipCall} {token : Nat}
    (h : TimerCounts before calls token) : token < tokenAfter before calls := by
  obtain ⟨earlier, delay, later, rfl, rfl, -⟩ := h
  simp only [tokenAfter, List.countP_append, List.countP_cons, SkipCall.arms, if_true]
  omega

/-- A timer that has run out does not count again: tokens are not used
twice. -/
theorem TimerCounts.not_before_expired {before : Nat} {earlier later : List SkipCall} {token : Nat}
    (h : TimerCounts before (earlier ++ .expire token :: later) token) :
    ¬ TimerCounts before earlier token := by
  intro counted
  have old := counted.set_before
  obtain ⟨first, delay, last, split, rfl, kept⟩ := h
  rcases List.append_eq_append_iff.1 split with ⟨between, rfl, rest⟩ | ⟨between, rfl, rest⟩
  · -- The call that set the timer comes after the timer has run out.
    simp only [tokenAfter, List.countP_append] at old
    omega
  · -- The timer has run out after the call that set it.
    cases between with
    | nil => simp at rest
    | cons c between =>
      obtain ⟨-, rfl⟩ := List.cons.inj rest
      exact kept (.expire _) (by simp) rfl

/-- The calls before another, split at one of them. -/
theorem take_eq_split {calls : List SkipCall} {m n : Nat} {c : SkipCall}
    (call : calls[m]? = some c) (before : m < n) :
    ∃ between, calls.take n = calls.take m ++ c :: between := by
  refine ⟨(calls.take n).drop (m + 1), ?_⟩
  have there : (calls.take n)[m]? = some c := by rw [List.getElem?_take_of_lt before, call]
  obtain ⟨bound, is⟩ := List.getElem?_eq_some_iff.1 there
  calc
    calls.take n = (calls.take n).take m ++ (calls.take n).drop m := (List.take_append_drop ..).symm
    _ = calls.take m ++ c :: (calls.take n).drop (m + 1) := by
      rw [List.take_take, Nat.min_eq_left (Nat.le_of_lt before), List.drop_eq_getElem_cons bound,
        is]

theorem tokenAfter_lt {before : Nat} {calls : List SkipCall} {m n delay : Nat}
    (call : calls[m]? = some (.skipFor delay)) (later : m < n) :
    tokenAfter before (calls.take m) < tokenAfter before (calls.take n) := by
  obtain ⟨between, split⟩ := take_eq_split call later
  simp only [tokenAfter, split, List.countP_append, List.countP_cons, SkipCall.arms, if_true]
  omega

/-! ## The timers of a session -/

/-- What of a session timers are about. -/
structure SkipTimers where
  /-- The timer that is pending. -/
  pending : Option Nat
  /-- How many were set. -/
  set : Nat

/-- The timers of a session. -/
def timers (s : Session) : SkipTimers := ⟨s.skipTimer, s.timersSet⟩

/-- What a call does to the timers, before it first waits. -/
def SkipCall.turns : SkipCall → SkipTimers → SkipTimers
  | skipFor _, a => ⟨some (a.set + 1), a.set + 1⟩
  | expire token, a => if a.pending = some token then ⟨none, a.set⟩ else a
  | _, a => ⟨none, a.set⟩

/-- What a call says before it first waits, newest first. -/
def SkipCall.sayings (ticket : Ticket) : SkipCall → SkipTimers → List Signal
  | skipFor delay, a => [.timer delay (a.set + 1), .request ticket (.setSkipAllPauses true)]
  | skip on, _ => [.request ticket (.setSkipAllPauses on)]
  | pause, _ => [.request ticket (.setSkipAllPauses false)]
  | navigate, a =>
    if a.pending.isSome then [.request ticket (.setSkipAllPauses false)] else []
  | expire token, a =>
    if a.pending = some token then [.request ticket (.setSkipAllPauses false)] else []

/-- The timers after calls, if so many were set before them. -/
def timersAfter (before : Nat) (calls : List SkipCall) : SkipTimers :=
  calls.foldl (fun a c => c.turns a) ⟨none, before⟩

theorem timersAfter_snoc (before : Nat) (calls : List SkipCall) (c : SkipCall) :
    timersAfter before (calls ++ [c]) = c.turns (timersAfter before calls) := by
  simp [timersAfter]

theorem timersAfter_set (before : Nat) (calls : List SkipCall) :
    (timersAfter before calls).set = before + calls.countP SkipCall.arms := by
  induction calls using List.reverseRecOn with
  | nil => rfl
  | append_singleton calls c ih =>
    rw [timersAfter_snoc]
    cases c with
    | skipFor delay => simp [SkipCall.turns, SkipCall.arms, ih, Nat.add_assoc]
    | expire token =>
      simp only [SkipCall.turns, SkipCall.arms, List.countP_append, List.countP_singleton]
      split <;> simp [ih]
    | _ => simp [SkipCall.turns, SkipCall.arms, ih]

/-- **The pending timer is the one that counts.** -/
theorem timersAfter_pending (before : Nat) (calls : List SkipCall) (token : Nat) :
    (timersAfter before calls).pending = some token ↔ TimerCounts before calls token := by
  induction calls using List.reverseRecOn with
  | nil => simp [timersAfter, TimerCounts]
  | append_singleton calls c ih =>
    rw [timersAfter_snoc, timerCounts_snoc, ← ih]
    cases c with
    | skipFor delay =>
      simp [SkipCall.turns, SkipCall.arms, SkipCall.Retires, timersAfter_set, tokenAfter, eq_comm]
    | expire other =>
      simp only [SkipCall.turns, SkipCall.arms, SkipCall.Retires]
      split
      · rename_i same
        simp [same]
      · rename_i different
        simp only [Bool.false_eq_true, false_and, false_or, iff_and_self]
        intro pending same
        exact different (same ▸ pending)
    | _ => simp [SkipCall.turns, SkipCall.arms, SkipCall.Retires]

/-! ## What calls do -/

/-- What a call does before it first waits. -/
structure Begins (c : SkipCall) (s t : Session) : Prop where
  /-- What it does to the timers. -/
  timers : t.timers = c.turns s.timers
  /-- What it says. -/
  journal : t.journal = c.sayings s.nextTicket s.timers ++ s.journal

/-- What a call does later: only to ask for a pause says more. -/
structure GoesOn (c : SkipCall) (s t : Session) : Prop where
  /-- Nothing is done to the timers. -/
  timers : t.timers = s.timers
  /-- What it says is not about skipping pauses. -/
  journal : ∃ new, t.journal = new ++ s.journal ∧ (c ≠ .pause → new = []) ∧
    (commandsOf new).findSome? Wire.Command.skips? = none

/-- What a call may do from one wait to the next. The phase is whether it
has begun. It holds the session as long as it waits. -/
def SkipCall.protocol (c : SkipCall) : Flow.Protocol Bool Session Unit where
  given s := s.live = true
  moves
    | false, s, true, t => Begins c s t ∧ t.holders = s.holders + 1
    | true, s, true, t => GoesOn c s t ∧ t.holders = s.holders
    | _, _, false, _ => False
  ends
    | false, s, _, t => Begins c s t ∧ t.holders = s.holders
    | true, s, _, t => GoesOn c s t ∧ t.holders = s.holders - 1

section Calls

variable {s : Session}

theorem GoesOn.taken {c : SkipCall} {s t : Session} (timers : t.timers = s.timers)
    (journal : t.journal = s.journal) : GoesOn c s t :=
  ⟨timers, [], journal, fun _ => rfl, rfl⟩

/-- A call that only tells whether pauses are skipped. -/
theorem obeys_skipAllPauses {c : SkipCall} {on : Bool}
    (turns : c.turns s.timers = ⟨none, s.timersSet⟩)
    (sayings : c.sayings s.nextTicket s.timers = [.request s.nextTicket (.setSkipAllPauses on)]) :
    (holding (skipAllPauses on)).Obeys c.protocol c.protocol.ends false s s := by
  refine ⟨true, ⟨⟨turns.symm, ?_⟩, rfl⟩, fun t _ _ => ⟨.taken rfl rfl, rfl⟩⟩
  rw [sayings]
  rfl

/-- A call that does nothing. -/
theorem obeys_nothing {c : SkipCall} {t : Session} (turns : c.turns s.timers = s.timers)
    (sayings : c.sayings s.nextTicket s.timers = []) (same : t.timers = s.timers)
    (said : t.journal = s.journal) (holders : t.holders = s.holders) :
    c.protocol.ends false s () t :=
  ⟨⟨same.trans turns.symm, by rw [sayings, said, List.nil_append]⟩, holders⟩

/-- **Every call does to the timers what its kind says**, all before it first
waits. -/
theorem obeys_skipping (c : SkipCall) (live : s.live = true) :
    (skipping.program c).Obeys c.protocol c.protocol.ends false s s := by
  cases c with
  | skipFor delay =>
    refine ⟨true, ⟨⟨rfl, rfl⟩, rfl⟩, fun t _ _ => ?_⟩
    exact ⟨.taken rfl rfl, rfl⟩
  | skip on => exact obeys_skipAllPauses rfl rfl
  | pause =>
    refine ⟨true, ⟨⟨rfl, rfl⟩, rfl⟩, fun t _ _ => ?_⟩
    -- The request to pause itself is sent only once skipping was answered.
    refine ⟨true, ⟨⟨rfl, [_], rfl, fun other => absurd rfl other, rfl⟩, rfl⟩, fun u _ _ => ?_⟩
    exact ⟨.taken rfl rfl, rfl⟩
  | navigate =>
    change (holding navigated).Obeys _ _ false s s
    rw [obeys_holding, navigated, Flow.obeys_seq, Flow.obeys_modify, Flow.obeys_seq, Flow.obeys_look]
    by_cases pending : s.skipTimer.isSome = true
    · have said : SkipCall.navigate.sayings s.nextTicket s.timers =
          [.request s.nextTicket (.setSkipAllPauses false)] := if_pos pending
      rw [if_pos (show s.acquire.skipTimer.isSome = true from pending)]
      refine ⟨true, ⟨⟨rfl, ?_⟩, rfl⟩, fun t _ _ => ⟨.taken rfl rfl, rfl⟩⟩
      rw [said]
      rfl
    · have none : s.timers = ⟨none, s.timersSet⟩ := by
        rw [timers, Option.not_isSome_iff_eq_none.mp pending]
      rw [if_neg (show ¬ s.acquire.skipTimer.isSome = true from pending)]
      exact obeys_nothing none.symm (if_neg pending) rfl rfl rfl
  | expire token =>
    change (timerExpired token).Obeys _ _ false s s
    rw [timerExpired, Flow.obeys_seq, Flow.obeys_look]
    by_cases pending : s.skipTimer = some token
    · have counts : timerCounts token s = true := by simp [timerCounts, live, pending]
      rw [if_pos counts]
      exact obeys_skipAllPauses (if_pos pending) (if_pos pending)
    · have spent : ¬ timerCounts token s = true := by simp [timerCounts, pending]
      rw [if_neg spent]
      exact obeys_nothing (if_neg pending) (if_neg pending) rfl rfl rfl

end Calls

/-! ## After all moves -/

/-- What a call has said after others, if so many timers were set before
them: what it begins with, and more only if it asks for a pause. -/
def SkipCall.Said (before : Nat) (earlier : List SkipCall) (c : SkipCall) (said : List Signal) :
    Prop :=
  ∃ ticket later, said = later ++ c.sayings ticket (timersAfter before earlier) ∧
    (c ≠ .pause → later = [])

/-- **What is so after all moves** of a session and what was noted of its
calls. -/
structure SkipLedger (start : Session) (calls : List SkipCall)
    (a : Flow.Pool SkipCall Bool Session Unit (Nat × Signal)) : Prop where
  /-- The calls were begun. -/
  begun : a.begun = calls.length
  /-- Every call that waits holds the session. -/
  holders : a.state.holders = start.holders + a.waiting.length
  /-- The timers are what the calls have made of them. -/
  timers : a.state.timers = timersAfter start.timersSet calls
  /-- As long as a timer is pending, pauses are skipped. -/
  skips : a.state.skipTimer.isSome = true → a.state.lastSkip = some true
  /-- A call that waits was begun under its number. -/
  waiting : ∀ w ∈ a.waiting, w.place = true ∧ calls[w.number]? = some w.call
  /-- Every note is of a call. -/
  owned : ∀ e ∈ a.notes, e.1 < a.begun
  /-- What each call has said. -/
  said : ∀ (n : Nat) (c : SkipCall), calls[n]? = some c →
    c.Said start.timersSet (calls.take n) (Flow.Pool.noted n a.notes)

section Moves

variable {start : Session} {calls : List SkipCall}
  {a b : Flow.Pool SkipCall Bool Session Unit (Nat × Signal)} {c : SkipCall} {t : Session}

theorem lastSkip_grown {s : Session} {new : List Signal} (grown : t.journal = new ++ s.journal) :
    t.lastSkip = ((commandsOf new).findSome? Wire.Command.skips?).or s.lastSkip := by
  rw [lastSkip, grown, commandsOf, List.filterMap_append, List.findSome?_append]
  rfl

/-- A call leaves a timer pending only if pauses are skipped then. -/
theorem Begins.skips {s : Session} (h : Begins c s t)
    (before : s.skipTimer.isSome = true → s.lastSkip = some true)
    (pending : t.skipTimer.isSome = true) : t.lastSkip = some true := by
  have turned : t.skipTimer = (c.turns s.timers).pending := congrArg SkipTimers.pending h.timers
  rw [turned] at pending
  rw [lastSkip_grown h.journal]
  cases c with
  | skipFor delay => rfl
  | expire token =>
    by_cases counts : s.timers.pending = some token
    · simp [SkipCall.turns, counts] at pending
    · simp only [SkipCall.turns, if_neg counts] at pending
      simp only [SkipCall.sayings, if_neg counts]
      exact before pending
  | _ => simp [SkipCall.turns] at pending

theorem SkipLedger.noted_begun (h : SkipLedger start calls a) :
    Flow.Pool.noted a.begun a.notes = [] := by
  refine List.eq_nil_iff_forall_not_mem.2 fun x hx => ?_
  exact Nat.lt_irrefl _ (h.owned _ (Flow.Pool.mem_noted.1 hx))

/-- A call is begun. -/
theorem SkipLedger.begin (h : SkipLedger start calls a) (does : Begins c a.state b.state)
    (begun : b.begun = a.begun + 1)
    (notes : b.notes = skipping.note a.begun c a.state b.state ++ a.notes)
    (holders : b.state.holders = start.holders + b.waiting.length)
    (waiting : ∀ w ∈ b.waiting, w ∈ a.waiting ∨ w = ⟨a.begun, c, true⟩) :
    SkipLedger start (calls ++ [c]) b := by
  have new : skipping.note a.begun c a.state b.state =
      (c.sayings a.state.nextTicket a.state.timers).map (a.begun, ·) :=
    congrArg (List.map _) (saidSince_eq does.journal)
  rw [new] at notes
  constructor
  case begun => rw [begun, h.begun, List.length_append, List.length_singleton]
  case holders => exact holders
  case timers => rw [does.timers, h.timers, timersAfter_snoc]
  case skips => exact does.skips h.skips
  case waiting =>
    intro w hw
    rcases waiting w hw with old | rfl
    · obtain ⟨begun, call⟩ := h.waiting w old
      exact ⟨begun, List.getElem?_append_left (List.getElem?_eq_some_iff.1 call).1 ▸ call⟩
    · exact ⟨rfl, by simp [h.begun]⟩
  case owned =>
    intro e he
    rw [notes] at he
    rw [begun]
    rcases List.mem_append.1 he with here | old
    · obtain ⟨_, -, rfl⟩ := List.mem_map.1 here
      exact Nat.lt_succ_self _
    · exact Nat.lt_succ_of_lt (h.owned e old)
  case said =>
    intro n d hd
    have count := h.begun
    rw [notes]
    -- What is noted now is under the number of the call that begins, so nothing is added for
    -- the calls before it, and it has nothing yet.
    rcases Nat.lt_or_ge n calls.length with old | last
    · rw [List.getElem?_append_left old] at hd
      rw [List.take_append_of_le_length (Nat.le_of_lt old),
        Flow.Pool.noted_append_other (by omega : n ≠ a.begun)]
      exact h.said n d hd
    · obtain ⟨is, rfl⟩ : n = calls.length ∧ c = d := by
        have there := (List.getElem?_eq_some_iff.1 hd).1
        rw [List.length_append, List.length_singleton] at there
        obtain rfl : n = calls.length := by omega
        exact ⟨rfl, by simpa using hd⟩
      rw [is, ← h.begun, Flow.Pool.noted_append_self, h.noted_begun, h.begun,
        List.take_left, h.timers]
      exact ⟨_, [], List.append_nil _, fun _ => rfl⟩

/-- A call goes on, or ends. -/
theorem SkipLedger.carry (h : SkipLedger start calls a) {w : Flow.Standing SkipCall Bool}
    (there : w ∈ a.waiting) (does : GoesOn w.call a.state b.state) (begun : b.begun = a.begun)
    (notes : b.notes = skipping.note w.number w.call a.state b.state ++ a.notes)
    (holders : b.state.holders = start.holders + b.waiting.length)
    (waiting : ∀ v ∈ b.waiting, v ∈ a.waiting) : SkipLedger start calls b := by
  obtain ⟨timers, new, grown, silent, aside⟩ := does
  have call := (h.waiting w there).2
  have said : skipping.note w.number w.call a.state b.state = new.map (w.number, ·) :=
    congrArg (List.map _) (saidSince_eq grown)
  rw [said] at notes
  constructor
  case begun => exact begun.trans h.begun
  case holders => exact holders
  case timers => exact timers.trans h.timers
  case skips =>
    intro pending
    have same : b.state.skipTimer = a.state.skipTimer := congrArg SkipTimers.pending timers
    rw [lastSkip_grown grown, aside]
    exact h.skips (same ▸ pending)
  case waiting =>
    exact fun v hv => h.waiting v (waiting v hv)
  case owned =>
    intro e he
    rw [notes] at he
    rw [begun]
    rcases List.mem_append.1 he with here | old
    · obtain ⟨_, -, rfl⟩ := List.mem_map.1 here
      rw [h.begun]
      exact (List.getElem?_eq_some_iff.1 call).1
    · exact h.owned e old
  case said =>
    intro n d hd
    rw [notes]
    by_cases same : n = w.number
    · subst same
      obtain rfl : w.call = d := Option.some.inj (call.symm.trans hd)
      obtain ⟨ticket, later, is, none⟩ := h.said _ _ hd
      rw [Flow.Pool.noted_append_self, is, ← List.append_assoc]
      exact ⟨ticket, new ++ later, rfl, fun other => by rw [silent other, none other]; rfl⟩
    · rw [Flow.Pool.noted_append_other same]
      exact h.said n d hd

/-- **Every advance keeps the ledger.** -/
theorem SkipLedger.advance {past : List (Flow.Move SkipCall (Ticket × Reply))}
    {move : Flow.Move SkipCall (Ticket × Reply)} (h : SkipLedger start (Flow.callsOf past) a)
    (st : Flow.Pool.Advance skipping SkipCall.protocol false move a b) :
    SkipLedger start (Flow.callsOf (past ++ [move])) b := by
  have held := h.holders
  cases st with
  | @opens _ c q s does =>
    rw [Flow.callsOf_begin]
    cases q with
    | false => exact does.elim
    | true =>
      refine h.begin does.1 rfl rfl ?_ fun w hw => by simpa using hw
      have more : s.holders = a.state.holders + 1 := does.2
      simp only [List.length_append, List.length_singleton, Flow.Pool.reach]
      omega
  | @passes _ c _ s does =>
    rw [Flow.callsOf_begin]
    exact h.begin does.1 rfl rfl (does.2.trans held) fun w hw => .inl hw
  | @goes _ l r w q s was does =>
    have there : w ∈ a.waiting := by simp [was]
    rw [Flow.callsOf_carry]
    have begun := (h.waiting w there).1
    rw [begun] at does
    cases q with
    | false => exact does.elim
    | true =>
      -- The phase of a call that has begun does not change, so the call is where it was.
      have stays : ({ w with place := true } : Flow.Standing SkipCall Bool) = w := by rw [← begun]
      refine h.carry there does.1 rfl rfl ?_ fun v hv => ?_
      · have same : s.holders = a.state.holders := does.2
        rw [was] at held
        simp only [List.length_append, List.length_cons, Flow.Pool.reach] at held ⊢
        omega
      · rw [was]
        exact stays ▸ hv
  | @closes _ l r w _ s was does =>
    have there : w ∈ a.waiting := by simp [was]
    rw [Flow.callsOf_carry]
    rw [(h.waiting w there).1] at does
    refine h.carry there does.1 rfl rfl ?_ fun v hv => ?_
    · have fewer : s.holders = a.state.holders - 1 := does.2
      rw [was] at held
      simp only [List.length_append, List.length_cons, Flow.Pool.reach] at held ⊢
      omega
    · rw [was]
      rcases List.mem_append.1 hv with hl | hr
      · exact List.mem_append_left _ hl
      · exact List.mem_append_right _ (.tail _ hr)
  | stays => exact (Flow.callsOf_carry past _).symm ▸ h
  | outside =>
    rw [Flow.callsOf_outside]
    exact ⟨h.begun, h.holders, h.timers, h.skips, h.waiting, h.owned, h.said⟩

end Moves

/-- **Timers are kept** in a session after moves. -/
structure TimersKept (start : Session) (moves : List (Flow.Move SkipCall (Ticket × Reply))) :
    Prop where
  /-- As long as a timer is pending, the backend was last told to skip
  pauses. -/
  skips : (afterSkips start moves).state.skipTimer.isSome = true →
    (afterSkips start moves).state.lastSkip = some true
  /-- A call that arms sets one timer, under the next token. -/
  arms : ∀ (n delay : Nat), (Flow.callsOf moves)[n]? = some (.skipFor delay) →
    ∃ ticket, Flow.Pool.noted n (afterSkips start moves).notes =
      [.timer delay (tokenAfter start.timersSet ((Flow.callsOf moves).take n)),
        .request ticket (.setSkipAllPauses true)]
  /-- Each has a token of its own. -/
  apart : ∀ (m n delay delay' : Nat), (Flow.callsOf moves)[m]? = some (.skipFor delay) →
    (Flow.callsOf moves)[n]? = some (.skipFor delay') →
    tokenAfter start.timersSet ((Flow.callsOf moves).take m) =
      tokenAfter start.timersSet ((Flow.callsOf moves).take n) → m = n
  /-- A timer that counts when it runs out tells the backend, once, to skip
  pauses no longer. -/
  ends : ∀ (n token : Nat), (Flow.callsOf moves)[n]? = some (.expire token) →
    TimerCounts start.timersSet ((Flow.callsOf moves).take n) token →
    ∃ ticket, Flow.Pool.noted n (afterSkips start moves).notes =
      [.request ticket (.setSkipAllPauses false)]
  /-- One that does not count says nothing. -/
  ignored : ∀ (n token : Nat), (Flow.callsOf moves)[n]? = some (.expire token) →
    ¬ TimerCounts start.timersSet ((Flow.callsOf moves).take n) token →
    Flow.Pool.noted n (afterSkips start moves).notes = []
  /-- However often the timer of a token runs out, it says something only
  once. -/
  once : ∀ (m n token : Nat), (Flow.callsOf moves)[m]? = some (.expire token) →
    (Flow.callsOf moves)[n]? = some (.expire token) →
    Flow.Pool.noted m (afterSkips start moves).notes ≠ [] →
    Flow.Pool.noted n (afterSkips start moves).notes ≠ [] → m = n

section Result

variable {start : Session} {moves : List (Flow.Move SkipCall (Ticket × Reply))}

/-- The ledger of the shadow is that of the session. -/
theorem exists_skipLedger (live : start.live = true) (unset : start.skipTimer = none)
    (moves : List (Flow.Move SkipCall (Ticket × Reply))) :
    ∃ a : Flow.Pool SkipCall Bool Session Unit (Nat × Signal),
      a.state = (afterSkips start moves).state ∧ a.notes = (afterSkips start moves).notes ∧
        SkipLedger start (Flow.callsOf moves) a := by
  have starts : Flow.Pool.Shadows SkipCall.protocol (afterSkips start []) { state := start } :=
    ⟨rfl, rfl, .nil, rfl, rfl⟩
  have first : SkipLedger start []
      ({ state := start } : Flow.Pool SkipCall Bool Session Unit (Nat × Signal)) := by
    refine ⟨rfl, rfl, ?_, ?_, ?_, ?_, ?_⟩
    · rw [timers, unset]
      rfl
    all_goals simp [unset]
  have held : ∀ (past : List (Flow.Move SkipCall (Ticket × Reply))) a,
      SkipLedger start (Flow.callsOf past) a → a.state.live = true := by
    intro past a h
    have := h.holders
    simp only [Session.live, decide_eq_true_eq] at live ⊢
    omega
  obtain ⟨a, follows, h⟩ := Flow.Pool.play_advances (fun past a h _ => held past a h)
    (fun c s live => obeys_skipping c live) (fun _ _ _ _ h _ step => h.advance step) starts first
    moves
  exact ⟨a, follows.state, follows.notes, h⟩

/-- **Timers are kept**, whatever is called, runs out and is answered, in any
order. -/
theorem timers_kept (live : start.live = true) (unset : start.skipTimer = none)
    (moves : List (Flow.Move SkipCall (Ticket × Reply))) : TimersKept start moves := by
  obtain ⟨a, state, notes, h⟩ := exists_skipLedger live unset moves
  have said : ∀ (n : Nat) (c : SkipCall), (Flow.callsOf moves)[n]? = some c → c ≠ .pause →
      ∃ ticket, Flow.Pool.noted n (afterSkips start moves).notes =
        c.sayings ticket (timersAfter start.timersSet ((Flow.callsOf moves).take n)) := by
    intro n c call other
    obtain ⟨ticket, later, is, none⟩ := h.said n c call
    rw [none other, notes] at is
    exact ⟨ticket, is⟩
  -- What the session sees of its timers is what the calls have made of them, so the question
  -- whether a timer is pending there can be asked of the calls.
  have ignored : ∀ (n token : Nat), (Flow.callsOf moves)[n]? = some (.expire token) →
      ¬ TimerCounts start.timersSet ((Flow.callsOf moves).take n) token →
      Flow.Pool.noted n (afterSkips start moves).notes = [] := by
    intro n token call spent
    obtain ⟨ticket, is⟩ := said n _ call (by simp)
    rw [is]
    exact if_neg fun pending => spent ((timersAfter_pending _ _ _).1 pending)
  constructor
  case skips => exact state ▸ h.skips
  case arms =>
    intro n delay call
    obtain ⟨ticket, is⟩ := said n _ call (by simp)
    rw [is]
    simp only [SkipCall.sayings, timersAfter_set]
    exact ⟨ticket, rfl⟩
  case apart =>
    intro m n delay delay' first second same
    rcases Nat.lt_trichotomy m n with before | is | after
    · exact absurd same (Nat.ne_of_lt (tokenAfter_lt first before))
    · exact is
    · exact absurd same.symm (Nat.ne_of_lt (tokenAfter_lt second after))
  case ends =>
    intro n token call counts
    obtain ⟨ticket, is⟩ := said n _ call (by simp)
    exact ⟨ticket, is.trans (if_pos ((timersAfter_pending _ _ _).2 counts))⟩
  case ignored => exact ignored
  case once =>
    intro m n token first second saysFirst saysSecond
    have counted : ∀ n : Nat, (Flow.callsOf moves)[n]? = some (.expire token) →
        Flow.Pool.noted n (afterSkips start moves).notes ≠ [] →
        TimerCounts start.timersSet ((Flow.callsOf moves).take n) token :=
      fun n call speaks => not_not.1 fun spent => speaks (ignored n token call spent)
    -- Once a timer that counted has run out its token is retired for good.
    have twice : ∀ m n : Nat, m < n → (Flow.callsOf moves)[m]? = some (.expire token) →
        TimerCounts start.timersSet ((Flow.callsOf moves).take n) token →
        ¬ TimerCounts start.timersSet ((Flow.callsOf moves).take m) token := by
      intro m n before call counts
      obtain ⟨between, split⟩ := take_eq_split call before
      exact (split ▸ counts).not_before_expired
    rcases Nat.lt_trichotomy m n with before | is | after
    · have spent := twice m n before first (counted n second saysSecond)
      exact absurd (counted m first saysFirst) spent
    · exact is
    · have spent := twice n m after second (counted m first saysFirst)
      exact absurd (counted n second saysSecond) spent

end Result

/-- Pauses are skipped for one second and then for two. The first timer runs
out, and the second twice, once before and once after the target is asked
to pause. -/
def skippedTwice : List (Flow.Move SkipCall (Ticket × Reply)) :=
  [.begin (.skipFor 1000), .begin (.skipFor 2000), .begin (.expire 1), .outside (1, .ok (.obj [])),
    .begin (.expire 2), .carry 1, .begin .pause, .outside (0, .error .closed), .carry 0,
    .begin (.expire 2)]

/-- Only the second timer counts, and it once. -/
theorem timers_kept_skippedTwice :
    let start := connect 0 (.root ⟨0, "page", .frame⟩) {}
    start.live = true ∧ start.skipTimer = none ∧ TimersKept start skippedTwice ∧
      (afterSkips start skippedTwice).notes.map (·.1) = [4, 3, 1, 1, 0, 0] :=
  ⟨rfl, rfl, timers_kept rfl rfl skippedTwice, rfl⟩

end Session

end DebugClient
