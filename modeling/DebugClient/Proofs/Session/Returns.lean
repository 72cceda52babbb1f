import DebugClient.Proofs.Flow.Records
import DebugClient.Proofs.Session.Scopes
import DebugClient.Session.Evaluation
/-!
# Returns — replacing the value a frame is about to return

To replace the value, an expression is evaluated in the frame, and then the
backend is told to return the result. Calls may overlap, the answers come in in
any order, and whatever else leaves the value as it is may happen meanwhile
(`Elsewhere`).

What a call has said tells where it stands (`Returning`) and how it has ended
(`Returned`). From one wait to the next that stays so, and the value changes only
where a call ends with one (`Leg`). Every move keeps it (`Replaced.step`), and
from that comes what holds of all of them (`return_value_replaced`).
-/

namespace DebugClient

/-- The request that evaluates what a frame is to return. -/
def Signal.evaluates (f : CallFrame) (expression : String) (ticket : Ticket) : Signal :=
  .request ticket (.evaluateOnCallFrame (f.returning expression))

/-- The request to return an object. -/
def Signal.returns (o : Wire.RemoteObject) (ticket : Ticket) : Signal :=
  .request ticket (.setReturnValue (Primitive.argumentOfRemote o))

namespace Session

/-! ## The system -/

/-- **What else may happen**: anything that leaves the value the frame is about
to return as it is. The answers that come in are those of the backend. -/
structure Elsewhere (answers : Ticket → Reply) (f : CallFrame) where
  /-- What it does. -/
  change : Session → Session
  /-- The frame is about to return what it was. -/
  returns : ∀ s, (change s).returnValue f = s.returnValue f
  /-- Tickets are not given out again. -/
  tickets : ∀ s, s.nextTicket ≤ (change s).nextTicket
  /-- An answer is one that was there, or the backend's. -/
  replies : ∀ s, ∀ r ∈ (change s).replies, r ∈ s.replies ∨ r.2 = answers r.1

/-- The backend answers a request. -/
def Elsewhere.answer {answers : Ticket → Reply} {f : CallFrame} (ticket : Ticket) :
    Elsewhere answers f where
  change s := s.answer ticket (answers ticket)
  returns _ := rfl
  tickets _ := Nat.le_refl _
  replies _ r there := by
    rcases List.mem_cons.1 there with rfl | there
    · exact .inr rfl
    · exact .inl there

/-- Calls that replace the value of a frame by that of an expression. What
each of them says is noted. -/
def replacing (f : CallFrame) (answers : Ticket → Reply) :
    Flow.System String (Elsewhere answers f) Session (Option Value) (Nat × Signal) where
  program := f.setReturnValue
  outside event := event.change
  note number _ before after := (after.saidSince before.journal.length).map (number, ·)

/-- Calls under way that replace the value of a frame, and those that have
ended. -/
abbrev ReturnPool := Flow.Pool String (Work (Option Value)) Session (Option Value) (Nat × Signal)

/-- A session after calls and whatever else happens, in any order. -/
def afterReturns (f : CallFrame) (answers : Ticket → Reply) (start : Session)
    (moves : List (Flow.Move String (Elsewhere answers f))) : ReturnPool :=
  Flow.Pool.play (replacing f answers) { state := start } moves

/-- What a call has said, newest first. -/
def ReturnPool.said (pool : ReturnPool) (number : Nat) : List Signal :=
  Flow.Pool.noted number pool.notes

/-- The values calls have given, newest first. -/
def ReturnPool.given (pool : ReturnPool) : List Value := pool.ended.filterMap (·.place)

/-- What else has happened in a session. -/
def meanwhile {answers : Ticket → Reply} {f : CallFrame} (start : Session) :
    List (Flow.Move String (Elsewhere answers f)) → Session
  | [] => start
  | .outside event :: rest => meanwhile (event.change start) rest
  | _ :: rest => meanwhile start rest

/-! ## Where a call stands -/

section Calls

variable {answers : Ticket → Reply} {mark : Ticket} {f : CallFrame} {original : Option Value}
  {expression : String} {said : List Signal} {s : Session}

/-- An expression gave an object and threw nothing. -/
def Gave (answers : Ticket → Reply) (ticket : Ticket) (o : Wire.RemoteObject) : Prop :=
  ∃ r, evaluated? (answers ticket) = some r ∧ r.exceptionDetails.isSome = false ∧ r.result = o

/-- **The expression was evaluated and its result accepted**: all that was said
is the two requests, newest first. -/
def Accepted (answers : Ticket → Reply) (f : CallFrame) (expression : String)
    (said : List Signal) (o : Wire.RemoteObject) : Prop :=
  ∃ first second, said = [.returns o second, .evaluates f expression first] ∧
    Gave answers first o ∧ accepts (answers second) = true

/-- What is done once the request to return a result is answered. -/
def confirm (f : CallFrame) (o : Wire.RemoteObject) : Except LinkError Unit → Work (Option Value)
  | .error _ => return none
  | .ok _ => do
    let value ← Work.mint (Value.ofRemote o)
    Flow.modify (putReturnValue f value)
    return some value

/-- What is done once the expression is evaluated. -/
def replaceBy (f : CallFrame) : Except LinkError Wire.EvaluateReply → Work (Option Value)
  | .error _ => return none
  | .ok r =>
    if r.exceptionDetails.isSome then return none
    else Work.command (.setReturnValue (Primitive.argumentOfRemote r.result)) >>= confirm f r.result

/-- **Where a call stands**, by what it has said: it waits for the answer to its
newest request. -/
inductive Returning (answers : Ticket → Reply) (mark : Ticket) (f : CallFrame)
    (expression : String) : List Signal → Work (Option Value) → Prop where
  /-- The expression is being evaluated. -/
  | evaluation {ticket : Ticket} (asked : mark ≤ ticket) :
      Returning answers mark f expression [.evaluates f expression ticket]
        (Work.reply ticket (.evaluateOnCallFrame (f.returning expression)) Wire.Reply.evaluation >>=
          replaceBy f)
  /-- The backend is to return the result. -/
  | acceptance {first ticket : Ticket} {o : Wire.RemoteObject} (asked : mark ≤ ticket)
      (gave : Gave answers first o) :
      Returning answers mark f expression [.returns o ticket, .evaluates f expression first]
        (Work.reply ticket (.setReturnValue (Primitive.argumentOfRemote o))
          Wire.Reply.acknowledged >>= confirm f o)

/-- **How a call has ended**, by what it has said. At first the frame was about
to return `original`, if anything. -/
inductive Returned (answers : Ticket → Reply) (f : CallFrame) (original : Option Value)
    (expression : String) : List Signal → Option Value → Prop where
  /-- The frame is not about to return. -/
  | unasked (idle : original = none) : Returned answers f original expression [] none
  /-- The expression could not be evaluated, or threw. -/
  | failed {ticket : Ticket} (nothing : ∀ o, ¬ Gave answers ticket o) :
      Returned answers f original expression [.evaluates f expression ticket] none
  /-- The result was refused. -/
  | refused {first second : Ticket} {o : Wire.RemoteObject} (gave : Gave answers first o)
      (is : accepts (answers second) = false) :
      Returned answers f original expression [.returns o second, .evaluates f expression first] none
  /-- The result was accepted. -/
  | accepted {first second : Ticket} {o : Wire.RemoteObject} (gave : Gave answers first o)
      (is : accepts (answers second) = true) (key : Key) :
      Returned answers f original expression [.returns o second, .evaluates f expression first]
        (some (Value.ofRemote o key).1)

/-! ## From one wait to the next -/

/-- **What a call does** between two waits, when it has said something. -/
structure Leg (answers : Ticket → Reply) (mark : Ticket) (f : CallFrame)
    (original : Option Value) (expression : String) (said : List Signal) (s : Session)
    (r : Work (Option Value) × Session) : Prop where
  /-- If it says more it may wait again; else it ends. -/
  lands : ∃ new, r.2.journal = new ++ s.journal ∧
    (∀ v, r.1.result? = some v → Returned answers f original expression (new ++ said) v) ∧
    (r.1.result? = none → new ≠ [] ∧ Returning answers mark f expression (new ++ said) r.1)
  /-- The value is replaced by the one it ends with, if it does. -/
  returns : r.2.returnValue f = r.1.result?.join.or (s.returnValue f)
  /-- Tickets are not given out again. -/
  tickets : s.nextTicket ≤ r.2.nextTicket
  /-- It brings no answers in. -/
  replies : ∀ a ∈ r.2.replies, a ∈ s.replies

/-- A call is a look at the frame, an evaluation and a command. -/
theorem setReturnValue_eq (f : CallFrame) (expression : String) :
    f.setReturnValue expression = Flow.look (returnValue · f) >>= fun value =>
      if value.isNone then pure none
      else Work.call (.evaluateOnCallFrame (f.returning expression)) Wire.Reply.evaluation >>=
        replaceBy f := by
  rw [CallFrame.setReturnValue]
  refine bind_congr fun value => ?_
  split
  · rfl
  refine bind_congr fun reply => ?_
  cases reply with
  | error e => rfl
  | ok r =>
    dsimp only [replaceBy]
    split
    · rfl
    refine bind_congr fun reply => ?_
    cases reply with
    | error e => rfl
    | ok u => rfl

theorem toWait_setReturnValue (f : CallFrame) (expression : String) (s : Session) :
    (f.setReturnValue expression).toWait s =
      if (s.returnValue f).isNone then (.done none, s)
      else (Work.reply s.nextTicket (.evaluateOnCallFrame (f.returning expression))
          Wire.Reply.evaluation >>= replaceBy f,
        (s.issue (.evaluateOnCallFrame (f.returning expression))).2) := by
  rw [setReturnValue_eq]
  change Flow.toWait (if (s.returnValue f).isNone then _ else _) s = _
  split <;> rfl

/-- A call goes on from its answer. -/
theorem pass_reply {α β : Type} (ticket : Ticket) (command : Wire.Command) (read : Json → Option α)
    (next : Except LinkError α → Work β) (s : Session) :
    (Work.reply ticket command read >>= next).pass s =
      (next (Work.decode command read (s.takeReply ticket).1)).toWait (s.takeReply ticket).2 := rfl

/-- It waits for nothing else. -/
theorem moves_reply {α β : Type} (ticket : Ticket) (command : Wire.Command)
    (read : Json → Option α) (next : Except LinkError α → Work β) (s : Session) :
    (Work.reply ticket command read >>= next).moves s = s.isAnswered ticket := rfl

theorem returnValue_putReturnValue (f : CallFrame) (v : Value) (s : Session) :
    (putReturnValue f v s).returnValue f = some v := by
  simp [putReturnValue, returnValue]

/-- A call ends with nothing once it has taken its answer. -/
theorem Leg.stops (ended : Returned answers f original expression said none) (ticket : Ticket) :
    Leg answers mark f original expression said s (.done none, (s.takeReply ticket).2) where
  lands := ⟨[], rfl, fun _ is => Option.some.inj is ▸ ended, nofun⟩
  returns := rfl
  tickets := Nat.le_refl _
  replies _ there := List.mem_of_mem_filter there

theorem result?_reply {α β : Type} (ticket : Ticket) (command : Wire.Command)
    (read : Json → Option α) (next : Except LinkError α → Work β) :
    (Work.reply ticket command read >>= next).result? = none := rfl

/-- A call waits once it has sent a request. -/
theorem Leg.asks {α : Type} {command : Wire.Command} {read : Json → Option α}
    {next : Except LinkError α → Work (Option Value)} {t : Session}
    (waits : Returning answers mark f expression (.request t.nextTicket command :: said)
      (Work.reply t.nextTicket command read >>= next))
    (same : t = { s with replies := t.replies }) (replies : ∀ a ∈ t.replies, a ∈ s.replies) :
    Leg answers mark f original expression said s
      (Work.reply t.nextTicket command read >>= next, (t.issue command).2) := by
  refine ⟨⟨[.request t.nextTicket command], ?_, fun v is => ?_, fun _ => ⟨?_, waits⟩⟩, ?_, ?_,
    replies⟩
  · rw [same]
    rfl
  · rw [result?_reply] at is
    cases is
  · exact List.cons_ne_nil _ _
  · rw [result?_reply, same]
    rfl
  · rw [same]
    exact Nat.le_succ _

/-- A call begins. -/
theorem Leg.begins (tickets : mark ≤ s.nextTicket)
    (idle : s.returnValue f = none → original = none) :
    Leg answers mark f original expression [] s ((f.setReturnValue expression).toWait s) := by
  rw [toWait_setReturnValue]
  split
  · rename_i nothing
    have ended : Returned answers f original expression [] none :=
      .unasked (idle (Option.isNone_iff_eq_none.1 nothing))
    exact ⟨⟨[], rfl, fun _ is => Option.some.inj is ▸ ended, nofun⟩, rfl, Nat.le_refl _,
      fun _ there => there⟩
  · exact Leg.asks (.evaluation tickets) rfl fun _ there => there

/-- The expression was evaluated. -/
theorem Leg.evaluated {ticket : Ticket} (asked : mark ≤ ticket)
    (truthful : Truthful answers mark s) (tickets : mark ≤ s.nextTicket)
    (answered : s.isAnswered ticket = true) :
    Leg answers mark f original expression [.evaluates f expression ticket] s
      ((Work.reply ticket (.evaluateOnCallFrame (f.returning expression)) Wire.Reply.evaluation >>=
        replaceBy f).pass s) := by
  rw [pass_reply, truthful.taken asked answered]
  obtain ⟨e, is, gave⟩ | ⟨r, is, gave⟩ :=
    decode_evaluation (.evaluateOnCallFrame (f.returning expression)) (answers ticket)
  · rw [is]
    exact Leg.stops (.failed fun o ⟨r, gave', _⟩ => nomatch gave.symm.trans gave') ticket
  · rw [is, replaceBy]
    by_cases threw : r.exceptionDetails.isSome = true
    · rw [if_pos threw]
      refine Leg.stops (.failed fun o ⟨r', gave', quiet, _⟩ => ?_) ticket
      obtain rfl := Option.some.inj (gave.symm.trans gave')
      exact absurd threw (Bool.eq_false_iff.1 quiet)
    · rw [if_neg threw]
      have quiet := Bool.eq_false_iff.2 threw
      exact Leg.asks (t := (s.takeReply ticket).2) (.acceptance tickets ⟨r, gave, quiet, rfl⟩)
        rfl fun _ there => List.mem_of_mem_filter there

/-- The result was accepted or refused. -/
theorem Leg.confirmed {first ticket : Ticket} {o : Wire.RemoteObject} (asked : mark ≤ ticket)
    (gave : Gave answers first o) (truthful : Truthful answers mark s)
    (answered : s.isAnswered ticket = true) :
    Leg answers mark f original expression [.returns o ticket, .evaluates f expression first] s
      ((Work.reply ticket (.setReturnValue (Primitive.argumentOfRemote o))
        Wire.Reply.acknowledged >>= confirm f o).pass s) := by
  rw [pass_reply, truthful.taken asked answered]
  obtain ⟨e, is, refused⟩ | ⟨is, accepted⟩ :=
    decode_acknowledged (.setReturnValue (Primitive.argumentOfRemote o)) (answers ticket)
  · rw [is]
    exact Leg.stops (.refused gave refused) ticket
  · rw [is]
    refine ⟨⟨[], rfl, fun v is => ?_, nofun⟩, ?_, Nat.le_refl _,
      fun _ there => List.mem_of_mem_filter there⟩
    · exact Option.some.inj is ▸ .accepted gave accepted s.nextKey
    · exact returnValue_putReturnValue f _ _

/-- A call that is under way goes on. -/
theorem Returning.pass {m : Work (Option Value)}
    (stands : Returning answers mark f expression said m) (truthful : Truthful answers mark s)
    (tickets : mark ≤ s.nextTicket) (ready : m.moves s = true) :
    Leg answers mark f original expression said s (m.pass s) := by
  cases stands with
  | evaluation asked => exact .evaluated asked truthful tickets ready
  | acceptance asked gave => exact .confirmed asked gave truthful ready

/-- A call that is under way waits for the answer to its newest request. -/
theorem Returning.waits {m : Work (Option Value)}
    (stands : Returning answers mark f expression said m) :
    ∃ ticket command earlier, said = .request ticket command :: earlier ∧ earlier.length ≤ 1 ∧
      ∀ s, m.moves s = s.isAnswered ticket := by
  cases stands with
  | evaluation asked => exact ⟨_, _, [], rfl, Nat.zero_le _, moves_reply _ _ _ _⟩
  | acceptance asked gave => exact ⟨_, _, [_], rfl, Nat.le_refl _, moves_reply _ _ _ _⟩

/-- Where both requests were sent, the evaluation among them is the first. -/
theorem not_gave_of_mem {o o' : Wire.RemoteObject} {first second ticket : Ticket} {other : String}
    (there : Signal.evaluates f other ticket ∈ [.returns o second, .evaluates f expression first])
    (nothing : ∀ o, ¬ Gave answers ticket o) : ¬ Gave answers first o' := by
  rcases List.mem_pair.1 there with is | is
  · cases is
  · simp only [Signal.evaluates, Signal.request.injEq] at is
    exact is.1 ▸ nothing o'

/-- A call that is under way has said no more than an evaluation that failed. -/
theorem Returning.of_failed {m : Work (Option Value)} {ticket : Ticket} {other : String}
    (stands : Returning answers mark f expression said m)
    (there : Signal.evaluates f other ticket ∈ said) (nothing : ∀ o, ¬ Gave answers ticket o) :
    said = [.evaluates f other ticket] := by
  cases stands with
  | evaluation => exact congrArg ([·]) (List.mem_singleton.1 there).symm
  | acceptance _ gave => exact absurd gave (not_gave_of_mem there nothing)

/-- One that has ended has said no more, either. -/
theorem Returned.of_failed {v : Option Value} {ticket : Ticket} {other : String}
    (ended : Returned answers f original expression said v)
    (there : Signal.evaluates f other ticket ∈ said) (nothing : ∀ o, ¬ Gave answers ticket o) :
    said = [.evaluates f other ticket] := by
  cases ended with
  | unasked => exact absurd there List.not_mem_nil
  | failed => exact congrArg ([·]) (List.mem_singleton.1 there).symm
  | refused gave => exact absurd gave (not_gave_of_mem there nothing)
  | accepted gave => exact absurd gave (not_gave_of_mem there nothing)

/-- Values are given exactly where a result was accepted. -/
theorem Returned.isSome_iff {v : Option Value}
    (ended : Returned answers f original expression said v) :
    v.isSome = true ↔ ∃ o, Accepted answers f expression said o := by
  cases ended with
  | unasked => simp [Accepted]
  | failed => simp [Accepted]
  | accepted gave is key => exact iff_of_true rfl ⟨_, _, _, rfl, gave, is⟩
  | refused gave is =>
    refine iff_of_false nofun ?_
    rintro ⟨o, first, second, same, -, accepted⟩
    simp only [Signal.returns, List.cons.injEq, Signal.request.injEq] at same
    rw [← same.1.1, is] at accepted
    cases accepted

end Calls

/-! ## Every run -/

section Runs

variable {answers : Ticket → Reply} {f : CallFrame} {start : Session} {pool b : ReturnPool}

/-- What is so of every pool. -/
structure Replaced (answers : Ticket → Reply) (f : CallFrame) (start : Session)
    (pool : ReturnPool) : Prop where
  /-- What was said of every call tells where it stands, or how it has ended. -/
  logged : Flow.Pool.Logged (Returning answers start.nextTicket f)
    (Returned answers f (start.returnValue f)) pool
  /-- The frame returns what was given last. -/
  returns : pool.state.returnValue f = pool.given.head?.or (start.returnValue f)
  /-- Tickets are not given out again. -/
  tickets : start.nextTicket ≤ pool.state.nextTicket
  /-- Answers are the backend's. -/
  truthful : Truthful answers start.nextTicket pool.state

/-- A leg of a call keeps what is so. -/
theorem Replaced.reach (h : Replaced answers f start pool) {expression : String}
    {said : List Signal} {r : Work (Option Value) × Session}
    (leg : Leg answers start.nextTicket f (start.returnValue f) expression said pool.state r)
    (logged : Flow.Pool.Logged (Returning answers start.nextTicket f)
      (Returned answers f (start.returnValue f)) b)
    (state : b.state = r.2) (given : b.given = r.1.result?.join.toList ++ pool.given) :
    Replaced answers f start b where
  logged := logged
  returns := by
    rw [state, leg.returns, h.returns, given, List.head?_append, Option.head?_toList,
      Option.or_assoc]
  tickets := state ▸ Nat.le_trans h.tickets leg.tickets
  truthful := state ▸ fun a there => h.truthful a (leg.replies a there)

/-- The value of a call that ends is given last. -/
theorem given_append {number : Nat} {expression : String} {v : Option (Option Value)}
    (ended : b.ended = (v.map (⟨number, expression, ·⟩)).toList ++ pool.ended) :
    b.given = v.join.toList ++ pool.given := by
  rw [ReturnPool.given, ended, List.filterMap_append]
  refine congrArg (· ++ pool.given) ?_
  cases v with
  | none => rfl
  | some v => cases v <;> rfl

theorem Replaced.opened (h : Replaced answers f start pool) (expression : String) :
    Replaced answers f start
      (pool.opened (replacing f answers) expression
        ((f.setReturnValue expression).toWait pool.state)) := by
  have idle : pool.state.returnValue f = none → start.returnValue f = none := fun none =>
    (Option.or_eq_none_iff.1 (h.returns.symm.trans none)).2
  have leg : Leg answers start.nextTicket f (start.returnValue f) expression [] pool.state _ :=
    .begins h.tickets idle
  generalize (f.setReturnValue expression).toWait pool.state = r at leg
  obtain ⟨new, journal, ends, waits⟩ := leg.lands
  rw [List.append_nil] at ends waits
  refine h.reach leg (h.logged.opened ?_ ends fun none => (waits none).2) ?_ ?_
  · exact congrArg (List.map _) (saidSince_eq journal)
  · exact Flow.Pool.state_opened
  · exact given_append Flow.Pool.ended_opened

theorem Replaced.moved (h : Replaced answers f start pool) {place : Nat}
    {w : Flow.Standing String (Work (Option Value))} (there : pool.waiting[place]? = some w)
    (ready : w.place.moves pool.state = true) :
    Replaced answers f start
      (pool.moved (replacing f answers) place w (w.place.pass pool.state)) := by
  have stands := h.logged.waiting w (List.mem_of_getElem? there)
  have leg : Leg answers start.nextTicket f (start.returnValue f) w.call _ pool.state _ :=
    stands.pass h.truthful h.tickets ready
  generalize w.place.pass pool.state = r at leg
  obtain ⟨new, journal, ends, waits⟩ := leg.lands
  refine h.reach leg (h.logged.moved there ?_ ends fun none => (waits none).2) ?_ ?_
  · exact congrArg (List.map _) (saidSince_eq journal)
  · exact Flow.Pool.state_moved
  · exact given_append Flow.Pool.ended_moved

/-- Whatever else happens keeps what is so. -/
theorem Replaced.elsewhere (h : Replaced answers f start pool) (event : Elsewhere answers f) :
    Replaced answers f start { pool with state := event.change pool.state } where
  logged := ⟨⟨h.logged.numbered.apart, h.logged.numbered.below⟩, h.logged.owned, h.logged.waiting,
    h.logged.ended⟩
  returns := (event.returns _).trans h.returns
  tickets := Nat.le_trans h.tickets (event.tickets _)
  truthful a there asked := (event.replies _ a there).elim (h.truthful a · asked) id

/-- **A move** keeps what is so. -/
theorem Replaced.step (h : Replaced answers f start pool)
    (move : Flow.Move String (Elsewhere answers f)) :
    Replaced answers f start (pool.step (replacing f answers) move) := by
  cases move with
  | begin expression => exact h.opened expression
  | carry place =>
    rw [Flow.Pool.step]
    split
    · rename_i w there
      split
      · rename_i ready
        exact h.moved there ready
      · exact h
    · exact h
  | outside event => exact h.elsewhere event

/-- **All moves** keep it. -/
theorem replaced_after (unasked : ∀ r ∈ start.replies, r.1 < start.nextTicket)
    (moves : List (Flow.Move String (Elsewhere answers f))) :
    Replaced answers f start (afterReturns f answers start moves) := by
  have first : Replaced answers f start { state := start } := by
    refine ⟨.empty rfl rfl rfl, rfl, Nat.le_refl _, fun r there asked => ?_⟩
    exact absurd (unasked r there) (Nat.not_lt.2 asked)
  have all : ∀ pool, Replaced answers f start pool →
      Replaced answers f start (pool.play (replacing f answers) moves) := by
    induction moves with
    | nil => exact fun _ h => h
    | cons move rest ih => exact fun _ h => ih _ (h.step move)
  exact all _ first

/-- A call that was answered ends, or says one more. It never says more than
two. -/
theorem Replaced.progress (h : Replaced answers f start pool) {place : Nat}
    {w : Flow.Standing String (Work (Option Value))} (there : pool.waiting[place]? = some w) :
    ∃ ticket command earlier, pool.said w.number = .request ticket command :: earlier ∧
      (pool.state.isAnswered ticket = true →
        let next : ReturnPool := pool.step (replacing f answers) (.carry place)
        (∃ v, next.ended = ⟨w.number, w.call, v⟩ :: pool.ended) ∨
          earlier = [] ∧ ∃ more, next.said w.number = more :: pool.said w.number) := by
  have stands := h.logged.waiting w (List.mem_of_getElem? there)
  obtain ⟨ticket, command, earlier, said, short, waits⟩ := stands.waits
  refine ⟨ticket, command, earlier, said, fun answered => ?_⟩
  have ready : w.place.moves pool.state = true := (waits _).trans answered
  have carried : pool.step (replacing f answers) (.carry place) =
      pool.moved (replacing f answers) place w (w.place.pass pool.state) := by
    rw [Flow.Pool.step, there]
    exact if_pos ready
  have leg : Leg answers start.nextTicket f (start.returnValue f) w.call _ pool.state _ :=
    stands.pass h.truthful h.tickets ready
  obtain ⟨new, journal, -, again⟩ := leg.lands
  intro next
  cases is : (w.place.pass pool.state).1.result? with
  | some v =>
    refine .inl ⟨v, ?_⟩
    change (pool.step (replacing f answers) (.carry place)).ended = _
    rw [carried, Flow.Pool.ended_moved, is]
    rfl
  | none =>
    have more : next.said w.number = new ++ pool.said w.number := by
      change Flow.Pool.noted w.number (pool.step (replacing f answers) (.carry place)).notes = _
      rw [carried, Flow.Pool.notes_moved]
      exact (congrArg _ (congrArg (· ++ pool.notes) (congrArg (List.map _)
        (saidSince_eq journal)))).trans (Flow.Pool.noted_append_self _ _ _)
    obtain ⟨some, stands'⟩ := again is
    obtain ⟨_, _, before, said', short', -⟩ := stands'.waits
    -- All that is said is at most two, and the call had said one already.
    have lengths := congrArg List.length said'
    rw [said] at lengths
    have positive := List.length_pos_iff.2 some
    simp only [List.length_append, List.length_cons] at lengths
    obtain ⟨m, rfl⟩ := List.length_eq_one_iff.1 (by omega : new.length = 1)
    exact .inr ⟨List.length_eq_zero_iff.1 (by omega), m, more⟩

/-- What is so of a frame that is not about to return: no call is under way,
none has said or given anything, and the session is as it would be without
them. -/
structure Idle (f : CallFrame) (s : Session) (pool : ReturnPool) : Prop where
  /-- The session is as it would be. -/
  state : pool.state = s
  /-- The frame is not about to return. -/
  returns : s.returnValue f = none
  /-- No call is under way. -/
  waiting : pool.waiting = []
  /-- None has said anything. -/
  notes : pool.notes = []
  /-- None has given anything. -/
  ended : ∀ w ∈ pool.ended, w.place = none

theorem Idle.step {s : Session} (h : Idle f s pool)
    (move : Flow.Move String (Elsewhere answers f)) :
    Idle f (meanwhile s [move]) (pool.step (replacing f answers) move) := by
  obtain ⟨rfl, returns, waiting, notes, ended⟩ := h
  cases move with
  | begin expression =>
    change Idle f pool.state (pool.opened (replacing f answers) expression
      ((f.setReturnValue expression).toWait pool.state))
    rw [toWait_setReturnValue, if_pos (Option.isNone_iff_eq_none.2 returns)]
    refine ⟨rfl, returns, waiting, ?_, List.forall_mem_cons.2 ⟨rfl, ended⟩⟩
    change (pool.state.saidSince pool.state.journal.length).map _ ++ pool.notes = []
    simp [saidSince, notes]
  | carry place =>
    have stays : pool.step (replacing f answers) (.carry place) = pool := by
      rw [Flow.Pool.step, waiting]
      rfl
    rw [stays]
    exact ⟨rfl, returns, waiting, notes, ended⟩
  | outside event => exact ⟨rfl, (event.returns _).trans returns, waiting, notes, ended⟩

/-- **On a frame that is not about to return** calls do nothing at all. -/
theorem idle_after (idle : start.returnValue f = none)
    (moves : List (Flow.Move String (Elsewhere answers f))) :
    Idle f (meanwhile start moves) (afterReturns f answers start moves) := by
  have all : ∀ s pool, Idle f s pool →
      Idle f (meanwhile s moves) (pool.play (replacing f answers) moves) := by
    induction moves with
    | nil => exact fun _ _ h => h
    | cons move rest ih =>
      intro s pool h
      have once : meanwhile s (move :: rest) = meanwhile (meanwhile s [move]) rest := by
        cases move <;> rfl
      exact once ▸ ih _ _ (h.step move)
  exact all start { state := start }
    ⟨rfl, idle, rfl, rfl, fun _ there => absurd there List.not_mem_nil⟩

/-- A call whose evaluation failed has said nothing more. -/
theorem Replaced.of_failed (h : Replaced answers f start pool) {number : Nat} {expression : String}
    {ticket : Ticket} (there : Signal.evaluates f expression ticket ∈ pool.said number)
    (nothing : ∀ o, ¬ Gave answers ticket o) :
    pool.said number = [.evaluates f expression ticket] := by
  have owned := h.logged.owned _ (Flow.Pool.mem_noted.1 there)
  rcases List.mem_append.1 owned with owned | owned
  · obtain ⟨w, hw, rfl⟩ := List.mem_map.1 owned
    exact (h.logged.waiting w hw).of_failed there nothing
  · obtain ⟨w, hw, rfl⟩ := List.mem_map.1 owned
    exact (h.logged.ended w hw).of_failed there nothing

/-- **Replacing the value of a frame**, by any number of calls, whatever the
backend answers and in any order, and whatever else happens meanwhile. The
frame is about to return what was given last, and what it was about to return
before if nothing was. A call gives the result of its expression exactly if
that was evaluated, nothing was thrown, and the result was accepted; it says
what it has to for that and no more (`Returned`). One whose evaluation failed
or threw says nothing after it. A call that was answered ends, or sends its
second request. If the frame is not about to return, the session is as it would
be without the calls. -/
theorem return_value_replaced (unasked : ∀ r ∈ start.replies, r.1 < start.nextTicket)
    (moves : List (Flow.Move String (Elsewhere answers f))) :
    let pool := afterReturns f answers start moves
    pool.state.returnValue f = pool.given.head?.or (start.returnValue f) ∧
      (∀ w ∈ pool.ended,
        Returned answers f (start.returnValue f) w.call (pool.said w.number) w.place ∧
          (w.place.isSome = true ↔ ∃ o, Accepted answers f w.call (pool.said w.number) o)) ∧
      (∀ number expression ticket, .evaluates f expression ticket ∈ pool.said number →
        (∀ o, ¬ Gave answers ticket o) → pool.said number = [.evaluates f expression ticket]) ∧
      (∀ place w, pool.waiting[place]? = some w →
        ∃ ticket command earlier, pool.said w.number = .request ticket command :: earlier ∧
          (pool.state.isAnswered ticket = true →
            let next : ReturnPool := pool.step (replacing f answers) (.carry place)
            (∃ v, next.ended = ⟨w.number, w.call, v⟩ :: pool.ended) ∨
              earlier = [] ∧ ∃ more, next.said w.number = more :: pool.said w.number)) ∧
      (start.returnValue f = none → Idle f (meanwhile start moves) pool) := by
  intro pool
  have is := replaced_after unasked moves
  refine ⟨is.returns, fun w hw => ?_, fun _ _ _ => is.of_failed, fun _ _ => is.progress,
    fun idle => idle_after idle moves⟩
  exact ⟨is.logged.ended w hw, (is.logged.ended w hw).isSome_iff⟩

/-- A frame that is about to return a number. -/
def returningFrame : CallFrame :=
  (CallFrame.make (.ofReport ⟨0, 0⟩
      { scriptId := "7", url := "app.js", startLine := 0, startColumn := 0, endLine := 9,
        endColumn := 0, executionContextId := 1, hash := "", auxData := none, isLiveEdit := false,
        sourceMapUrl := none, hasSourceUrl := false, isModule := false, length := 0,
        stackTrace := none, codeOffset := none, language := .javaScript, embedderName := none }
      false false)
    { callFrameId := "frame", functionName := "main", functionLocation := none,
      location := ⟨"7", 0, none⟩, url := "app.js", scopeChain := [], this := {},
      returnValue := some { type := .number, value := some (.int 1) }, canBeRestarted := none }
    none ⟨0, 1⟩).1

/-- Two expressions give texts, and one throws. The first text is refused. -/
def textsAndThrown : Ticket → Reply
  | 0 | 1 => .ok (.obj [("result", .obj [("type", .str "string"), ("value", .str "new")])])
  | 2 =>
    .ok (.obj
      [("exceptionDetails", .obj
        [("columnNumber", .int 0), ("exceptionId", .int 1), ("lineNumber", .int 0),
          ("text", .str "Uncaught")]),
        ("result", .obj [("type", .str "object")])])
  | 3 => .ok (.obj [])
  | _ => .error (.refused "")

/-- Three calls overlap. The second is the first that is evaluated, and its
text is accepted; then the others end, and one more is under way. -/
def threeReturns : List (Flow.Move String (Elsewhere textsAndThrown returningFrame)) :=
  [.begin "f()", .begin "g()", .begin "h()", .outside (.answer 1), .carry 1, .outside (.answer 0),
    .carry 0, .outside (.answer 4), .outside (.answer 3), .carry 1, .carry 0,
    .outside (.answer 2), .carry 0, .begin "i()"]

theorem return_value_replaced_once :
    let start := connect 0 (.root ⟨0, "page", .frame⟩) {}
    let pool := afterReturns returningFrame textsAndThrown start threeReturns
    (∀ r ∈ start.replies, r.1 < start.nextTicket) ∧
      pool.ended.map (fun w => (w.number, w.place.isSome)) = [(2, false), (0, false), (1, true)] ∧
      pool.waiting.length = 1 ∧
      pool.state.returnValue returningFrame =
        pool.given.head?.or (start.returnValue returningFrame) := by
  have unasked : ∀ r ∈ (connect 0 (.root ⟨0, "page", .frame⟩) {}).replies,
      r.1 < (connect 0 (.root ⟨0, "page", .frame⟩) {}).nextTicket :=
    fun r hr => absurd hr List.not_mem_nil
  exact ⟨unasked, rfl, rfl, (return_value_replaced unasked threeReturns).1⟩

end Runs

end Session

end DebugClient
