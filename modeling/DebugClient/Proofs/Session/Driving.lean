import DebugClient.Proofs.Flow.Errands
import DebugClient.Proofs.Lookup
import DebugClient.Proofs.Session.Outlines
/-!
# Driving — one call of a session after another

What stops a session, lets it go on, steps it and clears it, each call
with its questions answered before the next one comes.

`Along` follows a session through a call: the stance it has reached, the
log since the call began, and the answers of policies it has heard. One
lemma for each operation takes it further. What a whole call may do is a
`Deed`, one constructor for each way it can go, and every errand does one
(`deed_of_errand`).
-/

namespace DebugClient

namespace Session

/-! ## The system -/

/-- What drives a session. -/
inductive DriveCall where
  /-- The backend reports something. -/
  | receive (event : Wire.Event)
  /-- The user asks for a pause. -/
  | pause
  /-- The user lets the target go on. -/
  | resume
  /-- The user steps into the next call. -/
  | stepInto
  /-- The user steps into the next asynchronous call. -/
  | stepIntoAsync
  /-- The user steps over the next statement. -/
  | stepOver
  /-- The user steps out of the function. -/
  | stepOut
  /-- The user runs to a location, and may have a listener told. -/
  | continueTo (location : Location) (listener : Option String)
  /-- The agent is enabled. -/
  | enable
  /-- The agent is disabled. -/
  | disable
  /-- Other policies are installed. -/
  | install (policies : Policies)

/-- Installs policies. -/
def install (policies : Policies) (s : Session) : Session := { s with policies }

/-- The work of a call. What the user asks for holds the session. -/
def DriveCall.program : DriveCall → Work Unit
  | receive event => dispatch event
  | pause => holding pauseTarget
  | resume => holding Session.resume
  | stepInto => holding Session.stepInto
  | stepIntoAsync => holding Session.stepIntoAsync
  | stepOver => holding Session.stepOver
  | stepOut => holding Session.stepOut
  | continueTo location listener => holding (Session.continueTo location listener)
  | enable => holding Session.enable
  | disable => holding Session.disable
  | install policies => Flow.modify (Session.install policies)

/-- An answer that comes in. -/
inductive Response where
  /-- The backend answers a request. -/
  | reply (ticket : Ticket) (reply : Reply)
  /-- A policy answers a question. -/
  | advice (ticket : Ticket) (advice : Advice)

/-- Takes in an answer. Nothing is answered before it is asked. -/
def Response.apply : Response → Session → Session
  | reply ticket answer, s => if ticket < s.nextTicket then s.answer ticket answer else s
  | advice ticket answer, s => if ticket < s.nextTicket then s.advise ticket answer else s

/-- What a policy answers. -/
def Response.advice? : Response → Option (Ticket × Advice)
  | reply _ _ => none
  | advice ticket answer => some (ticket, answer)

/-- Whatever drives a session. Outside, answers come in. -/
def driving : Flow.System DriveCall Response Session Unit Unit where
  program := DriveCall.program
  outside := Response.apply
  note _ _ _ _ := []

/-- A call that has driven a session. -/
abbrev Drive := Flow.Errand DriveCall Response Session Unit

namespace Drive

/-- What policies answered during a call. -/
def heard (e : Drive) : List (Ticket × Advice) := e.waits.flatten.filterMap Response.advice?

/-- The log of a call, newest first. -/
def log (e : Drive) : List Signal := logSince e.before e.after

end Drive

/-! ## What a call may do -/

/-- The frames of a stop whose scripts are known. -/
def known (s : Session) (r : Wire.PauseReport) : List CallFrame :=
  (s.mint (knownFrames s.catalog r.callFrames)).1

/-- The frames a policy has shown in the place of others, if it has. -/
def framesOr (known : List CallFrame) : Advice → List CallFrame
  | .frames frames => frames
  | _ => known

/-- The ranges a policy has named, sorted and merged. -/
def mergedRanges : Advice → List Range
  | .ranges ranges => Range.merge (ranges.map fun r => .between r.1 r.2)
  | _ => []

/-- **The expanded frames** of a stop: those that are known, or what the
policy has answered that was asked for them; with the log of asking. -/
inductive Expansion (s : Session) (heard : List (Ticket × Advice)) (r : Wire.PauseReport) :
    List Signal → List CallFrame → Prop where
  /-- No policy shows frames. -/
  | plain (off : s.policies.expandsFrames = false) : Expansion s heard r [] (s.known r)
  /-- The policy has answered. -/
  | told {ticket : Ticket} {answer : Advice} (on : s.policies.expandsFrames = true)
      (answered : (ticket, answer) ∈ heard) :
      Expansion s heard r [.inquiry ticket (.expand (s.known r))] (framesOr (s.known r) answer)

/-- **The ranges a step skips** from a frame, if there is one: those the
policy has answered that was asked for it; with the log of asking. -/
inductive Skipping (skips : Bool) (heard : List (Ticket × Advice)) (mode : StepMode)
    (top? : Option CallFrame) : List Signal → List Range → Prop where
  /-- No policy names ranges, or there is no frame. -/
  | plain (off : skips = false ∨ top? = none) : Skipping skips heard mode top? [] []
  /-- The policy has answered. -/
  | told {top : CallFrame} {ticket : Ticket} {answer : Advice} (on : skips = true)
      (there : top? = some top) (answered : (ticket, answer) ∈ heard) :
      Skipping skips heard mode top? [.inquiry ticket (.skipRanges mode top)] (mergedRanges answer)

/-- How a step after a veto goes. -/
def autoMode (stepsOver : Bool) : StepMode := if stepsOver then .over else .into

/-- The step after a veto. -/
def autoStep (stepsOver : Bool) (ranges : List Range) : Wire.Command :=
  if stepsOver then .stepOver ranges else .stepInto false ranges

/-- A call leaves the stance of a session as it is, if it does anything. -/
def DriveCall.IsAside : DriveCall → Prop
  | receive (.paused r) => r.reason = .instrumentation
  | receive .resumed | receive .contextsCleared => False
  | stepOver | continueTo _ _ | disable | install _ => False
  | _ => True

/-- **What a call may do**: the log of it and the stance it leaves. -/
inductive Deed (s : Session) (heard : List (Ticket × Advice)) :
    DriveCall → List Signal → Stance → Prop where
  /-- What an agent reports that is not enabled is dropped. -/
  | dropped {event : Wire.Event} (off : s.isEnabled = false)
      (ofAgent : event.method.ofDebugger = true) : Deed s heard (.receive event) [] s.stance
  /-- Questions are asked at most. -/
  | asked {c : DriveCall} {log : List Signal} (isAside : c.IsAside)
      (asks : ∀ x ∈ log, x.asks = true) : Deed s heard c log s.stance
  /-- The user steps over. -/
  | steppedOver {log : List Signal} (asks : ∀ x ∈ log, x.asks = true) :
      Deed s heard .stepOver log { s.stance with stepsOver := true }
  /-- The user runs to a location. -/
  | aimed {location : Location} {listener : Option String} {log : List Signal}
      (asks : ∀ x ∈ log, x.asks = true) :
      Deed s heard (.continueTo location listener) log
        { s.stance with
          destination := (listener.map fun l => ⟨location, l⟩).or s.destination }
  /-- Policies are installed. -/
  | installed (policies : Policies) :
      Deed s heard (.install policies) [] (s.install policies).stance
  /-- The agent is enabled. -/
  | enabled {log : List Signal} (off : s.isEnabled = false) (asks : ∀ x ∈ log, x.asks = true) :
      Deed s heard .enable log { s.stance with enabled := true }
  /-- The agent is disabled. -/
  | disabled {log : List Signal} (on : s.isEnabled = true) (asks : ∀ x ∈ log, x.asks = true) :
      Deed s heard .disable (.debugger .globalObjectCleared :: log)
        { s.stance.cleared with enabled := false }
  /-- The agent was not enabled. -/
  | stayedOff (off : s.isEnabled = false) : Deed s heard .disable [] s.stance
  /-- Execution goes on. -/
  | resumed (on : s.isEnabled = true) : Deed s heard (.receive .resumed) [] s.stance.running
  /-- The global object goes with all contexts. -/
  | allCleared :
      Deed s heard (.receive .contextsCleared) [.debugger .globalObjectCleared] s.stance.cleared
  /-- The global object goes with the last context. -/
  | lastCleared (gone : Wire.ContextGone) :
      Deed s heard (.receive (.contextDestroyed gone)) [.debugger .globalObjectCleared]
        s.stance.cleared
  /-- A run to a location ends at a stop. -/
  | swallowed {r : Wire.PauseReport} {asked : List Signal} {frames : List CallFrame}
      {listener : String} (on : s.isEnabled = true) (stop : r.reason ≠ .instrumentation)
      (expansion : Expansion s heard r asked frames)
      (there : s.arrivesAt (.ofReport r frames) = true) :
      Deed s heard (.receive (.paused r)) (.reached listener :: asked)
        { s.stance with destination := none }
  /-- A pause is shown. -/
  | shown {r : Wire.PauseReport} {asked judged : List Signal} {frames : List CallFrame}
      (on : s.isEnabled = true) (stop : r.reason ≠ .instrumentation)
      (expansion : Expansion s heard r asked frames)
      (away : s.arrivesAt (.ofReport r frames) = false)
      (verdict : judged = [] ∨ judged = [.judged (.ofReport r frames) true]) :
      Deed s heard (.receive (.paused r))
        (.debugger (.paused (.ofReport r frames)) :: (judged ++ asked))
        { s.stance with
          pause := some (.ofReport r frames)
          selected := frames.head?.map (·.key)
          stepsOver := false
          destination := none }
  /-- A pause is vetoed, and the target steps on. -/
  | vetoed {r : Wire.PauseReport} {asked said : List Signal} {frames : List CallFrame}
      {ranges : List Range} {ticket : Ticket} (on : s.isEnabled = true)
      (stop : r.reason ≠ .instrumentation) (expansion : Expansion s heard r asked frames)
      (away : s.arrivesAt (.ofReport r frames) = false)
      (skipping : Skipping s.policies.skipsRanges heard (autoMode s.autoStepOver) frames.head? said
        ranges) :
      Deed s heard (.receive (.paused r))
        (.request ticket (autoStep s.autoStepOver ranges) ::
          (said ++ .judged (.ofReport r frames) false :: asked))
        { s.stance with pause := some (.ofReport r frames), destination := none }

/-! ## Along a call -/

/-- Nothing was advised that was not asked. -/
def Asked (s : Session) : Prop := ∀ a ∈ s.advice, a.1 < s.nextTicket

/-- Answers come in, of policies only some that are heard. -/
def answering (heard : List (Ticket × Advice)) (s t : Session) : Prop :=
  ∃ replies advice, t = { s with replies, advice := advice ++ s.advice } ∧
    ∀ a ∈ advice, a.1 < s.nextTicket ∧ a ∈ heard

/-- **A session along a call** that began in a state: the log of the call
so far and the stance it has come to. What was advised since the call
began is heard. -/
structure Along (heard : List (Ticket × Advice)) (s : Session) (log : List Signal) (v : Stance)
    (t : Session) : Prop where
  /-- The stance. -/
  stance : t.stance = v
  /-- The log. -/
  log : t.log = log ++ s.log
  /-- Nothing was advised that was not asked. -/
  asked : Asked t
  /-- What was advised since is heard. -/
  heard : ∀ a ∈ t.advice, s.nextTicket ≤ a.1 → a ∈ heard
  /-- Tickets only grow. -/
  later : s.nextTicket ≤ t.nextTicket

section Operations

variable {heard : List (Ticket × Advice)} {s t t' : Session} {log : List Signal} {v v' : Stance}

theorem Along.start (asked : Asked s) : Along heard s [] s.stance s :=
  ⟨rfl, rfl, asked, fun a there since => absurd (asked a there) (Nat.not_lt.2 since), Nat.le_refl _⟩

/-- A change of the session that asks nothing. -/
theorem Along.to (h : Along heard s log v t) (more : List Signal)
    (same : t'.outline = { t.outline with stance := v', log := more ++ t.log }) :
    Along heard s (more ++ log) v' t' := by
  have ticket : t'.nextTicket = t.nextTicket := congrArg Outline.nextTicket same
  have advice : t'.advice = t.advice := congrArg Outline.advice same
  refine ⟨congrArg Outline.stance same, ?_, ?_, ?_, ticket ▸ h.later⟩
  · rw [List.append_assoc, ← h.log]
    exact congrArg Outline.log same
  · intro a there
    rw [ticket]
    exact h.asked a (advice ▸ there)
  · exact fun a there => h.heard a (advice ▸ there)

theorem Along.tells (h : Along heard s log v t) (more : List Signal)
    (same : t'.outline = { t.outline with log := more ++ t.log }) :
    Along heard s (more ++ log) v t' := by
  refine h.to more ?_
  rw [← h.stance]
  exact same

theorem Along.aside (h : Along heard s log v t) (same : t'.outline = t.outline) :
    Along heard s log v t' := h.tells [] same

theorem Along.issue (h : Along heard s log v t) (command : Wire.Command) :
    Along heard s (.request t.nextTicket command :: log) v (t.issue command).2 := by
  refine ⟨h.stance, congrArg _ h.log, fun a there => ?_, h.heard, ?_⟩
  · exact Nat.lt_succ_of_lt (h.asked a there)
  · exact Nat.le_succ_of_le h.later

theorem Along.inquire (h : Along heard s log v t) (question : Inquiry) :
    Along heard s (.inquiry t.nextTicket question :: log) v (t.inquire question).2 := by
  refine ⟨h.stance, congrArg _ h.log, fun a there => ?_, h.heard, ?_⟩
  · exact Nat.lt_succ_of_lt (h.asked a there)
  · exact Nat.le_succ_of_le h.later

theorem Along.wait (h : Along heard s log v t) (answers : answering heard t t') :
    Along heard s log v t' := by
  obtain ⟨replies, advice, rfl, new⟩ := answers
  refine ⟨h.stance, h.log, fun a there => ?_, fun a there since => ?_, h.later⟩ <;>
    rcases List.mem_append.1 there with late | early
  · exact (new a late).1
  · exact h.asked a early
  · exact (new a late).2
  · exact h.heard a early since

theorem Along.settle (h : Along heard s log v t) (ticket : Ticket) :
    (Work.settle ticket).Yields (answering heard) (fun _ => Along heard s log v) t := by
  rw [Work.settle, Flow.yields_seq, Flow.yields_await]
  intro t' answers _
  exact (h.wait answers).aside rfl

theorem Along.send (h : Along heard s log v t) (command : Wire.Command) :
    (Work.send command).Yields (answering heard)
      (fun _ t' => ∃ ticket, Along heard s (.request ticket command :: log) v t') t := by
  rw [Work.send, Work.issue, Flow.yields_seq, Flow.yields_act]
  exact ((h.issue command).settle _).mono fun _ _ sent => ⟨_, sent⟩

/-- A policy that was asked has answered when the call goes on, and its
answer is heard. -/
theorem Along.consult (h : Along heard s log v t) (question : Inquiry) :
    (Work.consult question).Yields (answering heard)
      (fun answer? t' => ∃ ticket answer, answer? = some answer ∧ (ticket, answer) ∈ heard ∧
        Along heard s (.inquiry ticket question :: log) v t') t := by
  rw [Work.consult, Flow.yields_seq, Flow.yields_act, Flow.yields_seq, Flow.yields_await]
  intro t' answers advised
  have along := (h.inquire question).wait answers
  obtain ⟨answer, found⟩ := Lookup.exists_lookup advised
  have held := Lookup.mem_of_lookup found
  rw [Flow.yields_act]
  refine ⟨t.nextTicket, answer, found, along.heard _ held h.later, along.stance, along.log, ?_, ?_,
    along.later⟩
  · exact fun a there => along.asked a (List.mem_filter.1 there |>.1)
  · exact fun a there => along.heard a (List.mem_filter.1 there |>.1)

theorem Along.skipList (h : Along heard s log v t) (mode : StepMode) :
    (skipList mode).Yields (answering heard)
      (fun ranges t' => ∃ said, Skipping v.skips heard mode v.top? said ranges ∧
        Along heard s (said ++ log) v t') t := by
  have skips : t.policies.skipsRanges = v.skips := congrArg Stance.skips h.stance
  have top : t.pause.bind (·.frames.head?) = v.top? := congrArg Stance.top? h.stance
  rw [Session.skipList, Flow.yields_seq, Flow.yields_read, skips, top]
  split
  · rename_i first on there
    rw [Flow.yields_seq]
    refine (h.consult _).mono fun answer? t' told => ?_
    obtain ⟨ticket, answer, rfl, answered, along⟩ := told
    have skipping : Skipping _ heard mode _ _ _ := .told on there answered
    cases answer <;> exact ⟨_, skipping, along⟩
  · rename_i other
    refine ⟨[], .plain ?_, h⟩
    cases on : v.skips with
    | false => exact .inl rfl
    | true =>
      cases there : v.top? with
      | none => exact .inr rfl
      | some first => exact (other first on there).elim

end Operations

/-! ## Calls that only ask -/

/-- A session along a call that has only asked so far. -/
def Asking (heard : List (Ticket × Advice)) (s : Session) (v : Stance) (t : Session) : Prop :=
  ∃ log, (∀ x ∈ log, x.asks = true) ∧ Along heard s log v t

section Asking

variable {heard : List (Ticket × Advice)} {s t t' : Session} {v v' : Stance} {α : Type}

theorem Asking.to (h : Asking heard s v t)
    (same : t'.outline = { t.outline with stance := v' }) : Asking heard s v' t' := by
  obtain ⟨log, asks, along⟩ := h
  exact ⟨log, asks, along.to [] same⟩

theorem Asking.aside (h : Asking heard s v t) (same : t'.outline = t.outline) :
    Asking heard s v t' := by
  obtain ⟨log, asks, along⟩ := h
  exact ⟨log, asks, along.aside same⟩

/-- Work asks questions at most, and leaves the stance. -/
abbrev Asks (heard : List (Ticket × Advice)) (s : Session) (v : Stance) (m : Work α) : Prop :=
  m.Leaves (answering heard) (Asking heard s v)

theorem asks_modify {f : Session → Session} (same : ∀ t, (f t).outline = t.outline) :
    Asks heard s v (Flow.modify f) := Flow.leaves_modify fun t h => h.aside (same t)

theorem asks_issue (command : Wire.Command) : Asks heard s v (Work.issue command) := by
  rintro t ⟨log, asks, along⟩
  refine ⟨_, ?_, along.issue command⟩
  exact List.forall_mem_cons.2 ⟨rfl, asks⟩

theorem asks_issueAll (commands : List Wire.Command) : Asks heard s v (issueAll commands) := by
  induction commands with
  | nil => exact Flow.leaves_done []
  | cons command rest ih =>
    exact Flow.leaves_seq (asks_issue command) fun _ => Flow.leaves_seq ih fun _ => Flow.leaves_done _

theorem asks_await (ready : Session → Bool) : Asks heard s v (Flow.await ready) := by
  refine Flow.leaves_await (fun t t' h answers => ?_) ready
  obtain ⟨log, asks, along⟩ := h
  exact ⟨log, asks, along.wait answers⟩

theorem asks_settle (ticket : Ticket) : Asks heard s v (Work.settle ticket) := by
  rintro t ⟨log, asks, along⟩
  exact (along.settle ticket).mono fun _ _ settled => ⟨log, asks, settled⟩

theorem asks_reply (ticket : Ticket) (command : Wire.Command) (read : Json → Option α) :
    Asks heard s v (Work.reply ticket command read) :=
  Flow.leaves_seq (asks_await _) fun _ =>
    Flow.leaves_seq (Flow.leaves_act fun _ h => h.aside rfl) fun _ => Flow.leaves_done _

theorem asks_send (command : Wire.Command) : Asks heard s v (Work.send command) :=
  Flow.leaves_seq (asks_issue command) asks_settle

theorem asks_consult (question : Inquiry) : Asks heard s v (Work.consult question) := by
  rintro t ⟨log, asks, along⟩
  refine (along.consult question).mono fun _ t' told => ?_
  obtain ⟨ticket, -, -, -, along⟩ := told
  exact ⟨_, List.forall_mem_cons.2 ⟨rfl, asks⟩, along⟩

theorem asks_skipList (mode : StepMode) : Asks heard s v (skipList mode) := by
  refine Flow.leaves_seq Flow.leaves_read fun t => ?_
  split
  · refine Flow.leaves_seq (asks_consult _) fun answer? => ?_
    split <;> exact Flow.leaves_done _
  · exact Flow.leaves_done _

theorem asks_resume : Asks heard s v resume :=
  Flow.leaves_seq (asks_issue _) fun _ =>
    Flow.leaves_seq (asks_modify fun _ => rfl) fun _ => asks_settle _

theorem asks_skipAllPauses (skip : Bool) : Asks heard s v (skipAllPauses skip) :=
  Flow.leaves_seq (asks_modify fun _ => rfl) fun _ => asks_send _

theorem asks_pauseTarget : Asks heard s v pauseTarget :=
  Flow.leaves_seq (asks_modify fun _ => rfl) fun _ =>
    Flow.leaves_seq (asks_skipAllPauses false) fun _ => asks_send _

theorem asks_handleInstrumentation (r : Wire.PauseReport) :
    Asks heard s v (handleInstrumentation r) := by
  refine Flow.leaves_seq Flow.leaves_read fun t => ?_
  split
  · exact Flow.leaves_seq (asks_consult _) fun _ => asks_resume
  · exact asks_resume

end Asking

/-! ## Every call does a deed -/

/-- A session at the end of a call: what the call has done is a deed. -/
def Does (heard : List (Ticket × Advice)) (s : Session) (c : DriveCall) (t : Session) : Prop :=
  ∃ log v, Deed s heard c log v ∧ Along heard s log v t

section Calls

variable {heard : List (Ticket × Advice)} {s t t' : Session} {c : DriveCall}

theorem Does.aside (h : Does heard s c t) (same : t'.outline = t.outline) : Does heard s c t' := by
  obtain ⟨log, v, deed, along⟩ := h
  exact ⟨log, v, deed, along.aside same⟩

theorem Asking.start (asked : Asked s) : Asking heard s s.stance s :=
  ⟨[], by simp, .start asked⟩

/-- A call that is not about the stance and asks questions at most. -/
theorem Asking.does (h : Asking heard s s.stance t) (isAside : c.IsAside) : Does heard s c t := by
  obtain ⟨log, asks, along⟩ := h
  exact ⟨log, _, .asked isAside asks, along⟩

/-- What a call does that holds the session. -/
theorem does_holding {m : Work Unit} (does : m.Yields (answering heard) (fun _ => Does heard s c) s.acquire) :
    (holding m).Yields (answering heard) (fun _ => Does heard s c) s := by
  rw [holding, Flow.yields_between]
  exact does.mono fun _ t h => h.aside rfl

/-- What the user asks for that is not about the stance. -/
theorem does_asks {m : Work Unit} (asked : Asked s) (isAside : c.IsAside)
    (asks : Asks heard s s.stance m) : (holding m).Yields (answering heard) (fun _ => Does heard s c) s := by
  have start : Asking heard s s.stance s.acquire := (Asking.start asked).aside rfl
  exact does_holding ((asks s.acquire start).mono fun _ t h => h.does isAside)

theorem does_stepOver (asked : Asked s) :
    (holding stepOver).Yields (answering heard) (fun _ => Does heard s .stepOver) s := by
  refine does_holding ?_
  rw [stepOver, Flow.yields_seq, Flow.yields_modify]
  have steps : Asking heard s { s.stance with stepsOver := true } s.acquire.setAutoStepOver :=
    (Asking.start asked).to rfl
  have asks : Asks heard s { s.stance with stepsOver := true } (do Work.send (.stepOver (← skipList .over))) :=
    Flow.leaves_seq (asks_skipList _) fun _ => asks_send _
  refine (asks _ steps).mono fun _ t h => ?_
  obtain ⟨log, asks, along⟩ := h
  exact ⟨log, _, .steppedOver asks, along⟩

theorem does_continueTo (asked : Asked s) (location : Location) (listener : Option String) :
    (holding (continueTo location listener)).Yields (answering heard)
      (fun _ => Does heard s (.continueTo location listener)) s := by
  refine does_holding ?_
  have sends : ∀ v t, Asking heard s v t →
      (Work.send (.continueToLocation location.toWire)).Yields (answering heard)
        (fun _ => Asking heard s v) t := fun v t h => asks_send _ t h
  cases listener with
  | none =>
    refine (sends _ s.acquire ((Asking.start asked).aside rfl)).mono fun _ t h => ?_
    obtain ⟨log, asks, along⟩ := h
    exact ⟨log, _, .aimed asks, along⟩
  | some listener =>
    have aimed : Asking heard s { s.stance with destination := some ⟨location, listener⟩ }
        (s.acquire.setDestination ⟨location, listener⟩) := (Asking.start asked).to rfl
    refine (sends _ _ aimed).mono fun _ t h => ?_
    obtain ⟨log, asks, along⟩ := h
    exact ⟨log, _, .aimed asks, along⟩

theorem does_enable (asked : Asked s) :
    (holding enable).Yields (answering heard) (fun _ => Does heard s .enable) s := by
  refine does_holding ?_
  have start : Asking heard s s.stance s.acquire := (Asking.start asked).aside rfl
  rw [enable, Flow.yields_seq, Flow.yields_read]
  by_cases on : s.acquire.isEnabled = true
  · rw [if_pos on]
    exact start.does trivial
  have off : s.isEnabled = false := Bool.eq_false_iff.2 on
  rw [if_neg on]
  -- From here on the agent counts as enabled, until the answer refuses it.
  rw [Flow.yields_seq, Flow.yields_modify]
  have on : Asking heard s { s.stance with enabled := true } (s.acquire.setEnablement .enabling) :=
    start.to rfl
  rw [Flow.yields_seq]
  refine (asks_issue _ _ on).mono fun ticket t on => ?_
  rw [Flow.yields_seq]
  refine (asks_issueAll _ t on).mono fun sent t on => ?_
  rw [Flow.yields_seq, Flow.yields_modify, Flow.yields_seq]
  refine (asks_reply _ _ _ _ (on.aside (outline_emit t rfl))).mono fun identity t on => ?_
  rw [Flow.yields_seq]
  refine (Flow.leaves_forEach asks_settle sent t on).mono fun _ t on => ?_
  obtain ⟨log, asks, along⟩ := on
  have enabled : Does heard s .enable t := ⟨log, _, .enabled off asks, along⟩
  rw [Flow.yields_seq, Flow.yields_look]
  split
  · rename_i still
    cases identity with
    | ok id =>
      exact enabled.aside ((outline_identify _ id).trans (outline_setEnablement_self t still.symm))
    | error e =>
      have refused : { t.stance with enabled := false } = s.stance := by
        rw [along.stance, ← off]
        rfl
      have along := along.to [] (outline_setEnablement t .disabled)
      rw [Flow.yields_modify]
      exact ⟨log, _, .asked trivial asks, refused ▸ along⟩
  · exact enabled

theorem does_disable (asked : Asked s) :
    (holding disable).Yields (answering heard) (fun _ => Does heard s .disable) s := by
  refine does_holding ?_
  have start : Asking heard s s.stance s.acquire := (Asking.start asked).aside rfl
  rw [disable, Flow.yields_seq, Flow.yields_look]
  by_cases on : s.isEnabled = true
  · have off : Asking heard s { s.stance with enabled := false } (s.acquire.setEnablement .disabled) :=
      start.to rfl
    have is : s.acquire.isEnabled = true := on
    rw [if_pos is, Flow.yields_seq, Flow.yields_modify, Flow.yields_seq]
    refine (asks_send _ _ off).mono fun _ t off => ?_
    rw [Flow.yields_seq]
    refine (asks_send _ t off).mono fun _ t off => ?_
    obtain ⟨log, asks, along⟩ := off
    have cleared := along.to [.debugger .globalObjectCleared] (outline_finishDisabling t)
    rw [along.stance] at cleared
    exact ⟨_, _, .disabled on asks, cleared⟩
  · have is : ¬ s.acquire.isEnabled = true := on
    obtain ⟨log, v, deed, along⟩ : Does heard s .disable s.acquire :=
      ⟨[], _, .stayedOff (Bool.eq_false_iff.2 on), (Along.start asked).aside rfl⟩
    rw [if_neg is]
    exact ⟨log, v, deed, along⟩

/-! ### Stops -/

/-- **A session beside what it has asked**: it is as it was but for keys and
tickets it has used up, answers that have come in, and what it has said. -/
def Besides (s : Session) (said : List Signal) (t : Session) : Prop :=
  ∃ nextKey nextTicket replies advice,
    t = { s with nextKey, nextTicket, replies, advice, journal := said ++ s.journal }

theorem Besides.log {said : List Signal} (h : Besides s said t) :
    t.log = said.filter Signal.drives ++ s.log := by
  obtain ⟨_, _, _, _, rfl⟩ := h
  exact List.filter_append said s.journal

/-- A session has asked questions at most, and is else as it was. -/
def OnlyAsked (s t : Session) : Prop := ∃ said, (∀ x ∈ said, x.asks = true) ∧ Besides s said t

/-- The log says all that was asked. -/
theorem OnlyAsked.besides {log : List Signal} (h : OnlyAsked s t) (is : t.log = log ++ s.log) :
    Besides s log t := by
  obtain ⟨said, asks, besides⟩ := h
  have drives : said.filter Signal.drives = said := by
    refine List.filter_eq_self.2 fun x there => ?_
    have := asks x there
    cases x <;> first | rfl | cases this
  have all : said ++ s.log = log ++ s.log := by rw [← is, besides.log, drives]
  have same : said = log := List.append_cancel_right all
  exact same ▸ besides

theorem leaves_consult_onlyAsked (question : Inquiry) :
    (Work.consult question).Leaves (answering heard) (OnlyAsked s) := by
  refine Flow.leaves_seq (Flow.leaves_act fun t h => ?_) fun _ =>
    Flow.leaves_seq (Flow.leaves_await (fun t t' h answers => ?_) _) fun _ =>
      Flow.leaves_act fun t h => ?_ <;> obtain ⟨said, asks, _, _, _, _, rfl⟩ := h
  · exact ⟨.inquiry _ question :: said, List.forall_mem_cons.2 ⟨rfl, asks⟩, _, _, _, _, rfl⟩
  · obtain ⟨_, _, rfl, -⟩ := answers
    exact ⟨said, asks, _, _, _, _, rfl⟩
  · exact ⟨said, asks, _, _, _, _, rfl⟩

theorem leaves_expand_onlyAsked (frames : List CallFrame) :
    (expand frames).Leaves (answering heard) (OnlyAsked s) := by
  refine Flow.leaves_seq (Flow.leaves_look _) fun expands => ?_
  split
  · refine Flow.leaves_seq (leaves_consult_onlyAsked _) fun answer? => ?_
    split <;> exact Flow.leaves_done _
  · exact Flow.leaves_done _

theorem along_expand {r : Wire.PauseReport} (h : Along heard s [] s.stance t) :
    (expand (s.known r)).Yields (answering heard)
      (fun frames t' => ∃ asked, Expansion s heard r asked frames ∧
        Along heard s asked s.stance t') t := by
  have expands : t.policies.expandsFrames = s.policies.expandsFrames :=
    congrArg Stance.expands h.stance
  rw [expand, Flow.yields_seq, Flow.yields_look, expands]
  by_cases on : s.policies.expandsFrames = true
  · rw [if_pos on, Flow.yields_seq]
    refine (h.consult _).mono fun answer? t' told => ?_
    obtain ⟨ticket, answer, rfl, answered, along⟩ := told
    have expansion := Expansion.told (r := r) on answered
    cases answer <;> exact ⟨_, expansion, along⟩
  · rw [if_neg on]
    exact ⟨[], .plain (Bool.eq_false_iff.2 on), h⟩

/-- A vetoed pause is followed by one step. -/
theorem along_stepOn {log : List Signal} {v : Stance} (h : Along heard s log v t) :
    stepOn.Yields (answering heard)
      (fun _ t' => ∃ ticket said ranges,
        Skipping v.skips heard (autoMode v.stepsOver) v.top? said ranges ∧
          Along heard s (.request ticket (autoStep v.stepsOver ranges) :: (said ++ log)) v t') t := by
  have steps : t.autoStepOver = v.stepsOver := congrArg Stance.stepsOver h.stance
  rw [stepOn, Flow.yields_seq, Flow.yields_look, steps]
  split
  · rename_i is
    have same : t.setAutoStepOver.outline = t.outline := by
      have set : t.setAutoStepOver.outline = { t.outline with stance := { t.stance with stepsOver := true } } := rfl
      rw [set, ← is, ← h.stance]
      rfl
    rw [stepOver, Flow.yields_seq, Flow.yields_modify, Flow.yields_seq, is]
    refine ((h.aside same).skipList .over).mono fun ranges t' skipped => ?_
    obtain ⟨said, skipping, along⟩ := skipped
    exact (along.send _).mono fun _ _ ⟨ticket, sent⟩ => ⟨ticket, said, ranges, skipping, sent⟩
  · rename_i is
    rw [stepInto, Flow.yields_seq, Bool.eq_false_iff.2 is]
    refine (h.skipList .into).mono fun ranges t' skipped => ?_
    obtain ⟨said, skipping, along⟩ := skipped
    exact (along.send _).mono fun _ _ ⟨ticket, sent⟩ => ⟨ticket, said, ranges, skipping, sent⟩

/-- Presents a pause: it is shown, or vetoed and followed by a step. -/
def presenting (d : PauseDetails) : Work Unit := do
  if ← Flow.act (present d) then return () else stepOn

/-- A pause is shown, or vetoed and followed by a step. -/
theorem along_presenting {log : List Signal} {v : Stance} (d : PauseDetails)
    (h : Along heard s log v t) :
    (presenting d).Yields (answering heard)
      (fun _ t' =>
        (∃ judged, (judged = [] ∨ judged = [.judged d true]) ∧
          Along heard s (.debugger (.paused d) :: (judged ++ log))
            { v with pause := some d, selected := d.frames.head?.map (·.key), stepsOver := false }
            t') ∨
        ∃ ticket said ranges,
          Skipping v.skips heard (autoMode v.stepsOver) d.frames.head? said ranges ∧
          Along heard s
            (.request ticket (autoStep v.stepsOver ranges) :: (said ++ .judged d false :: log))
            { v with pause := some d } t') t := by
  rw [presenting, Flow.yields_seq, Flow.yields_act]
  have presented := outline_present t d
  rw [h.stance] at presented
  by_cases shown : (present d t).1 = true
  · rw [if_pos shown] at presented ⊢
    have along := h.to (.debugger (.paused d) :: judgement _ _) presented
    exact .inl ⟨_, judgement_of_shown shown, along⟩
  · rw [if_neg shown] at presented ⊢
    rw [judgement_of_vetoed (Bool.eq_false_iff.2 shown)] at presented
    -- The pause is held already when the step asks for its first frame.
    have along := h.to [.judged d false] presented
    exact (along_stepOn along).mono fun _ t said => .inr said

/-- The frames of a stop: those whose scripts are known, expanded. -/
def framesOf (r : Wire.PauseReport) : Work (List CallFrame) := do
  expand (← Flow.act fun s => s.mint (knownFrames s.catalog r.callFrames))

/-- What comes of a pause: a run to a location ends there, or it is presented. -/
def takePause (d : PauseDetails) : Work Unit := do
  match ← Flow.act (arrive d) with
  | some _ => return ()
  | none => presenting d

theorem handlePaused_eq {r : Wire.PauseReport} (stop : r.reason ≠ .instrumentation) :
    handlePaused r = (do takePause (.ofReport r (← framesOf r))) := by
  rw [handlePaused, if_neg stop]
  rfl

/-- Until the frames of a stop are expanded, questions are asked at most. -/
theorem yields_framesOf (asked : Asked s) (r : Wire.PauseReport) :
    (framesOf r).Yields (answering heard)
      (fun frames t => ∃ said, Expansion s heard r said frames ∧ Along heard s said s.stance t ∧
        Besides s said t) s := by
  rw [framesOf, Flow.yields_seq, Flow.yields_act]
  have minted : Along heard s [] s.stance (s.mint (knownFrames s.catalog r.callFrames)).2 :=
    (Along.start asked).aside rfl
  have onlyMinted : OnlyAsked s (s.mint (knownFrames s.catalog r.callFrames)).2 :=
    ⟨[], by simp, _, _, _, _, rfl⟩
  refine ((along_expand minted).and (leaves_expand_onlyAsked _ _ onlyMinted)).mono
    fun frames t expanded => ?_
  obtain ⟨⟨said, expansion, along⟩, onlyAsked⟩ := expanded
  exact ⟨said, expansion, along, onlyAsked.besides along.log⟩

/-- **A stop** before which a run to a location was under way ends it. Where
the run ends there its listener is told, and that is all; otherwise the pause
is presented. -/
theorem yields_stop {Q : Unit → Session → Prop} {r : Wire.PauseReport} (asked : Asked s)
    (stop : r.reason ≠ .instrumentation)
    (ends : ∀ said frames aim t, Expansion s heard r said frames → s.destination = some aim →
      Destination.reachedBy aim (.ofReport r frames) = true → Along heard s said s.stance t →
      Besides s said t → Q () ({ t with destination := none }.emit (.reached aim.listener)))
    (goesOn : ∀ said frames t, Expansion s heard r said frames →
      (∀ aim, s.destination = some aim → Destination.reachedBy aim (.ofReport r frames) = false) →
      Along heard s said { s.stance with destination := none } t →
      (presenting (.ofReport r frames)).Yields (answering heard) Q t) :
    (handlePaused r).Yields (answering heard) Q s := by
  rw [handlePaused_eq stop, Flow.yields_seq]
  refine (yields_framesOf asked r).mono fun frames t framed => ?_
  obtain ⟨said, expansion, along, besides⟩ := framed
  rw [takePause]
  have same : t.destination = s.destination := congrArg Stance.destination along.stance
  rw [Flow.yields_seq, Flow.yields_act]
  obtain ⟨aim, is, there, arrives⟩ | ⟨away, arrives⟩ := arrive_cases (.ofReport r frames) t <;>
    rw [arrives]
  · exact ends said frames aim t expansion (same ▸ is) there along besides
  · rw [same] at away
    refine goesOn said frames _ expansion away (along.to [] ?_)
    rw [← along.stance]
    rfl

theorem does_paused (asked : Asked s) (on : s.isEnabled = true) (r : Wire.PauseReport) :
    (handlePaused r).Yields (answering heard) (fun _ => Does heard s (.receive (.paused r))) s := by
  by_cases stop : r.reason = .instrumentation
  · unfold handlePaused
    rw [if_pos stop]
    exact (asks_handleInstrumentation r s (.start asked)).mono fun _ t h => h.does stop
  refine yields_stop asked stop (fun said frames aim t expansion is there along _ => ?_)
    fun said frames t expansion away along => (along_presenting _ along).mono fun _ t' outcome => ?_
  · have reached : ({ t with destination := none }.emit (.reached aim.listener)).outline =
        { t.outline with
          stance := { s.stance with destination := none }, log := [.reached aim.listener] ++ t.log } := by
      rw [← along.stance]
      rfl
    have along := along.to [.reached aim.listener] reached
    have arrives : s.arrivesAt (.ofReport r frames) = true := by rw [arrivesAt, is]; exact there
    exact ⟨_, _, .swallowed on stop expansion arrives, along⟩
  · have away : s.arrivesAt (.ofReport r frames) = false := by
      rw [arrivesAt]
      cases is : s.destination with
      | none => rfl
      | some aim => exact away aim is
    obtain ⟨judged, verdict, along⟩ | ⟨ticket, said, ranges, skipping, along⟩ := outcome
    · exact ⟨_, _, .shown on stop expansion away verdict, along⟩
    · exact ⟨_, _, .vetoed on stop expansion away skipping, along⟩

theorem does_dispatch (asked : Asked s) (event : Wire.Event) :
    (dispatch event).Yields (answering heard) (fun _ => Does heard s (.receive event)) s := by
  have start : Along heard s [] s.stance s := .start asked
  have aside : ∀ {event : Wire.Event} {t : Session}, DriveCall.IsAside (.receive event) →
      t.outline = s.outline → Does heard s (.receive event) t :=
    fun isAside same => (Asking.start asked |>.aside same).does isAside
  rw [dispatch, Flow.yields_seq, Flow.yields_look]
  split
  · rename_i drops
    obtain ⟨ofAgent, off⟩ := Bool.and_eq_true_iff.1 drops
    exact ⟨_, _, .dropped (by simpa using off) ofAgent, start⟩
  rename_i takes
  have on : event.method.ofDebugger = true → s.isEnabled = true := by simpa using takes
  cases event with
  | scriptParsed r => exact aside trivial (outline_parsed s r false)
  | scriptFailed r => exact aside trivial (outline_parsed s r true)
  | paused r => exact does_paused asked (on rfl) r
  | resumed => exact ⟨_, _, .resumed (on rfl), start.to [] (outline_resumed s)⟩
  | breakpointResolved r =>
    exact aside trivial (outline_emitAll
      (fun l : ListenerId × String => .resolved l.2 (.ofWire r.location)) (fun _ => rfl) _ s)
  | contextCreated c => exact aside trivial (outline_emit _ rfl)
  | contextDestroyed gone =>
    rcases outline_destroyContext s gone.id with same | cleared
    · exact aside trivial same
    · exact ⟨_, _, .lastCleared gone, start.to [.debugger .globalObjectCleared] cleared⟩
  | contextsCleared =>
    exact ⟨_, _, .allCleared, start.to [.debugger .globalObjectCleared] (outline_clearContexts s)⟩
  | exceptionThrown thrown => exact aside trivial (outline_emit _ rfl)
  | exceptionRevoked revoked => exact aside trivial (outline_emit _ rfl)
  | consoleCalled call => exact aside trivial (outline_emit _ rfl)

theorem does_program (asked : Asked s) (c : DriveCall) :
    c.program.Yields (answering heard) (fun _ => Does heard s c) s := by
  cases c with
  | receive event => exact does_dispatch asked event
  | pause => exact does_asks asked trivial asks_pauseTarget
  | resume => exact does_asks asked trivial asks_resume
  | stepInto => exact does_asks asked trivial (Flow.leaves_seq (asks_skipList _) fun _ => asks_send _)
  | stepIntoAsync => exact does_asks asked trivial (Flow.leaves_seq (asks_skipList _) fun _ => asks_send _)
  | stepOver => exact does_stepOver asked
  | stepOut => exact does_asks asked trivial (Flow.leaves_seq (asks_skipList _) fun _ => asks_send _)
  | continueTo location listener => exact does_continueTo asked location listener
  | enable => exact does_enable asked
  | disable => exact does_disable asked
  | install policies =>
    exact ⟨_, _, .installed policies, (Along.start asked).to [] rfl⟩

end Calls

/-! ## Errands -/

theorem answering_refl (heard : List (Ticket × Advice)) (s : Session) : answering heard s s :=
  ⟨s.replies, [], rfl, by simp⟩

theorem answering_trans {heard : List (Ticket × Advice)} {s t u : Session}
    (first : answering heard s t) (later : answering heard t u) : answering heard s u := by
  obtain ⟨replies, advice, rfl, new⟩ := first
  obtain ⟨replies', advice', rfl, new'⟩ := later
  refine ⟨replies', advice' ++ advice, by rw [List.append_assoc], fun a there => ?_⟩
  rcases List.mem_append.1 there with late | early
  · exact new' a late
  · exact new a early

theorem answering_apply {heard : List (Ticket × Advice)} {response : Response}
    (hears : ∀ a, response.advice? = some a → a ∈ heard) (s : Session) :
    answering heard s (response.apply s) := by
  cases response <;> rename_i ticket answer <;> rw [Response.apply] <;> split
  · exact ⟨(ticket, answer) :: s.replies, [], rfl, by simp⟩
  · exact answering_refl heard s
  · rename_i earlier
    refine ⟨s.replies, [(ticket, answer)], rfl, fun a there => ?_⟩
    obtain rfl := List.mem_singleton.1 there
    exact ⟨earlier, hears _ rfl⟩
  · exact answering_refl heard s

theorem answering_meanwhile {heard : List (Ticket × Advice)} {responses : List Response}
    (hears : ∀ r ∈ responses, ∀ a, r.advice? = some a → a ∈ heard) (s : Session) :
    answering heard s (Flow.meanwhile Response.apply responses s) := by
  induction responses generalizing s with
  | nil => exact answering_refl heard s
  | cons r rest ih =>
    have first := answering_apply (hears r (.head _)) s
    exact answering_trans first (ih (fun r there => hears r (.tail _ there)) _)

/-- While an errand waits only that is answered which is heard of it. -/
theorem Drive.relies (e : Drive) : ∀ events ∈ e.waits, ∀ t,
    answering e.heard t (Flow.meanwhile Response.apply events t) := by
  intro events there t
  refine answering_meanwhile (fun response told a is => ?_) t
  exact List.mem_filterMap.2 ⟨response, List.mem_flatten.2 ⟨events, there, told⟩, is⟩

/-- **Every errand does a deed**: whatever is answered while it waits, it
logs and leaves the stance as one of the ways says in which its call can
go. -/
theorem deed_of_errand {e : Drive} (asked : Asked e.before)
    (ends : e.call.program.finish Response.apply e.waits e.before = some (e.result, e.after)) :
    Asked e.after ∧ Deed e.before e.heard e.call e.log e.after.stance := by
  obtain ⟨log, v, deed, along⟩ := (does_program asked e.call).finish e.relies ends
  refine ⟨along.asked, ?_⟩
  rw [Drive.log, logSince_eq along.log, along.stance]
  exact deed

end Session

end DebugClient
