import DebugClient.Proofs.Session.Arrivals
/-!
# Instrumentation — stops before a script runs

A stop before a script runs is none the user sees. The breakpoints of the
script are set by the policy for it, if there is one and the script is known,
and the target goes on. All that is left of the stop is that no pause is asked
for any more: whatever is armed, held, selected or flagged is as it was
(`passes_through`).
-/

namespace DebugClient

namespace Session

/-- **The script a stop names**: in its data, if there is a text, and otherwise
by its first frame. -/
inductive NamesScript (r : Wire.PauseReport) : ScriptId → Prop where
  /-- The data name it. -/
  | data {j : Json} {id : ScriptId} (data : r.data = some j)
      (named : j.member? "scriptId" = some (.str id)) : NamesScript r id
  /-- The data name none, and the first frame is in it. -/
  | frame {top : Wire.CallFrame}
      (unnamed : ∀ j id, r.data = some j → j.member? "scriptId" ≠ some (.str id))
      (first : r.callFrames.head? = some top) : NamesScript r top.location.scriptId

/-- A script is about to run at a stop: it is known, and the stop names it. -/
def AboutToRun (s : Session) (r : Wire.PauseReport) (script : Script) : Prop :=
  ∃ id, NamesScript r id ∧ s.catalog.find? id = some script

/-- **What the policy for breakpoints is asked at a stop** before a script
runs. -/
inductive Synchronizes (s : Session) (r : Wire.PauseReport) : List Signal → Prop where
  /-- It is asked once, for the script that is about to run. -/
  | once {script : Script} (installed : s.policies.synchronizes = true)
      (about : AboutToRun s r script) :
      Synchronizes s r [.inquiry s.nextTicket (.synchronize script)]
  /-- There is no such policy, or no script is known to be about to run. -/
  | never (none : s.policies.synchronizes = true → ∀ script, ¬ AboutToRun s r script) :
      Synchronizes s r []

/-- **A session after a stop that was passed through**. The policy was asked at
most, and then the target was let go on. No pause is asked for any more, and
but for answers that have come in everything else is as it was. -/
def PassedThrough (s : Session) (asked : List Signal) (t : Session) : Prop :=
  ∃ replies advice,
    t = { s with
      isPausing := false
      nextTicket := s.nextTicket + asked.length + 1
      replies
      advice
      journal := .request (s.nextTicket + asked.length) .resume :: (asked ++ s.journal) }

variable {s t : Session} {r : Wire.PauseReport} {script : Script} {heard : List (Ticket × Advice)}
  {asked : List Signal}

/-- The data of a stop name a script by a text. -/
theorem named_eq_some {id : ScriptId} :
    (r.data.bind (·.member? "scriptId")).bind Json.str? = some id ↔
      ∃ j, r.data = some j ∧ j.member? "scriptId" = some (.str id) := by
  have text {j : Json} : j.str? = some id ↔ j = .str id := by cases j <;> simp [Json.str?]
  simp only [Option.bind_eq_some_iff, text]
  constructor
  · rintro ⟨_, ⟨j, data, member⟩, rfl⟩
    exact ⟨j, data, member⟩
  · rintro ⟨j, data, member⟩
    exact ⟨_, ⟨j, data, member⟩, rfl⟩

theorem aboutToRun?_eq_some : s.aboutToRun? r = some script ↔ AboutToRun s r script := by
  have names (id : ScriptId) :
      (((r.data.bind (·.member? "scriptId")).bind Json.str?).or
        (r.callFrames.head?.map (·.location.scriptId))) = some id ↔ NamesScript r id := by
    rw [Option.or_eq_some_iff, named_eq_some, Option.map_eq_some_iff]
    constructor
    · rintro (⟨j, data, named⟩ | ⟨unnamed, top, first, rfl⟩)
      · exact .data data named
      · refine .frame (fun j id data named => ?_) first
        have := named_eq_some.2 ⟨j, data, named⟩
        rw [unnamed] at this
        cases this
    · rintro (⟨data, named⟩ | ⟨unnamed, first⟩)
      · exact .inl ⟨_, data, named⟩
      · refine .inr ⟨?_, _, first, rfl⟩
        refine Option.eq_none_iff_forall_ne_some.2 fun id is => ?_
        obtain ⟨j, data, named⟩ := named_eq_some.1 is
        exact unnamed j id data named
  simp only [aboutToRun?, Option.bind_eq_some_iff, names, AboutToRun]

/-- The policy is asked what the handler asks it. -/
theorem synchronizes_iff :
    Synchronizes s r asked ↔
      asked = match s.aboutToRun? r, s.policies.synchronizes with
        | some script, true => [.inquiry s.nextTicket (.synchronize script)]
        | _, _ => [] := by
  constructor
  · intro h
    cases h with
    | once installed about => rw [aboutToRun?_eq_some.2 about, installed]
    | never none =>
      cases about : s.aboutToRun? r with
      | none => rfl
      | some script =>
        cases installed : s.policies.synchronizes with
        | false => rfl
        | true => exact absurd (aboutToRun?_eq_some.1 about) (none installed script)
  · rintro rfl
    cases about : s.aboutToRun? r with
    | none => exact .never fun _ script is => by simp [aboutToRun?_eq_some.2 is] at about
    | some script =>
      cases installed : s.policies.synchronizes with
      | false => exact .never fun is => by simp [installed] at is
      | true => exact .once installed (aboutToRun?_eq_some.1 about)

/-! ## The handler -/

theorem yields_resume : resume.Yields (answering heard) (fun _ => PassedThrough s []) s := by
  rintro t ⟨replies, advice, rfl, -⟩ _
  exact ⟨_, _, rfl⟩

/-- Whatever is answered, a stop before a script runs is passed through. -/
theorem yields_handleInstrumentation (r : Wire.PauseReport) :
    (handleInstrumentation r).Yields (answering heard)
      (fun _ t => ∃ asked, Synchronizes s r asked ∧ PassedThrough s asked t) s := by
  have asks := (synchronizes_iff (s := s) (r := r)).2 rfl
  rw [handleInstrumentation, Flow.yields_seq, Flow.yields_read]
  split
  · rename_i script about installed
    rw [about, installed] at asks
    rw [Flow.yields_seq]
    -- The target goes on from the state in which the policy has answered.
    rintro t ⟨replies, advice, rfl, -⟩ _
    refine yields_resume.mono fun _ u passed => ?_
    obtain ⟨_, _, rfl⟩ := passed
    exact ⟨_, asks, _, _, rfl⟩
  · rename_i otherwise
    refine yields_resume.mono fun _ u passed => ⟨[], ?_, passed⟩
    refine .never fun installed script about => ?_
    exact otherwise script (aboutToRun?_eq_some.2 about) installed

/-- The answers a stop before a script runs waits for: that of the policy, if it
is asked, and that to the request that lets the target go on. -/
def answersTo (s : Session) (asked : List Signal) (advice : Advice) (reply : Reply) :
    List (List Response) :=
  asked.map (fun _ => [.advice s.nextTicket advice]) ++ [[.reply (s.nextTicket + asked.length) reply]]

theorem finish_settle {ticket : Ticket} (sent : ticket < s.nextTicket) (reply : Reply) :
    (Work.settle ticket).finish Response.apply [[.reply ticket reply]] s =
      some ((), ((s.answer ticket reply).takeReply ticket).2) := by
  have comes : Flow.meanwhile Response.apply [.reply ticket reply] s = s.answer ticket reply :=
    if_pos sent
  have answered : (s.answer ticket reply).isAnswered ticket = true := by simp [isAnswered, answer]
  change (if isAnswered ticket (Flow.meanwhile _ _ s) then _ else none) = _
  rw [comes, if_pos answered]
  rfl

theorem finish_resume (s : Session) (reply : Reply) :
    ∃ t, resume.finish Response.apply [[.reply s.nextTicket reply]] s = some ((), t) :=
  ⟨_, finish_settle (s := setPausing false (s.issue .resume).2) (Nat.lt_succ_self _) reply⟩

theorem finish_consult (s : Session) (question : Inquiry) (advice : Advice) :
    ∃ answer t, (Work.consult question).finish Response.apply [[.advice s.nextTicket advice]] s =
      some (answer, t) ∧ t.nextTicket = s.nextTicket + 1 := by
  have comes : Flow.meanwhile Response.apply [.advice s.nextTicket advice] (s.inquire question).2 =
      (s.inquire question).2.advise s.nextTicket advice := if_pos (Nat.lt_succ_self _)
  have advised : ((s.inquire question).2.advise s.nextTicket advice).isAdvised s.nextTicket = true := by
    simp [isAdvised, advise]
  let taken := ((s.inquire question).2.advise s.nextTicket advice).takeAdvice s.nextTicket
  refine ⟨taken.1, taken.2, ?_, rfl⟩
  change (if isAdvised s.nextTicket (Flow.meanwhile _ _ (s.inquire question).2) then _ else none) = _
  rw [comes, if_pos advised]
  rfl

/-- Once that is answered it ends. -/
theorem finish_handleInstrumentation (asks : Synchronizes s r asked) (advice : Advice)
    (reply : Reply) :
    ∃ t, (handleInstrumentation r).finish Response.apply (answersTo s asked advice reply) s =
      some ((), t) := by
  have begins (waits : List (List Response)) :
      (handleInstrumentation r).finish Response.apply waits s =
        (match s.aboutToRun? r, s.policies.synchronizes with
          | some script, true => Work.consult (.synchronize script) >>= fun _ => resume
          | _, _ => resume).finish Response.apply waits s := by
    rw [handleInstrumentation]
    change Flow.finish _ (match s.aboutToRun? r, s.policies.synchronizes with
      | some script, true => _
      | _, _ => _) _ _ = _
    split <;> rfl
  cases asks with
  | @once script installed about =>
    rw [begins, aboutToRun?_eq_some.2 about, installed]
    obtain ⟨answer, t, consulted, next⟩ := finish_consult s (.synchronize script) advice
    obtain ⟨u, ended⟩ := finish_resume t reply
    rw [next] at ended
    exact ⟨u, Flow.finish_bind.2 ⟨[_], [_], answer, t, rfl, consulted, ended⟩⟩
  | never none =>
    rw [begins]
    split
    · rename_i script about installed
      exact absurd (aboutToRun?_eq_some.1 about) (none installed script)
    · exact finish_resume s reply

/-- **A stop before a script runs is passed through**, whatever it carries and
whatever is answered. It ends once that is answered. The policy for breakpoints
was asked once, if there is one and the script is known that the stop names, and
then one request was sent, which lets the target go on. No event is reported,
and beside that no pause is asked for any more everything is as it was: the run
to a location that is under way, the pause that is held, the frame that is
selected, and whether a vetoed pause steps over. -/
theorem passes_through (stop : r.reason = .instrumentation) (s : Session) :
    (∀ waits t, (handlePaused r).finish Response.apply waits s = some ((), t) →
      ∃ asked, Synchronizes s r asked ∧ PassedThrough s asked t) ∧
    ∀ asked, Synchronizes s r asked → ∀ advice reply,
      ∃ t, (handlePaused r).finish Response.apply (answersTo s asked advice reply) s =
        some ((), t) := by
  have handles : handlePaused r = handleInstrumentation r := by rw [handlePaused, if_pos stop]
  rw [handles]
  refine ⟨fun waits t ends => ?_, fun asked asks => finish_handleInstrumentation asks⟩
  exact (yields_handleInstrumentation r).finish
    (Drive.relies ⟨.receive (.paused r), waits, s, (), t⟩) ends

/-- A stop before the script of ten lines runs. -/
def beforeTenLines : Wire.PauseReport where
  callFrames := []
  reason := .instrumentation
  data := some (.obj [("scriptId", .str "7")])
  hitBreakpoints := []
  asyncStackTrace := none
  asyncStackTraceId := none

/-- A session that knows the script, is asked to pause, runs to a location and
steps over after a veto. -/
def underWayAndPausing : Session :=
  { (parsed tenLines false (connect 0 (.root ⟨0, "page", .frame⟩) {})).2 with
    policies := { synchronizes := true }
    isPausing := true
    autoStepOver := true
    destination := some ⟨⟨"7", 3, some 4, 0⟩, "there"⟩ }

theorem passes_through_underWay :
    ∃ asked t, Synchronizes underWayAndPausing beforeTenLines asked ∧ asked.length = 1 ∧
      (handlePaused beforeTenLines).finish Response.apply
        (answersTo underWayAndPausing asked .synchronized (.ok (.obj []))) underWayAndPausing =
          some ((), t) ∧
      PassedThrough underWayAndPausing asked t := by
  have passes := passes_through (r := beforeTenLines) rfl underWayAndPausing
  have asks : Synchronizes underWayAndPausing beforeTenLines _ := synchronizes_iff.2 rfl
  obtain ⟨t, ends⟩ := passes.2 _ asks .synchronized (.ok (.obj []))
  obtain ⟨asked, asks', passed⟩ := passes.1 _ t ends
  have same := (synchronizes_iff.1 asks').trans (synchronizes_iff.1 asks).symm
  exact ⟨asked, t, asks', by rw [same]; rfl, same ▸ ends, passed⟩

end Session

end DebugClient
