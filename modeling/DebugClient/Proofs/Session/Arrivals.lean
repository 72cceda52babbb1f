import DebugClient.Proofs.Session.Pauses
/-!
# Arrivals — who is told of the end of a run to a location

A run to a location may be begun for a listener. The next stop ends it,
wherever it is: the listener is told if the first frame of the stop is exactly
at the location, and then nothing else comes of the stop; otherwise it is a
stop like any other, and the listener is never told. A run that is begun for
another listener in the meantime takes its place.

`told_on_arrival` says so of every run of calls.
-/

namespace DebugClient

/-- The listener that is told of the end of a run to a location. -/
def Signal.reached? : Signal → Option String
  | .reached listener => some listener
  | _ => none

namespace Session

/-! ## What the past says -/

namespace Drive

/-- The listeners that were told, newest first. -/
def reached (e : Drive) : List String := e.told.filterMap Signal.reached?

/-- The run to a location that a call begins for a listener. -/
def begins? (e : Drive) : Option Destination :=
  match e.call with
  | .continueTo location (some listener) => some ⟨location, listener⟩
  | _ => none

/-- A stop ends every run, and a call that begins one begins it. -/
theorem aims?_eq (e : Drive) :
    e.aims? = if e.stop?.isSome then some none else e.begins?.map some := by
  unfold aims? stop? begins?
  cases e.call with
  | receive event => cases event <;> simp
  | continueTo location listener => cases listener <;> simp
  | _ => simp

/-- Only what ends or begins a run has a say in where the run under way ends. -/
theorem aims?_eq_none {e : Drive} : e.aims? = none ↔ e.stop? = none ∧ e.begins? = none := by
  rw [aims?_eq]
  cases e.stop? <;> simp

/-- No call both takes in a stop and begins a run. -/
theorem aims?_eq_some {e : Drive} {aim : Destination} :
    e.aims? = some (some aim) ↔ e.begins? = some aim := by
  unfold aims? stop? begins?
  cases e.call with
  | receive event => cases event <;> simp
  | continueTo location listener => cases listener <;> simp
  | _ => simp

end Drive

/-- **A run to a location is under way** after a past: a call has begun it, and
since then there was no stop, and no other run was begun. -/
def UnderWay (older : List Drive) (aim : Destination) : Prop :=
  ∃ since e before, older = since ++ e :: before ∧ e.begins? = some aim ∧
    ∀ later ∈ since, later.stop? = none ∧ later.begins? = none

theorem underWay_iff {older : List Drive} {aim : Destination} :
    UnderWay older aim ↔ latest Drive.aims? none older = some aim := by
  have found : latest Drive.aims? none older = some aim ↔
      older.findSome? Drive.aims? = some (some aim) := by
    rw [latest]
    cases older.findSome? Drive.aims? <;> simp
  rw [found, List.findSome?_eq_some_iff]
  simp only [UnderWay, Drive.aims?_eq_none, Drive.aims?_eq_some]

/-- **A stop is exactly at a location**: its first frame has the script, the
line and the column. -/
def StopsAt (frames : List CallFrame) (location : Location) : Prop :=
  ∃ top, frames.head? = some top ∧ top.location.scriptId = location.scriptId ∧
    top.location.lineNumber = location.lineNumber ∧
    top.location.columnNumber = location.columnNumber

theorem reachedBy_iff {aim : Destination} {r : Wire.PauseReport} {frames : List CallFrame} :
    Destination.reachedBy aim (.ofReport r frames) = true ↔ StopsAt frames aim.location := by
  cases frames <;>
    simp [Destination.reachedBy, PauseDetails.ofReport, StopsAt, Location.samePosition, and_assoc]

/-! ## One stop -/

/-- **How a stop ends the run to a location** that was under way. -/
inductive Stopped (s : Session) (heard : List (Ticket × Advice)) (r : Wire.PauseReport)
    (t : Session) : Prop where
  /-- The run ends there. Its listener is told, and nothing else happens. -/
  | there {asked : List Signal} {frames : List CallFrame} {aim : Destination}
      (expansion : Expansion s heard r asked frames) (is : s.destination = some aim)
      (stops : StopsAt frames aim.location)
      (besides : Besides { s with destination := none } (.reached aim.listener :: asked) t)
  /-- No run ends there. Nobody is told, and no run is under way any more. -/
  | elsewhere {asked log : List Signal} {frames : List CallFrame}
      (expansion : Expansion s heard r asked frames)
      (away : ∀ aim, s.destination = some aim → ¬ StopsAt frames aim.location)
      (since : t.log = log ++ s.log) (silent : (tellings log).filterMap Signal.reached? = [])
      (done : t.destination = none)

section Stops

variable {s : Session} {heard : List (Ticket × Advice)} {r : Wire.PauseReport}
  {asked : List Signal} {frames : List CallFrame} {e : Drive} {older : List Drive}

theorem Expansion.drives (h : Expansion s heard r asked frames) :
    asked.filter Signal.drives = asked := by
  cases h <;> rfl

theorem stopped_paused (was : Asked s) (stop : r.reason ≠ .instrumentation) :
    (handlePaused r).Yields (answering heard) (fun _ => Stopped s heard r) s := by
  refine yields_stop was stop (fun said frames aim t expansion is there _ besides => ?_)
    fun said frames t expansion away along => (along_presenting _ along).mono fun _ t' outcome => ?_
  · obtain ⟨_, _, _, _, rfl⟩ := besides
    exact .there expansion is (reachedBy_iff.1 there) ⟨_, _, _, _, rfl⟩
  have away (aim) (is : s.destination = some aim) : ¬ StopsAt frames aim.location := by
    rw [← reachedBy_iff (r := r), away aim is]
    exact Bool.false_ne_true
  obtain ⟨judged, verdict, along⟩ | ⟨ticket, said, ranges, skipping, along⟩ := outcome
  · refine .elsewhere expansion away along.log ?_ (congrArg Stance.destination along.stance)
    rw [expansion.tells_shown verdict]
    rcases verdict with rfl | rfl <;> rfl
  · refine .elsewhere expansion away along.log ?_ (congrArg Stance.destination along.stance)
    rw [(expansion.tells_vetoed skipping _ _).1]
    rfl

theorem stopped_of_errand (was : Asked e.before) (stop : e.stop? = some r)
    (ends : e.call.program.finish Response.apply e.waits e.before = some (e.result, e.after)) :
    Stopped e.before e.heard r e.after := by
  obtain ⟨called, on, isStop⟩ := Drive.stop_eq_some stop
  have stops : e.call.program.Yields (answering e.heard) (fun _ => Stopped e.before e.heard r)
      e.before := by
    rw [called]
    change (dispatch (.paused r)).Yields _ _ _
    rw [dispatch, Flow.yields_seq, Flow.yields_look, on, Bool.not_true, Bool.and_false]
    exact stopped_paused was isStop
  exact stops.finish e.relies ends

/-- **What a stop does with the run to a location** that the past says is
under way, its frames expanded. -/
structure EndsRun (older : List Drive) (e : Drive) (asked : List Signal)
    (frames : List CallFrame) : Prop where
  /-- The listener is told if the stop is exactly at the location, and nobody
  else is. -/
  told : ∀ listener, listener ∈ e.reached ↔
    ∃ location, UnderWay older ⟨location, listener⟩ ∧ StopsAt frames location
  /-- At most one listener is told, once. -/
  once : e.reached.length ≤ 1
  /-- No run is under way any more. -/
  done : e.after.destination = none
  /-- Where a listener is told, frames were asked for at most. Beside that the
  session is as it was, and the run is over: it holds the pause it held, the
  frame is selected that was, and nothing is reported. -/
  swallowed : ∀ listener ∈ e.reached,
    Besides { e.before with destination := none } (.reached listener :: asked) e.after

theorem Stopped.endsRun (stopped : Stopped e.before e.heard r e.after)
    (kept : Kept older e.before.stance) :
    ∃ asked frames, Expansion e.before e.heard r asked frames ∧ EndsRun older e asked frames := by
  have underWay {aim : Destination} : UnderWay older aim ↔ e.before.destination = some aim := by
    rw [underWay_iff, ← kept.aim]
    rfl
  have reached {log : List Signal} (since : e.after.log = log ++ e.before.log) :
      e.reached = (tellings log).filterMap Signal.reached? := by
    rw [Drive.reached, Drive.told, Drive.log, logSince_eq since]
  cases stopped with
  | @there asked frames aim expansion is stops besides =>
    have reached : e.reached = [aim.listener] := by
      rw [reached besides.log]
      change (tellings (.reached aim.listener :: asked.filter Signal.drives)).filterMap _ = _
      rw [expansion.drives, expansion.tells_reached]
      rfl
    refine ⟨asked, frames, expansion, ?_⟩
    constructor
    case told =>
      intro listener
      rw [reached, List.mem_singleton]
      constructor
      · rintro rfl
        exact ⟨aim.location, underWay.2 is, stops⟩
      · rintro ⟨location, way, -⟩
        rw [Option.some.inj (is.symm.trans (underWay.1 way))]
    case once =>
      rw [reached]
      exact Nat.le_refl 1
    case done =>
      obtain ⟨_, _, _, _, after⟩ := besides
      rw [after]
    case swallowed =>
      intro listener told
      rw [reached, List.mem_singleton] at told
      exact told ▸ besides
  | @elsewhere asked log frames expansion away since silent done =>
    have nobody (listener : String) : listener ∉ e.reached := by
      rw [reached since, silent]
      exact List.not_mem_nil
    refine ⟨asked, frames, expansion, ?_⟩
    constructor
    case told =>
      intro listener
      refine iff_of_false (nobody listener) ?_
      rintro ⟨location, way, stops⟩
      exact away _ (underWay.1 way) stops
    case once =>
      rw [reached since, silent]
      exact Nat.zero_le 1
    case done => exact done
    case swallowed => exact fun listener told => absurd told (nobody listener)

end Stops

/-! ## Runs -/

/-- **How a call deals with runs to locations** after a past. -/
structure Arrival (older : List Drive) (e : Drive) : Prop where
  /-- Only at a stop a listener is told. -/
  quiet : e.stop? = none → e.reached = []
  /-- A stop ends the run that is under way. -/
  stops : ∀ r, e.stop? = some r →
    ∃ asked frames, Expansion e.before e.heard r asked frames ∧ EndsRun older e asked frames

section Runs

variable {seat : Nat} {target : Target} {settings : Settings} {past newer older : List Drive}
  {e : Drive} {s : Session} {listener : String}

theorem arrival_of_run (run : Flow.Run driving (connect seat target settings) (newer ++ e :: older) s) :
    Arrival older e := by
  obtain ⟨before, ends⟩ := run.split
  obtain ⟨asked, kept⟩ := kept_run before
  refine ⟨fun none => ?_, fun r stop => (stopped_of_errand asked stop ends).endsRun kept⟩
  rw [Drive.reached]
  rcases told_of_stop_none none (deed_of_errand asked ends).2 with told | told <;> rw [told] <;> rfl

/-- How often a listener was told. -/
def timesTold (listener : String) (past : List Drive) : Nat :=
  (past.flatMap Drive.reached).count listener

/-- How often a run to a location was begun for a listener. -/
def timesBegun (listener : String) (past : List Drive) : Nat :=
  (past.filterMap Drive.begins?).countP (·.listener = listener)

/-- How many runs are under way for a listener, which is one at most. -/
def timesDue (listener : String) (past : List Drive) : Nat :=
  if (latest Drive.aims? none past).any (·.listener = listener) then 1 else 0

theorem EndsRun.count_le {asked : List Signal} {frames : List CallFrame}
    (ends : EndsRun older e asked frames) : e.reached.count listener ≤ timesDue listener older := by
  by_cases told : listener ∈ e.reached
  · obtain ⟨location, way, -⟩ := (ends.told listener).1 told
    rw [timesDue, underWay_iff.1 way, Option.any_some, if_pos (decide_eq_true rfl)]
    exact Nat.le_trans List.count_le_length ends.once
  · rw [List.count_eq_zero.2 told]
    exact Nat.zero_le _

/-- **Each time a listener is told** takes one of the runs that were begun for
it, and so does the run that is under way. -/
theorem timesTold_add_due_le
    (arrivals : ∀ newer e older, past = newer ++ e :: older → Arrival older e) :
    timesTold listener past + timesDue listener past ≤ timesBegun listener past := by
  induction past with
  | nil => exact Nat.le_refl 0
  | cons e older ih =>
    have before := ih fun newer e' older' split => arrivals (e :: newer) e' older' (by rw [split]; rfl)
    have arrival := arrivals [] e older rfl
    have told : timesTold listener (e :: older) =
        e.reached.count listener + timesTold listener older := by
      rw [timesTold, List.flatMap_cons, List.count_append]
      rfl
    have due : timesDue listener (e :: older) =
        if (e.aims?.getD (latest Drive.aims? none older)).any (·.listener = listener) then 1 else 0 := by
      rw [timesDue, latest_cons]
    have begun : timesBegun listener (e :: older) =
        (if e.begins?.any (·.listener = listener) then 1 else 0) + timesBegun listener older := by
      rw [timesBegun, List.filterMap_cons]
      cases e.begins? with
      | none => simp [timesBegun]
      | some aim => simp [timesBegun, List.countP_cons, Nat.add_comm]
    rw [told, due, begun]
    cases stop : e.stop? with
    | some r =>
      obtain ⟨asked, frames, -, ends⟩ := arrival.stops r stop
      have ended : e.aims? = some none := by simp [Drive.aims?_eq, stop]
      have fewer : e.reached.count listener ≤ timesDue listener older := ends.count_le
      rw [ended]
      simp only [Option.getD_some, Option.any_none, Bool.false_eq_true, if_false]
      omega
    | none =>
      have aims : e.aims? = e.begins?.map some := by simp [Drive.aims?_eq, stop]
      rw [arrival.quiet stop, List.count_nil, aims]
      cases e.begins? with
      | none =>
        rw [timesDue] at before
        simpa using before
      | some aim =>
        simp only [Option.map_some, Option.getD_some]
        omega

/-- **A listener is told on arrival** in every run of calls, at most once for
each run to a location that was begun for it: at the first stop since it was
begun, if no other was begun in between and the stop is exactly at the
location. Nothing else comes of that stop. Every other stop ends the run that
is under way as well, and nobody is told. -/
theorem told_on_arrival (run : Flow.Run driving (connect seat target settings) past s) :
    (∀ listener, timesTold listener past ≤ timesBegun listener past) ∧
      ∀ newer e older, past = newer ++ e :: older → Arrival older e := by
  have arrivals (newer e older) (split : past = newer ++ e :: older) : Arrival older e :=
    arrival_of_run (split ▸ run)
  exact ⟨fun listener => Nat.le_of_add_right_le (timesTold_add_due_le arrivals), arrivals⟩

end Runs

/-- A script of ten lines. -/
def tenLines : Wire.ScriptReport where
  scriptId := "7"
  url := "app.js"
  startLine := 0
  startColumn := 0
  endLine := 9
  endColumn := 0
  executionContextId := 1
  hash := ""
  auxData := none
  isLiveEdit := false
  sourceMapUrl := none
  hasSourceUrl := false
  isModule := false
  length := 99
  stackTrace := none
  codeOffset := none
  language := .javaScript
  embedderName := none

/-- A stop on a line of it. -/
def stopOn (line : Nat) : Wire.PauseReport where
  callFrames :=
    [⟨"frame", "main", none, ⟨"7", line, some 4⟩, "app.js", [], { type := .undefined }, none, none⟩]
  reason := .other
  data := none
  hitBreakpoints := []
  asyncStackTrace := none
  asyncStackTraceId := none

/-- A listener is told the second time: there is a stop on another line first.
Newest first. -/
def runTwice : List (DriveCall × List (List Response)) :=
  [(.receive (.paused (stopOn 3)), []),
    (.continueTo ⟨"7", 3, some 4, 0⟩ (some "there"), [[.reply 4 (.ok (.obj []))]]),
    (.receive (.paused (stopOn 2)), []),
    (.continueTo ⟨"7", 3, some 4, 0⟩ (some "there"), [[.reply 3 (.ok (.obj []))]]),
    (.receive (.scriptParsed tenLines), []),
    (.enable, [[.reply 0 (.ok (.obj [("debuggerId", .str "d")]))], [.reply 1 (.ok (.obj []))],
      [.reply 2 (.ok (.obj []))]])]

theorem told_once_there :
    ∃ past s, Flow.Run driving (connect 0 (.root ⟨0, "page", .frame⟩) {}) past s ∧
      past.map Drive.reached = [["there"], [], [], [], [], []] ∧ timesBegun "there" past = 2 ∧
      (∀ listener, timesTold listener past ≤ timesBegun listener past) ∧
      ∀ newer e older, past = newer ++ e :: older → Arrival older e := by
  have made : Flow.errands driving (connect 0 (.root ⟨0, "page", .frame⟩) {}) runTwice =
      some (_, _) := rfl
  have run := Flow.run_of_errands made
  exact ⟨_, _, run, rfl, rfl, told_on_arrival run⟩

end Session

end DebugClient
