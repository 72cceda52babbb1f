import DebugClient.Proofs.Session.Driving
import DebugClient.Proofs.Session.Journal
/-!
# Pauses — what a session holds, selects and reports

Each call of a session ends before the next one comes. Then the past says
everything: whether the session is paused, where the run under way ends,
and whether a vetoed pause steps over are what the latest call left that
had a say in it (`Kept`).

`stops_taken_in` says what is held, selected and reported of stops, and
`veto_steps` which step follows a veto. Policies may answer what they
like, and so may the backend; both answer while a call waits and call
nothing themselves.
-/

namespace DebugClient

/-! ## What the log says -/

namespace Signal

/-- A run to a location has ended. -/
def reaches : Signal → Bool
  | .reached _ => true
  | _ => false

/-- The policy has vetoed a pause. -/
def vetoes : Signal → Bool
  | .judged _ false => true
  | _ => false

/-- The pause that is reported. -/
def shown? : Signal → Option PauseDetails
  | .debugger (.paused d) => some d
  | _ => none

end Signal

namespace Session

/-- What a log tells beside what is asked, newest first. -/
def tellings (log : List Signal) : List Signal := log.filter fun x => !x.asks

/-- A command steps over. -/
def isStepOver : Wire.Command → Bool
  | .stepOver _ => true
  | _ => false

theorem isStepOver_autoStep (stepsOver : Bool) (ranges : List Range) :
    isStepOver (autoStep stepsOver ranges) = stepsOver := by
  cases stepsOver <;> rfl

theorem tellings_of_asks {log : List Signal} (asks : ∀ x ∈ log, x.asks = true) :
    tellings log = [] :=
  List.filter_eq_nil_iff.2 fun x there => by simp [asks x there]

section Asking

variable {s : Session} {heard : List (Ticket × Advice)} {r : Wire.PauseReport}
  {asked judged said : List Signal} {frames : List CallFrame} {skips : Bool} {mode : StepMode}
  {top? : Option CallFrame} {ranges : List Range} {d : PauseDetails}

/-- Frames are asked of the policy, and nothing else is. -/
theorem Expansion.asks (h : Expansion s heard r asked frames) :
    tellings asked = [] ∧ commandsOf asked = [] := by
  cases h <;> exact ⟨rfl, rfl⟩

/-- Ranges are asked of the policy, and nothing else is. -/
theorem Skipping.asks (h : Skipping skips heard mode top? said ranges) :
    tellings said = [] ∧ commandsOf said = [] := by
  cases h <;> exact ⟨rfl, rfl⟩

theorem Expansion.tells_reached (h : Expansion s heard r asked frames) (listener : String) :
    tellings (.reached listener :: asked) = [.reached listener] := by
  have tells : tellings (.reached listener :: asked) = .reached listener :: tellings asked := rfl
  rw [tells, h.asks.1]

theorem Expansion.tells_shown (h : Expansion s heard r asked frames)
    (verdict : judged = [] ∨ judged = [.judged d true]) :
    tellings (.debugger (.paused d) :: (judged ++ asked)) = .debugger (.paused d) :: judged := by
  have tells : tellings (.debugger (.paused d) :: (judged ++ asked)) =
      .debugger (.paused d) :: tellings (judged ++ asked) := rfl
  have both : tellings (judged ++ asked) = tellings judged ++ tellings asked := List.filter_append ..
  rw [tells, both, h.asks.1, List.append_nil]
  rcases verdict with rfl | rfl <;> rfl

/-- All that a veto tells is the verdict, and its one command is the step. -/
theorem Expansion.tells_vetoed (h : Expansion s heard r asked frames)
    (skipping : Skipping skips heard mode top? said ranges) (ticket : Ticket)
    (step : Wire.Command) :
    tellings (.request ticket step :: (said ++ .judged d false :: asked)) = [.judged d false] ∧
      commandsOf (.request ticket step :: (said ++ .judged d false :: asked)) = [step] := by
  have tells : tellings (.request ticket step :: (said ++ .judged d false :: asked)) =
      tellings said ++ .judged d false :: tellings asked := List.filter_append ..
  have commands : commandsOf (.request ticket step :: (said ++ .judged d false :: asked)) =
      step :: (commandsOf said ++ commandsOf asked) := congrArg (step :: ·) (List.filterMap_append ..)
  rw [tells, commands, h.asks.1, h.asks.2, skipping.asks.1, skipping.asks.2]
  exact ⟨rfl, rfl⟩

end Asking

/-! ## What the past says -/

namespace Drive

/-- The stop a call has taken in: the agent is enabled, and it is not a stop
before a script runs. -/
def stop? (e : Drive) : Option Wire.PauseReport :=
  match e.call with
  | .receive (.paused r) =>
    if e.before.isEnabled = true ∧ r.reason ≠ .instrumentation then some r else none
  | _ => none

/-- What a call has told, newest first. -/
def told (e : Drive) : List Signal := tellings e.log

theorem stop_eq_some {e : Drive} {r : Wire.PauseReport} (h : e.stop? = some r) :
    e.call = .receive (.paused r) ∧ e.before.isEnabled = true ∧ r.reason ≠ .instrumentation := by
  unfold stop? at h
  split at h
  · rename_i r' called
    split at h
    · rename_i takes
      obtain rfl := Option.some.inj h
      exact ⟨called, takes⟩
    · cases h
  · cases h

/-- The run to a location that was under way has ended at the stop. -/
def swallowed (e : Drive) : Bool := e.told.any Signal.reaches

/-- The policy has vetoed the pause. -/
def vetoed (e : Drive) : Bool := e.told.any Signal.vetoes

/-- The global object was cleared. -/
def cleared (e : Drive) : Bool := e.told.any Signal.clears

/-- The pauses that were reported, newest first. -/
def shown (e : Drive) : List PauseDetails := e.told.filterMap Signal.shown?

/-- The commands that were sent, newest first. -/
def commands (e : Drive) : List Wire.Command := commandsOf e.log

/-- Whether the session is paused after a call, if the call has a say in
it: a stop that is not swallowed, the end of a pause, or a clear. -/
def pauses? (e : Drive) : Option Bool :=
  match e.call with
  | .receive (.paused _) => if e.stop?.isSome && !e.swallowed then some true else none
  | .receive .resumed | .receive .contextsCleared | .disable => some false
  | .receive (.contextDestroyed _) => if e.cleared then some false else none
  | _ => none

/-- Where the run under way ends after a call, if the call has a say in it:
a run that begins, or a stop. -/
def aims? (e : Drive) : Option (Option Destination) :=
  match e.call with
  | .receive (.paused _) => if e.stop?.isSome then some none else none
  | .continueTo location (some listener) => some (some ⟨location, listener⟩)
  | _ => none

/-- The call steps over: the user has called for it, or the pause was
vetoed and stepped over. -/
def ranStepOver (e : Drive) : Bool :=
  match e.call with
  | .stepOver => true
  | _ => e.vetoed && e.commands.any isStepOver

/-- Whether a vetoed pause steps over after a call, if the call has a say
in it: a step over, a pause that is reported, or a clear. -/
def stepsOver? (e : Drive) : Option Bool :=
  if e.cleared || !e.shown.isEmpty then some false
  else if e.ranStepOver then some true
  else none

end Drive

/-- What the latest call says that has a say. -/
def latest {β : Type} (tells : Drive → Option β) (first : β) (past : List Drive) : β :=
  (past.findSome? tells).getD first

theorem latest_cons {β : Type} (tells : Drive → Option β) (first : β) (e : Drive)
    (past : List Drive) : latest tells first (e :: past) = (tells e).getD (latest tells first past) := by
  unfold latest
  rw [List.findSome?_cons]
  cases tells e <;> rfl

/-- **The past says what a session holds**: its pause, where the run under
way ends, and how it steps after a veto. Without an agent there is no
pause, and without a pause no frame is selected. -/
structure Kept (past : List Drive) (v : Stance) : Prop where
  /-- Whether it is paused. -/
  paused : v.pause.isSome = latest Drive.pauses? false past
  /-- Only an agent that is enabled pauses. -/
  off : v.enabled = false → v.pause = none
  /-- Only of a pause a frame is selected. -/
  selected : v.selected.isSome = true → v.pause.isSome = true
  /-- Where the run under way ends. -/
  aim : v.destination = latest Drive.aims? none past
  /-- Whether a vetoed pause steps over. -/
  steps : v.stepsOver = latest Drive.stepsOver? false past

section Step

variable {past : List Drive} {e : Drive}

/-- A call says whether a vetoed pause steps over after it. -/
theorem Deed.steps (deed : Deed e.before e.heard e.call e.log e.after.stance) :
    e.after.stance.stepsOver = e.stepsOver?.getD e.before.stance.stepsOver := by
  unfold Drive.stepsOver? Drive.ranStepOver Drive.cleared Drive.shown Drive.vetoed Drive.commands Drive.told
  generalize e.log = log at deed
  generalize e.call = c at deed
  generalize e.after.stance = v at deed
  cases deed with
  | asked isAside asks =>
    rw [tellings_of_asks asks]
    cases c <;> first | rfl | exact isAside.elim
  | steppedOver asks => rw [tellings_of_asks asks]; rfl
  | aimed asks => rw [tellings_of_asks asks]; rfl
  | enabled off asks => rw [tellings_of_asks asks]; rfl
  | swallowed on stop expansion there => rw [expansion.tells_reached]; rfl
  | shown on stop expansion away verdict => 
    rw [expansion.tells_shown verdict]
    rcases verdict with rfl | rfl <;> rfl
  | vetoed on stop expansion away skipping =>
    rename_i ranges _
    obtain ⟨tells, commands⟩ := expansion.tells_vetoed skipping _ _
    have steps : [autoStep e.before.autoStepOver ranges].any isStepOver = e.before.stance.stepsOver := by
      rw [List.any_cons, isStepOver_autoStep]
      exact Bool.or_false _
    rw [tells, commands, steps]
    change e.before.stance.stepsOver = _
    cases e.before.stance.stepsOver <;> rfl
  | _ => rfl

/-- A call says whether the session is paused after it. -/
theorem Deed.paused (deed : Deed e.before e.heard e.call e.log e.after.stance)
    (calm : e.before.isEnabled = false → e.before.pause = none) :
    e.after.stance.pause.isSome = e.pauses?.getD e.before.stance.pause.isSome := by
  unfold Drive.pauses? Drive.stop? Drive.swallowed Drive.cleared Drive.told
  generalize e.log = log at deed
  generalize e.call = c at deed
  generalize e.after.stance = v at deed
  cases deed with
  | @dropped event off ofAgent => 
    have none : e.before.stance.pause = none := calm off
    rw [none]
    cases event with
    | paused r => simp [off]
    | _ => rfl
  | @asked c log isAside asks =>
    rw [tellings_of_asks asks]
    cases c with
    | receive event =>
      cases event with
      | paused r => 
        have stop : r.reason = .instrumentation := isAside
        simp [stop]
      | resumed => exact isAside.elim
      | contextsCleared => exact isAside.elim
      | _ => rfl
    | disable => exact isAside.elim
    | _ => rfl
  | stayedOff off =>
    have none : e.before.stance.pause = none := calm off
    rw [none]
    rfl
  | swallowed on stop expansion there => 
    rw [expansion.tells_reached]
    simp [on, stop, Signal.reaches]
  | shown on stop expansion away verdict =>
    rw [expansion.tells_shown verdict]
    rcases verdict with rfl | rfl <;> simp [on, stop, Signal.reaches]
  | vetoed on stop expansion away skipping =>
    rw [(expansion.tells_vetoed skipping _ _).1]
    simp [on, stop, Signal.reaches]
  | _ => rfl

/-- A call says where the run under way ends after it. -/
theorem Deed.aim (deed : Deed e.before e.heard e.call e.log e.after.stance) :
    e.after.stance.destination = e.aims?.getD e.before.stance.destination := by
  unfold Drive.aims? Drive.stop?
  generalize e.log = log at deed
  generalize e.call = c at deed
  generalize e.after.stance = v at deed
  cases deed with
  | @dropped event off ofAgent => 
    cases event with
    | paused r => simp [off]
    | _ => rfl
  | @asked c log isAside asks =>
    cases c with
    | receive event =>
      cases event with
      | paused r => 
        have stop : r.reason = .instrumentation := isAside
        simp [stop]
      | _ => rfl
    | continueTo => exact isAside.elim
    | _ => rfl
  | @aimed location listener log asks => cases listener <;> rfl
  | swallowed on stop expansion there => simp [on, stop]
  | shown on stop expansion away verdict => simp [on, stop]
  | vetoed on stop expansion away skipping => simp [on, stop]
  | _ => rfl

/-- Only an agent that is enabled pauses, and only of a pause a frame is
selected. -/
theorem Deed.calm {s : Session} {heard : List (Ticket × Advice)} {c : DriveCall} {log : List Signal}
    {v : Stance} (deed : Deed s heard c log v) (off : s.stance.enabled = false → s.stance.pause = none)
    (selected : s.stance.selected.isSome = true → s.stance.pause.isSome = true) :
    (v.enabled = false → v.pause = none) ∧ (v.selected.isSome = true → v.pause.isSome = true) := by
  cases deed with
  | disabled => exact ⟨fun _ => rfl, nofun⟩
  | resumed => exact ⟨fun _ => rfl, nofun⟩
  | allCleared => exact ⟨fun _ => rfl, nofun⟩
  | lastCleared => exact ⟨fun _ => rfl, nofun⟩
  | enabled => exact ⟨nofun, selected⟩
  | shown on => exact ⟨fun is => absurd (on.symm.trans is) nofun, fun _ => rfl⟩
  | vetoed on => exact ⟨fun is => absurd (on.symm.trans is) nofun, fun _ => rfl⟩
  | _ => exact ⟨off, selected⟩

theorem Kept.step (h : Kept past e.before.stance)
    (deed : Deed e.before e.heard e.call e.log e.after.stance) : Kept (e :: past) e.after.stance := by
  obtain ⟨off, selected⟩ := deed.calm h.off h.selected
  refine ⟨?_, off, selected, ?_, ?_⟩ <;> rw [latest_cons]
  · rw [← h.paused]
    exact deed.paused h.off
  · rw [← h.aim]
    exact deed.aim
  · rw [← h.steps]
    exact deed.steps

end Step

/-! ## Runs -/

section Runs

variable {seat : Nat} {target : Target} {settings : Settings} {past newer older : List Drive}
  {e : Drive} {s : Session}

theorem kept_run (run : Flow.Run driving (connect seat target settings) past s) :
    Asked s ∧ Kept past s.stance := by
  induction run with
  | start =>
    have asked : Asked (connect seat target settings) := fun a there => absurd there List.not_mem_nil
    exact ⟨asked, rfl, fun _ => rfl, fun is => absurd is Bool.false_ne_true, rfl, rfl⟩
  | @call past s s' c waits a run ends ih =>
    obtain ⟨asked, kept⟩ := ih
    obtain ⟨asked', deed⟩ := deed_of_errand (e := ⟨c, waits, s, a, s'⟩) asked ends
    exact ⟨asked', kept.step deed⟩

/-- A call of a run does a deed, after a past that says what was kept. -/
theorem deed_run (run : Flow.Run driving (connect seat target settings) (newer ++ e :: older) s) :
    Kept older e.before.stance ∧ Deed e.before e.heard e.call e.log e.after.stance := by
  obtain ⟨before, ends⟩ := run.split
  obtain ⟨asked, kept⟩ := kept_run before
  exact ⟨kept, (deed_of_errand asked ends).2⟩

end Runs

/-- **How a stop is taken in** whose frames were expanded, after a past. -/
structure TakenIn (older : List Drive) (e : Drive) (r : Wire.PauseReport) (frames : List CallFrame) :
    Prop where
  /-- It is swallowed if the run under way ends there. -/
  swallowed : e.swallowed =
    (latest Drive.aims? none older).any (Destination.reachedBy · (.ofReport r frames))
  /-- It is reported unless it is swallowed or vetoed. -/
  shown : e.shown = if e.swallowed || e.vetoed then [] else [.ofReport r frames]
  /-- Where it is reported its first frame is selected. -/
  selected : e.shown ≠ [] → e.after.selected.map (·.key) = frames.head?.map (·.key)

/-- A call that takes in no stop tells at most that the global object is gone. -/
theorem told_of_stop_none {e : Drive} (none : e.stop? = none)
    (deed : Deed e.before e.heard e.call e.log e.after.stance) :
    e.told = [] ∨ e.told = [.debugger .globalObjectCleared] := by
  unfold Drive.stop? at none
  unfold Drive.told
  generalize e.log = log at deed
  generalize e.call = c at deed none
  generalize e.after.stance = v at deed
  cases deed with
  | asked isAside asks => exact .inl (tellings_of_asks asks)
  | steppedOver asks => exact .inl (tellings_of_asks asks)
  | aimed asks => exact .inl (tellings_of_asks asks)
  | enabled off asks => exact .inl (tellings_of_asks asks)
  | disabled on asks =>
    rename_i log
    have tells : tellings (.debugger .globalObjectCleared :: log) =
        .debugger .globalObjectCleared :: tellings log := rfl
    rw [tells, tellings_of_asks asks]
    exact .inr rfl
  | swallowed on stop => simp [on, stop] at none
  | shown on stop => simp [on, stop] at none
  | vetoed on stop => simp [on, stop] at none
  | allCleared => exact .inr rfl
  | lastCleared => exact .inr rfl
  | _ => exact .inl rfl

/-- Nothing is reported but stops that are taken in. -/
theorem shown_of_stop_none {e : Drive} (none : e.stop? = none)
    (deed : Deed e.before e.heard e.call e.log e.after.stance) : e.shown = [] := by
  rw [Drive.shown]
  rcases told_of_stop_none none deed with told | told <;> rw [told] <;> rfl

/-- A stop is taken in one way or the other, after its frames were
expanded. -/
theorem takenIn_of_stop {older : List Drive} {e : Drive} {r : Wire.PauseReport}
    (stop : e.stop? = some r) (kept : Kept older e.before.stance)
    (deed : Deed e.before e.heard e.call e.log e.after.stance) :
    ∃ asked frames, Expansion e.before e.heard r asked frames ∧ TakenIn older e r frames := by
  obtain ⟨called, on, isStop⟩ := Drive.stop_eq_some stop
  have aim : ∀ d, (latest Drive.aims? none older).any (Destination.reachedBy · d) =
      e.before.arrivesAt d := fun d => by rw [← kept.aim]; rfl
  have swallowed : e.swallowed = (tellings e.log).any Signal.reaches := rfl
  have vetoed : e.vetoed = (tellings e.log).any Signal.vetoes := rfl
  have shown : e.shown = (tellings e.log).filterMap Signal.shown? := rfl
  have selected : e.after.selected.map (·.key) = e.after.stance.selected := rfl
  rw [called] at deed
  generalize e.log = log at *
  generalize e.after.stance = v at *
  cases deed with
  | dropped off => exact absurd (on.symm.trans off) nofun
  | asked isAside => exact absurd isAside isStop
  | @swallowed _ asked frames listener _ _ expansion there =>
    rw [expansion.tells_reached] at swallowed vetoed shown
    refine ⟨asked, frames, expansion, ?_, ?_, fun is => absurd shown is⟩
    · rw [swallowed, aim, there]
      rfl
    · rw [shown, swallowed]
      rfl
  | @shown _ asked judged frames _ _ expansion away verdict =>
    rw [expansion.tells_shown verdict] at swallowed vetoed shown
    refine ⟨asked, frames, expansion, ?_, ?_, fun _ => selected⟩
    · rw [swallowed, aim, away]
      rcases verdict with rfl | rfl <;> rfl
    · rw [shown, swallowed, vetoed]
      rcases verdict with rfl | rfl <;> rfl
  | @vetoed _ asked said frames ranges ticket _ _ expansion away skipping =>
    rw [(expansion.tells_vetoed skipping _ _).1] at swallowed vetoed shown
    refine ⟨asked, frames, expansion, ?_, ?_, fun is => absurd shown is⟩
    · rw [swallowed, aim, away]
      rfl
    · rw [shown, swallowed, vetoed]
      rfl

/-- **Pauses in every run**: a session is paused exactly if the latest call
that has a say in it was a stop that is not swallowed, and only then a
frame is selected. A stop that is taken in is reported unless it is
swallowed or vetoed, and then its first frame is selected; nothing else is
reported. -/
theorem stops_taken_in {seat : Nat} {target : Target} {settings : Settings} {past : List Drive}
    {s : Session} (run : Flow.Run driving (connect seat target settings) past s) :
    s.isPaused = latest Drive.pauses? false past ∧
      (s.selected.isSome = true → s.isPaused = true) ∧
      ∀ newer e older, past = newer ++ e :: older →
        (e.stop? = none → e.shown = []) ∧
          ∀ r, e.stop? = some r → ∃ asked frames, Expansion e.before e.heard r asked frames ∧
            TakenIn older e r frames := by
  have kept := (kept_run run).2
  refine ⟨kept.paused, fun is => ?_, fun newer e older split => ?_⟩
  · have selected : s.stance.selected.isSome = true := by
      change (s.selected.map (·.key)).isSome = true
      rw [Option.isSome_map]
      exact is
    exact kept.selected selected
  · obtain ⟨before, deed⟩ := deed_run (split ▸ run)
    exact ⟨fun none => shown_of_stop_none none deed, fun r stop => takenIn_of_stop stop before deed⟩

/-- A session whose policy vetoes the first pause: it is enabled, steps over,
and stops twice. Newest first. -/
def vetoedOnce : List (DriveCall × List (List Response)) :=
  [(.receive (.paused ⟨[], .debugCommand, none, [], none, none⟩), []),
    (.receive (.paused ⟨[], .other, none, [], none, none⟩), [[.reply 4 (.ok (.obj []))]]),
    (.stepOver, [[.reply 3 (.ok (.obj []))]]),
    (.install { beforePaused := some fun n _ => n != 0 }, []),
    (.enable, [[.reply 0 (.ok (.obj [("debuggerId", .str "d")]))], [.reply 1 (.ok (.obj []))],
      [.reply 2 (.ok (.obj []))]])]

theorem paused_after_veto :
    ∃ past s, Flow.Run driving (connect 0 (.root ⟨0, "page", .frame⟩) {}) past s ∧
      past.length = 5 ∧ past.flatMap Drive.shown ≠ [] ∧ s.isPaused = true := by
  have made : Flow.errands driving (connect 0 (.root ⟨0, "page", .frame⟩) {}) vetoedOnce =
      some (_, _) := rfl
  have run := Flow.run_of_errands made
  exact ⟨_, _, run, rfl, nofun, (stops_taken_in run).1.trans rfl⟩

/-- Only a stop is vetoed, and a step follows. -/
theorem vetoed_deed {e : Drive} (vetoed : e.vetoed = true)
    (deed : Deed e.before e.heard e.call e.log e.after.stance) :
    ∃ r asked frames said ranges ticket, e.stop? = some r ∧
      Expansion e.before e.heard r asked frames ∧
      Skipping e.before.policies.skipsRanges e.heard (autoMode e.before.autoStepOver) frames.head?
        said ranges ∧
      e.log = .request ticket (autoStep e.before.autoStepOver ranges) ::
        (said ++ .judged (.ofReport r frames) false :: asked) := by
  have tells : (tellings e.log).any Signal.vetoes = true := vetoed
  generalize called : e.call = c at deed
  generalize e.log = log at *
  generalize e.after.stance = v at deed
  cases deed with
  | @vetoed r asked said frames ranges ticket on stop expansion away skipping =>
    refine ⟨r, asked, frames, said, ranges, ticket, ?_, expansion, skipping, rfl⟩
    rw [Drive.stop?, called]
    exact if_pos ⟨on, stop⟩
  | asked isAside asks => rw [tellings_of_asks asks] at tells; cases tells
  | steppedOver asks => rw [tellings_of_asks asks] at tells; cases tells
  | aimed asks => rw [tellings_of_asks asks] at tells; cases tells
  | enabled off asks => rw [tellings_of_asks asks] at tells; cases tells
  | @disabled log on asks =>
    have cleared : tellings (.debugger .globalObjectCleared :: log) =
        .debugger .globalObjectCleared :: tellings log := rfl
    rw [cleared, tellings_of_asks asks] at tells
    cases tells
  | swallowed on stop expansion there => rw [expansion.tells_reached] at tells; cases tells
  | shown on stop expansion away verdict =>
    rw [expansion.tells_shown verdict] at tells
    rcases verdict with rfl | rfl <;> cases tells
  | _ => cases tells

/-- **A veto steps on once**: the one command it sends steps over if
stepping over was called for, by the user or by an earlier veto, since the
latest pause that was reported and the latest clear, and into otherwise.
The ranges it skips are those of the first frame of the vetoed pause. -/
theorem veto_steps {seat : Nat} {target : Target} {settings : Settings} {newer older : List Drive}
    {e : Drive} {s : Session}
    (run : Flow.Run driving (connect seat target settings) (newer ++ e :: older) s)
    (vetoed : e.vetoed = true) :
    ∃ r asked frames said ranges ticket, e.stop? = some r ∧
      Expansion e.before e.heard r asked frames ∧
      Skipping e.before.policies.skipsRanges e.heard (autoMode (latest Drive.stepsOver? false older))
        frames.head? said ranges ∧
      e.log = .request ticket (autoStep (latest Drive.stepsOver? false older) ranges) ::
        (said ++ .judged (.ofReport r frames) false :: asked) ∧
      e.commands = [autoStep (latest Drive.stepsOver? false older) ranges] := by
  obtain ⟨kept, deed⟩ := deed_run run
  have steps : e.before.autoStepOver = latest Drive.stepsOver? false older := kept.steps
  obtain ⟨r, asked, frames, said, ranges, ticket, stop, expansion, skipping, log⟩ :=
    vetoed_deed vetoed deed
  have commands : e.commands = [autoStep e.before.autoStepOver ranges] := by
    rw [Drive.commands, log]
    exact (expansion.tells_vetoed skipping _ _).2
  rw [steps] at skipping log commands
  exact ⟨r, asked, frames, said, ranges, ticket, stop, expansion, skipping, log, commands⟩

theorem steps_over_after_veto :
    ∃ (newest e : Drive) (older : List Drive) (s : Session),
      Flow.Run driving (connect 0 (.root ⟨0, "page", .frame⟩) {}) (newest :: e :: older) s ∧
      e.vetoed = true ∧ ∃ ranges, e.commands = [.stepOver ranges] := by
  have made : Flow.errands driving (connect 0 (.root ⟨0, "page", .frame⟩) {}) vetoedOnce =
      some (_, _) := rfl
  have run := Flow.run_of_errands made
  obtain ⟨-, -, -, -, ranges, -, -, -, -, -, commands⟩ := @veto_steps _ _ _ [_] _ _ _ run rfl
  exact ⟨_, _, _, _, run, rfl, ranges, commands⟩

end Session

end DebugClient
