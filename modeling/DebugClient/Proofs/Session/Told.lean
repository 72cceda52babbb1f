import DebugClient.Proofs.Flow.Keeping
import DebugClient.Proofs.Session.Journal
import DebugClient.Proofs.Session.Requests
/-!
# Told — the settings the backend knows

The settings are told to the backend when its agent is enabled, and each
again when it is changed while the agent is. Disabling tells it of a depth
that is no setting, and changes of settings go on while it lasts. Still, as
long as the agent is enabled or being enabled, what was told since it last
began to be is what the settings are (`told_since_enabling`).

`Terms` is what of a session this is about. `Heeds` says what a call may
do to them from one wait to the next, and is proved of each call.
-/

namespace DebugClient

/-! ## What the backend is told -/

namespace Wire.Command

/-- The exceptions that stop execution, if a command tells of them. -/
def exceptionStops? : Command → Option ExceptionStops
  | setPauseOnExceptions stops => some stops
  | _ => none

/-- The depth of traces, if a command tells of it. -/
def asyncDepth? : Command → Option Nat
  | setAsyncCallStackDepth depth => some depth
  | _ => none

/-- Whether breakpoints are active, if a command tells of it. -/
def breakpointsActive? : Command → Option Bool
  | setBreakpointsActive active => some active
  | _ => none

end Wire.Command

/-- **The settings were told** by commands, newest first: the last that tells
of one tells what it is. Breakpoints are active unless told otherwise. -/
structure Settings.Told (settings : Settings) (commands : List Wire.Command) : Prop where
  /-- The exceptions that stop execution. -/
  stops : commands.findSome? Wire.Command.exceptionStops? = some settings.exceptionStops
  /-- The depth of traces. -/
  depth : commands.findSome? Wire.Command.asyncDepth? = some settings.asyncDepth
  /-- Whether breakpoints are active. -/
  active : commands.findSome? Wire.Command.breakpointsActive? = some settings.breakpointsActive ∨
    commands.findSome? Wire.Command.breakpointsActive? = none ∧ settings.breakpointsActive = true

/-- What the agent is told when it is enabled are the settings. -/
theorem Settings.told_initialCommands (settings : Settings) (cacheSize : Double) :
    settings.Told (.enableDebugger cacheSize :: Session.initialCommands settings).reverse := by
  unfold Session.initialCommands
  cases active : settings.breakpointsActive with
  | true => split <;> exact ⟨rfl, rfl, .inr ⟨rfl, active⟩⟩
  | false => split <;> exact ⟨rfl, rfl, .inl (congrArg some active.symm)⟩

namespace Session

/-- The commands a session has sent, newest first. -/
def commands (s : Session) : List Wire.Command := commandsOf s.journal

/-- The commands a session has sent after a number of others, newest
first. -/
def sentAfter (count : Nat) (s : Session) : List Wire.Command :=
  s.commands.take (s.commands.length - count)

/-! ## The system -/

/-- What is asked of a session that its settings depend on. -/
inductive SettingCall where
  /-- The agent is enabled. -/
  | enable
  /-- The agent is disabled. -/
  | disable
  /-- The exceptions that stop execution are chosen. -/
  | pauseOnExceptions (enabled caught : Bool)
  /-- It is chosen whether traces of scheduled tasks are collected. -/
  | asyncTraces (enabled : Bool)
  /-- Breakpoints are activated or deactivated. -/
  | breakpointsActive (active : Bool)

/-- The work of a call. -/
def SettingCall.work : SettingCall → Work Unit
  | enable => Session.enable
  | disable => Session.disable
  | pauseOnExceptions enabled caught => setPauseOnExceptions enabled caught
  | asyncTraces enabled => setAsyncTraces enabled
  | breakpointsActive active => setBreakpointsActive active

/-- Whatever the settings depend on. Outside, answers come in. Noted is how
many commands were sent before the agent began to be enabled. -/
def setting : Flow.System SettingCall (Ticket × Reply) Session Unit Nat where
  program c := holding c.work
  outside answer s := s.answer answer.1 answer.2
  note _ _ before after :=
    if before.enablement = .disabled ∧ after.enablement = .enabling then [before.commands.length]
    else []

/-- A session after moves. -/
def afterSettings (start : Session) (moves : List (Flow.Move SettingCall (Ticket × Reply))) :
    Flow.Pool SettingCall (Flow Session Unit) Session Unit Nat :=
  Flow.Pool.play setting { state := start } moves

/-! ## Terms -/

/-- What of a session the backend is told. -/
structure Terms where
  /-- The settings. -/
  settings : Settings
  /-- Whether the agent is enabled. -/
  enablement : Enablement
  /-- The commands that were sent. -/
  commands : List Wire.Command

/-- Commands are sent, newest first. -/
def Terms.send (new : List Wire.Command) (a : Terms) : Terms :=
  { a with commands := new ++ a.commands }

/-- What of a session the backend is told. -/
def terms (s : Session) : Terms := ⟨s.settings, s.enablement, s.commands⟩

theorem terms_emit (s : Session) {signal : Signal} (aside : signal.command? = none) :
    (s.emit signal).terms = s.terms := by
  simp [terms, commands, commandsOf, emit, aside]

theorem terms_issue (s : Session) (command : Wire.Command) :
    (s.issue command).2.terms = s.terms.send [command] := rfl

theorem terms_clearPause (s : Session) : s.clearPause.terms = s.terms := by
  unfold clearPause select
  split
  · rfl
  · exact terms_emit { s with isPausing := false, pause := none, selected := none } rfl

theorem terms_detachAll (s : Session) (scripts : List Script) :
    (s.detachAll scripts).terms = s.terms := by
  induction scripts generalizing s with
  | nil => rfl
  | cons script rest ih => exact (ih _).trans (terms_emit s rfl)

theorem terms_clearGlobalObject (s : Session) : s.clearGlobalObject.terms = s.terms := by
  have forgotten : s.clearPause.forgetScripts.terms = s.clearPause.terms :=
    terms_detachAll { s.clearPause with catalog := s.clearPause.catalog.clear.2 } _
  exact (terms_emit _ rfl).trans (forgotten.trans (terms_clearPause s))

theorem terms_finishDisabling (s : Session) : s.finishDisabling.terms = s.terms := by
  have gone : ∀ t : Session, t.giveUpIdentity.terms = t.terms := by
    intro t
    unfold giveUpIdentity
    split <;> rfl
  rw [finishDisabling, gone]
  exact (terms_emit _ rfl).trans (terms_clearGlobalObject { s with isPausing := false })

theorem terms_identify (s : Session) (id : DebuggerId) : (s.identify id).terms = s.terms := by
  unfold identify withdraw
  refine (terms_emit _ rfl).trans ?_
  split <;> [split; skip] <;> rfl

/-! ## What calls do -/

/-- **What a call does** to the terms from one wait to the next: it tells
what keeps the settings told while the agent is enabled, and all of them
when the agent begins to be. -/
structure Heeds (a b : Terms) (new : List Wire.Command) : Prop where
  /-- What was sent. -/
  grown : b.commands = new ++ a.commands
  /-- The agent begins to be enabled. -/
  begins : a.enablement = .disabled → b.enablement ≠ .disabled →
    b.enablement = .enabling ∧ b.settings.Told new
  /-- The agent goes on to be enabled. -/
  goesOn : a.enablement ≠ .disabled → b.enablement ≠ .disabled →
    ∀ since, a.settings.Told since → b.settings.Told (new ++ since)

theorem Heeds.refl (a : Terms) : Heeds a a [] :=
  ⟨rfl, fun off on => absurd off on, fun _ _ _ told => told⟩

/-- Nothing has to be told to an agent that is not enabled. -/
theorem heeds_off {a b : Terms} {new : List Wire.Command} (off : b.enablement = .disabled)
    (grown : b.commands = new ++ a.commands) : Heeds a b new :=
  ⟨grown, fun _ on => absurd off on, fun _ on => absurd off on⟩

/-- An agent that begins to be enabled is told all settings. -/
theorem heeds_begin {a b : Terms} {new : List Wire.Command} (off : a.enablement = .disabled)
    (enabling : b.enablement = .enabling) (grown : b.commands = new ++ a.commands)
    (told : b.settings.Told new) : Heeds a b new :=
  ⟨grown, fun _ _ => ⟨enabling, told⟩, fun on => absurd off on⟩

/-- Whether the agent is enabled is what it was. -/
theorem heeds_same {a b : Terms} {new : List Wire.Command} (same : b.enablement = a.enablement)
    (grown : b.commands = new ++ a.commands)
    (told : ∀ since, a.settings.Told since → b.settings.Told (new ++ since)) : Heeds a b new :=
  ⟨grown, fun off on => absurd (same.trans off) on, fun _ _ => told⟩

/-- What a call may do from one wait to the next. -/
def heeding : Flow.Protocol Unit Session Unit where
  given _ := True
  moves _ s _ t := ∃ new, Heeds s.terms t.terms new
  ends _ s _ t := ∃ new, Heeds s.terms t.terms new

section Rules

variable {s₀ s : Session}

/-- Nothing has become of the terms. -/
def Level (_ : Unit) (s₀ s : Session) : Prop := s.terms = s₀.terms

theorem lets_level : heeding.Lets Level := by
  intro _ s₀ s level
  have same : s.terms = s₀.terms := level
  exact ⟨(), ⟨[], same ▸ .refl _⟩, fun _ _ => rfl⟩

theorem level_settle (ticket : Ticket) : (Work.settle ticket).Carries heeding Level := by
  refine Flow.carries_seq (Flow.carries_await lets_level _) fun _ => ?_
  exact Flow.carries_seq (Flow.carries_act fun _ _ _ level => level) fun _ => Flow.carries_done _

theorem terms_issuedAll (commands : List Wire.Command) (s : Session) :
    (s.issuedAll commands).2.terms = s.terms.send commands.reverse := by
  induction commands generalizing s with
  | nil => rfl
  | cons command rest ih =>
    refine (ih (issue command s).2).trans ?_
    simp [terms_issue, Terms.send]

end Rules

/-! ## The calls -/

section Calls

variable {s₀ s : Session}

theorem isEnabled_iff : s.isEnabled = true ↔ s.terms.enablement ≠ .disabled := by
  simp [isEnabled, terms]

theorem Level.heeds (level : Level () s₀ s) : heeding.ends () s₀ () s := by
  have same : s.terms = s₀.terms := level
  exact ⟨[], same ▸ .refl _⟩

/-- Once everything was answered the agent is enabled, if it still is to
be. -/
theorem obeys_concluded (level : Level () s₀ s) (identity : Except LinkError DebuggerId) :
    (do
      if ← Flow.look isEnabled then
        match identity with
        | .ok id => Flow.modify fun s => (s.setEnablement .enabled).identify id
        | .error _ => Flow.modify (setEnablement .disabled) : Work Unit).Obeys heeding heeding.ends
      () s₀ s := by
  have same : s.terms = s₀.terms := level
  rw [Flow.obeys_seq, Flow.obeys_look]
  split
  · rename_i on
    have before : s₀.terms.enablement ≠ .disabled := same ▸ isEnabled_iff.1 on
    have sent : s.commands = s₀.commands := congrArg Terms.commands same
    cases identity with
    | ok id =>
      have now : ((s.setEnablement .enabled).identify id).terms =
          { s₀.terms with enablement := .enabled } := by
        rw [terms_identify, ← same]
        rfl
      refine ⟨[], ?_⟩
      change Heeds s₀.terms ((s.setEnablement .enabled).identify id).terms []
      rw [now]
      exact ⟨rfl, fun off => absurd off before, fun _ _ _ told => told⟩
    | error e => exact ⟨[], heeds_off rfl sent⟩
  · exact level.heeds

theorem obeys_enable (level : Level () s₀ s) : enable.Obeys heeding heeding.ends () s₀ s := by
  have same : s.terms = s₀.terms := level
  rw [enable, Flow.obeys_seq, Flow.obeys_read]
  split
  · exact level.heeds
  · rename_i off
    have before : s₀.terms.enablement = .disabled := by
      rw [isEnabled_iff, same] at off
      exact Decidable.not_not.1 off
    rw [Flow.obeys_seq, Flow.obeys_modify, Flow.obeys_seq, Work.issue, Flow.obeys_act,
      Flow.obeys_seq]
    refine obeys_issueAll.2 ?_
    have told := terms_issuedAll (initialCommands s.settings) (issue (.enableDebugger s.settings.cacheSize)
      (s.setEnablement .enabling)).2
    have all := (terms_emit _ (rfl : (Signal.debugger .wasEnabled).command? = none)).trans told
    rw [Flow.obeys_seq, Flow.obeys_modify, Flow.obeys_seq]
    refine obeys_reply.2 ⟨(),
      ⟨(.enableDebugger s.settings.cacheSize :: initialCommands s.settings).reverse, ?_⟩, fun u _ _ => ?_⟩
    · change Heeds s₀.terms (emit _ (.debugger .wasEnabled)).terms _
      rw [all]
      refine heeds_begin before rfl ?_ (Settings.told_initialCommands _ _)
      rw [← same, List.reverse_cons, List.append_assoc]
      rfl
    · rw [Flow.obeys_seq]
      refine Flow.Obeys.mono (Flow.carries_forEach level_settle _ () u _ ?_) fun _ _ _ _ level =>
        obeys_concluded level _
      rfl

theorem obeys_disable (level : Level () s₀ s) : disable.Obeys heeding heeding.ends () s₀ s := by
  have sent : s.commands = s₀.commands := congrArg Terms.commands level
  rw [disable, Flow.obeys_seq, Flow.obeys_look]
  split
  · rw [Flow.obeys_seq, Flow.obeys_modify, Flow.obeys_seq]
    have off : Heeds s₀.terms ((s.setEnablement .disabled).terms.send [.setAsyncCallStackDepth 0])
        [.setAsyncCallStackDepth 0] := heeds_off rfl (congrArg (_ :: ·) sent)
    refine obeys_send.2 ⟨(), ⟨_, off⟩, fun t _ _ => Flow.obeys_seq.2 ?_⟩
    have aside : Heeds t.terms (t.terms.send [.disableDebugger]) [.disableDebugger] :=
      heeds_same rfl rfl fun _ told => ⟨told.stops, told.depth, told.active⟩
    exact obeys_send.2 ⟨(), ⟨_, aside⟩, fun u _ _ => Level.heeds (terms_finishDisabling _)⟩
  · exact level.heeds

/-- A setting is changed, and told if the agent is enabled. -/
theorem obeys_change {β : Type} {put : Session → Session} {reading : Session → β}
    {command : β → Wire.Command} (level : Level () s₀ s)
    (aside : (put s).terms = { s.terms with settings := (put s).settings })
    (told : ∀ since, s.settings.Told since →
      (put s).settings.Told (command (reading (put s)) :: since)) :
    (do
      Flow.modify put
      sendIfEnabled (command (← Flow.look reading)) : Work Unit).Obeys heeding heeding.ends () s₀ s := by
  have same : s.terms = s₀.terms := level
  rw [Flow.obeys_seq, Flow.obeys_modify, Flow.obeys_seq, Flow.obeys_look, sendIfEnabled,
    Flow.obeys_seq, Flow.obeys_look]
  split
  · have heeds : Heeds s₀.terms ((put s).terms.send [command (reading (put s))])
        [command (reading (put s))] := by
      rw [aside, ← same]
      exact heeds_same rfl rfl told
    exact obeys_send.2 ⟨(), ⟨_, heeds⟩, fun _ _ _ => Level.heeds rfl⟩
  · rename_i off
    have off : (put s).terms.enablement = .disabled :=
      Decidable.not_not.1 fun on => off (isEnabled_iff.2 on)
    have sent : (put s).terms.commands = s₀.terms.commands := by rw [aside, ← same]
    exact ⟨[], heeds_off off sent⟩

theorem obeys_setBreakpointsActive (level : Level () s₀ s) (active : Bool) :
    (setBreakpointsActive active).Obeys heeding heeding.ends () s₀ s := by
  have same : s.terms = s₀.terms := level
  have heeds : Heeds s₀.terms ((putBreakpointsActive active s).terms.send [.setBreakpointsActive active])
      [.setBreakpointsActive active] := by
    have put : (putBreakpointsActive active s).terms =
        { s.terms with settings := (putBreakpointsActive active s).settings } := rfl
    rw [put, ← same]
    exact heeds_same rfl rfl fun _ told => ⟨told.stops, told.depth, .inl rfl⟩
  rw [setBreakpointsActive, Flow.obeys_seq, Flow.obeys_modify, Flow.obeys_seq]
  exact obeys_send.2 ⟨(), ⟨_, heeds⟩, fun _ _ _ => Level.heeds (terms_emit _ rfl)⟩

/-- **Every call heeds the settings.** -/
theorem obeys_setting (c : SettingCall) (s : Session) :
    (setting.program c).Obeys heeding heeding.ends () s s := by
  have level : Level () s s.acquire := rfl
  refine obeys_holding.2 ?_
  cases c with
  | enable => exact obeys_enable level
  | disable => exact obeys_disable level
  | pauseOnExceptions enabled caught =>
    exact obeys_change level rfl fun _ told => ⟨rfl, told.depth, told.active⟩
  | asyncTraces enabled =>
    exact obeys_change level rfl fun _ told => ⟨told.stops, rfl, told.active⟩
  | breakpointsActive active => exact obeys_setBreakpointsActive level active

end Calls

/-! ## After all moves -/

section Moves

variable {s t : Session} {new : List Wire.Command} {marks : List Nat}

/-- More was sent after a number of others. -/
theorem sentAfter_grown {mark : Nat} (grown : t.commands = new ++ s.commands)
    (there : mark ≤ s.commands.length) : t.sentAfter mark = new ++ s.sentAfter mark := by
  have count : t.commands.length - mark = new.length + (s.commands.length - mark) := by
    rw [grown, List.length_append]
    omega
  rw [sentAfter, count, grown, List.take_length_add_append, sentAfter]

/-- **The settings are told** since the agent last began to be enabled, as
noted. -/
def ToldSince (s : Session) (marks : List Nat) : Prop :=
  s.isEnabled = true → ∃ mark, marks.head? = some mark ∧ mark ≤ s.commands.length ∧
    s.settings.Told (s.sentAfter mark)

/-- What a call does from one wait to the next keeps the settings told. -/
theorem ToldSince.heeds (h : ToldSince s marks) (heeds : Heeds s.terms t.terms new) (number : Nat)
    (c : SettingCall) : ToldSince t (setting.note number c s t ++ marks) := by
  obtain ⟨grown, begins, goesOn⟩ := heeds
  have longer : s.commands.length ≤ t.commands.length := by
    rw [show t.commands = new ++ s.commands from grown, List.length_append]
    omega
  intro on
  rw [isEnabled_iff] at on
  by_cases off : s.terms.enablement = .disabled
  · obtain ⟨enabling, told⟩ := begins off on
    have noted : setting.note number c s t = [s.commands.length] := if_pos ⟨off, enabling⟩
    refine ⟨s.commands.length, by rw [noted]; rfl, longer, ?_⟩
    have all : t.sentAfter s.commands.length = new := by
      rw [sentAfter_grown grown (Nat.le_refl _)]
      simp [sentAfter]
    exact all ▸ told
  · have unnoted : setting.note number c s t = [] := if_neg fun both => off both.1
    obtain ⟨mark, last, there, told⟩ := h (isEnabled_iff.2 off)
    refine ⟨mark, unnoted ▸ last, Nat.le_trans there longer, ?_⟩
    rw [sentAfter_grown grown there]
    exact goesOn off on _ told

end Moves

/-- **The backend knows the settings** as long as the agent is enabled or
being enabled: whatever is called and answered, in any order, the commands
that were sent since the agent last began to be enabled tell what the
settings are. -/
theorem told_since_enabling (seat : Nat) (target : Target) (settings : Settings)
    (moves : List (Flow.Move SettingCall (Ticket × Reply)))
    (enabled : (afterSettings (connect seat target settings) moves).state.isEnabled = true) :
    ∃ mark, (afterSettings (connect seat target settings) moves).notes.head? = some mark ∧
      (afterSettings (connect seat target settings) moves).state.settings.Told
        ((afterSettings (connect seat target settings) moves).state.sentAfter mark) := by
  have keeps : ∀ a b : Flow.Pool SettingCall Unit Session Unit Nat, ToldSince a.state a.notes →
      Flow.Pool.Shadow setting (fun _ => heeding) () (fun _ => True) a b →
        ToldSince b.state b.notes := by
    intro a b h step
    cases step with
    | opens does => exact h.heeds does.choose_spec _ _
    | passes does => exact h.heeds does.choose_spec _ _
    | goes _ does => exact h.heeds does.choose_spec _ _
    | closes _ does => exact h.heeds does.choose_spec _ _
    | outside _ => exact h
  have starts : Flow.Pool.Shadows (fun _ => heeding) (afterSettings (connect seat target settings) [])
      { state := connect seat target settings } := ⟨rfl, rfl, .nil, rfl, rfl⟩
  have unset : ToldSince (connect seat target settings) [] := by
    intro on
    have off : (connect seat target settings).isEnabled = false := rfl
    cases off.symm.trans on
  obtain ⟨shadow, follows, told⟩ := Flow.Pool.play_shadow (fun _ _ _ => trivial)
    (fun c s _ => obeys_setting c s) keeps starts unset moves fun _ _ => trivial
  rw [follows.state, follows.notes] at told
  obtain ⟨mark, last, -, is⟩ := told enabled
  exact ⟨mark, last, is⟩

/-- Exceptions are to stop execution before the agent is enabled; it is
disabled before that was answered and enabled again, and breakpoints are
deactivated meanwhile. -/
def switching : List (Flow.Move SettingCall (Ticket × Reply)) :=
  [.begin (.pauseOnExceptions true true), .begin .enable, .begin .disable,
    .begin (.asyncTraces false), .begin .enable, .begin (.breakpointsActive false),
    .outside (0, .ok (.obj [("debuggerId", .str "first")])), .outside (1, .error .closed),
    .outside (2, .ok (.obj [])), .carry 0, .carry 0, .carry 0]

/-- The agent is enabled by the first answer, and told as it was asked for
again. -/
theorem told_once_switched :
    let pool := afterSettings (connect 0 (.root ⟨0, "page", .frame⟩) {}) switching
    pool.state.enablement = .enabled ∧
      ∃ mark, pool.notes.head? = some mark ∧ pool.state.settings.Told (pool.state.sentAfter mark) :=
  ⟨rfl, told_since_enabling 0 _ {} switching rfl⟩

end Session

end DebugClient
