import DebugClient.Proofs.Session.Footings
import DebugClient.Proofs.Session.Requests
import DebugClient.Proofs.Session.Stops
/-!
# Turns — enabling and disabling, one after the other

The agent of a session is enabled and disabled, each time only when the
last time is over, while events are taken in and answered at any point
(`InTurn`). How each time comes out is noted.

What a call may do to the footing of the session on the way is its protocol
(`AgentCall.protocol`), and every call keeps to it (`obeys_agentCall`).
-/

namespace DebugClient

namespace Session

/-! ## The system -/

/-- What is asked of a session whose agent takes turns. -/
inductive AgentCall where
  /-- To enable the agent. -/
  | enable
  /-- To disable it. -/
  | disable
  /-- To take in an event. -/
  | receive (event : Wire.Event)

namespace AgentCall

/-- The work of a call. -/
def program : AgentCall → Work Unit
  | enable => holding Session.enable
  | disable => holding Session.disable
  | receive event => dispatch event

/-- Whether a call switches the agent. -/
def switches : AgentCall → Bool
  | enable => true
  | disable => true
  | receive _ => false

end AgentCall

/-- How a turn comes out. -/
inductive Switch where
  /-- The agent was enabled. -/
  | accepted
  /-- It refused. -/
  | refused
  /-- It was disabled. -/
  | disabled
  deriving DecidableEq

namespace Switch

/-- What those who listen are told: that the agent was enabled is told
before it has answered. -/
def tells : Switch → Bool
  | accepted => true
  | refused => true
  | disabled => false

/-- Whether the agent is enabled after turns, newest first. -/
def settled : List Switch → Enablement
  | accepted :: _ => .enabled
  | _ => .disabled

theorem settled_eq_enabled {notes : List Switch} :
    settled notes = .enabled ↔ notes.head? = some .accepted := by
  cases notes with
  | nil => simp [settled]
  | cons switch earlier => cases switch <;> simp [settled]

/-- What comes of the agent in a step. -/
def between : Enablement → Enablement → List Switch
  | .enabling, .enabled => [accepted]
  | .enabling, .disabled => [refused]
  | .enabled, .disabled => [disabled]
  | _, _ => []

theorem between_self (enablement : Enablement) : between enablement enablement = [] := by
  cases enablement <;> rfl

/-- **A proper history**, newest first: an agent is disabled after it was
enabled, and only then. -/
def Proper : List Switch → Prop
  | [] => True
  | disabled :: earlier => settled earlier = .enabled ∧ Proper earlier
  | _ :: earlier => settled earlier = .disabled ∧ Proper earlier

end Switch

/-- Enabling, disabling and events. Outside, the backend and policies answer,
and other policies are installed. How the turns come out is noted. -/
def turning : Flow.System AgentCall StopNews Session Unit Switch where
  program := AgentCall.program
  outside := StopNews.apply
  note _ _ before after := Switch.between before.enablement after.enablement

/-- A session after calls and news, in any order. -/
def afterTurns (s : Session) (moves : List (Flow.Move AgentCall StopNews)) :
    Flow.Pool AgentCall (Work Unit) Session Unit Switch :=
  Flow.Pool.play turning { state := s } moves

/-- No turn is under way. Handlers of events may be. -/
def Rests {X : Type} (pool : Flow.Pool AgentCall X Session Unit Switch) : Prop :=
  ∀ w ∈ pool.waiting, w.call.switches = false

/-- **Calls take turns**: the agent is enabled or disabled only when the
last turn is over. -/
def InTurn (pool : Flow.Pool AgentCall (Work Unit) Session Unit Switch) :
    List (Flow.Move AgentCall StopNews) → Prop
  | [] => True
  | move :: rest =>
    (move.begun?.any AgentCall.switches = true → Rests pool) ∧ InTurn (pool.step turning move) rest

instance {X : Type} (pool : Flow.Pool AgentCall X Session Unit Switch) : Decidable (Rests pool) :=
  inferInstanceAs (Decidable (∀ w ∈ pool.waiting, w.call.switches = false))

instance decidableInTurn : (pool : Flow.Pool AgentCall (Work Unit) Session Unit Switch) →
    (moves : List (Flow.Move AgentCall StopNews)) → Decidable (InTurn pool moves)
  | _, [] => isTrue trivial
  | pool, move :: rest => @instDecidableAnd _ _ _ (decidableInTurn (pool.step turning move) rest)

end Session

/-! ## Protocols -/

namespace Footing

/-- The agent is being enabled, and said to be enabled. -/
def begun (f : Footing) : Footing := Footing.mark (.switched true) { f with enablement := .enabling }

/-- Everything is forgotten, and the agent said to be disabled. -/
def ended (f : Footing) : Footing := f.clear.mark (.switched false)

/-- **What an event may do**: only an agent that is on takes a script or a
pause in. Of pauses this is said if stops are prompt; a stop that has to
wait for its frames may find the agent off. -/
structure Attends (prompt : Prop) (a b : Footing) : Prop where
  /-- The agent is as it was. -/
  enablement : b.enablement = a.enablement
  /-- Frames are shown as they were. -/
  expands : b.expands = a.expands
  /-- Nothing is told of the agent. -/
  switches : Mark.switches b.marks = Mark.switches a.marks
  /-- A script is taken in. -/
  script : Mark.tookScript b.marks = true →
    Mark.tookScript a.marks = true ∨ a.enablement ≠ .disabled
  /-- A pause is taken in. -/
  pause : prompt → Mark.tookPause b.marks = true →
    Mark.tookPause a.marks = true ∨ a.enablement ≠ .disabled

namespace Attends

variable {prompt : Prop} {a b c : Footing}

theorem refl (a : Footing) : Attends prompt a a := ⟨rfl, rfl, rfl, .inl, fun _ => .inl⟩

theorem trans (h : Attends prompt a b) (h' : Attends prompt b c) : Attends prompt a c := by
  have on : b.enablement ≠ .disabled → a.enablement ≠ .disabled := fun on => h.enablement ▸ on
  refine ⟨h'.enablement.trans h.enablement, h'.expands.trans h.expands,
    h'.switches.trans h.switches, fun took => ?_, fun early took => ?_⟩
  · exact (h'.script took).elim h.script fun there => .inr (on there)
  · exact (h'.pause early took).elim (h.pause early) fun there => .inr (on there)

/-- Events that bring neither a script nor a pause take none in. -/
theorem taking {s s' : Session} (taking : Session.Taking s s') : Attends prompt s.footing s'.footing := by
  rcases Session.footing_taking taking with same | goes | cleared
  · exact same ▸ refl _
  · exact goes ▸ ⟨rfl, rfl, rfl, .inl, nofun⟩
  · exact cleared ▸ ⟨rfl, rfl, rfl, nofun, nofun⟩

/-- A script is taken in by an agent that is on. -/
theorem parsed {s : Session} (on : s.isEnabled = true) (r : Wire.ScriptReport) (failed : Bool) :
    Attends prompt s.footing (Session.parsed r failed s).2.footing := by
  have enabled := Session.isEnabled_iff_footing.1 on
  rcases Session.footing_parsed r failed s with same | more
  · rw [same]
    exact refl _
  · exact more ▸ ⟨rfl, rfl, rfl, fun _ => .inr enabled, fun _ => .inl⟩

/-- A pause is taken in. -/
theorem present {s : Session} (on : prompt → s.footing.enablement ≠ .disabled) (d : PauseDetails) :
    Attends prompt s.footing (Session.present d s).2.footing := by
  obtain ⟨selects, more⟩ := Session.footing_present d s
  exact more ▸ ⟨rfl, rfl, rfl, .inl, fun early _ => .inr (on early)⟩

end Attends

end Footing

namespace Session

namespace AgentCall

/-- What a call may do from one wait to the next. It is either about to
begin or under way. -/
def Moves (prompt : Prop) : AgentCall → Bool → Footing → Footing → Prop
  | enable, false, a, b => a.enablement = .disabled ∧ b = a.begun
  | disable, false, a, b => a.enablement ≠ .disabled ∧ b = { a with enablement := .disabled }
  | receive _, _, a, b => a.Attends prompt b
  | _, true, a, b => b = a

/-- What a call may do to its end. -/
def Ends (prompt : Prop) : AgentCall → Bool → Footing → Footing → Prop
  | enable, false, a, b => a.enablement ≠ .disabled ∧ b = a
  | enable, true, a, b =>
    a.enablement ≠ .disabled →
      b = { a with enablement := .enabled } ∨ b = { a with enablement := .disabled }
  | disable, false, a, b => a.enablement = .disabled ∧ b = a
  | disable, true, a, b => b = a.ended
  | receive _, _, a, b => a.Attends prompt b

theorem Moves.attends {prompt : Prop} {c : AgentCall} {p : Bool} {a b : Footing}
    (moves : c.Moves prompt p a b) (event : c.switches = false) : a.Attends prompt b := by
  cases c with
  | receive e => exact moves
  | enable => cases event
  | disable => cases event

theorem Ends.attends {prompt : Prop} {c : AgentCall} {p : Bool} {a b : Footing}
    (ends : c.Ends prompt p a b) (event : c.switches = false) : a.Attends prompt b := by
  cases c with
  | receive e => exact ends
  | enable => cases event
  | disable => cases event

/-- What a call may do. If stops are prompt, no frames are expanded. -/
def protocol (prompt : Prop) (c : AgentCall) : Flow.Protocol Bool Session Unit where
  given s := prompt → s.footing.expands = false
  moves p s₀ q s := q = true ∧ c.Moves prompt p s₀.footing s.footing
  ends p s₀ _ s := c.Ends prompt p s₀.footing s.footing

end AgentCall

section Calls

variable {prompt : Prop} {p : Bool} {s₀ s : Session}

/-- A call that is under way has left the footing as it was. -/
def Still (p : Bool) (s₀ s : Session) : Prop := p = true ∧ s.footing = s₀.footing

theorem aloof_still {c : AgentCall} (switches : c.switches = true) :
    Aloof (c.protocol prompt) Still where
  lets p s₀ s still := by
    obtain ⟨rfl, same⟩ := still
    cases c with
    | enable => exact ⟨true, ⟨rfl, same⟩, fun _ _ => ⟨rfl, rfl⟩⟩
    | disable => exact ⟨true, ⟨rfl, same⟩, fun _ _ => ⟨rfl, rfl⟩⟩
    | receive event => cases switches
  passing change still := ⟨still.1, (footing_passing change).trans still.2⟩

/-! ### Switching -/

theorem footing_issuedAll (commands : List Wire.Command) (s : Session) :
    (s.issuedAll commands).2.footing = s.footing := by
  induction commands generalizing s with
  | nil => rfl
  | cons command rest ih => exact (ih _).trans (footing_passing (.issue command s))

/-- Once everything was answered the agent is enabled or has refused. -/
theorem ends_enable (still : Still p s₀ s) (identity : Except LinkError DebuggerId) :
    (do
      if ← Flow.look isEnabled then
        match identity with
        | .ok id => Flow.modify fun s => (s.setEnablement .enabled).identify id
        | .error _ => Flow.modify (setEnablement .disabled) : Work Unit).Obeys
      (AgentCall.enable.protocol prompt) (AgentCall.enable.protocol prompt).ends p s₀ s := by
  obtain ⟨rfl, same⟩ := still
  rw [Flow.obeys_seq, Flow.obeys_look]
  split
  · cases identity with
    | ok id =>
      intro _
      left
      change ((s.setEnablement .enabled).identify id).footing = _
      rw [footing_identify, ← same]
      rfl
    | error e =>
      intro _
      right
      rw [← same]
      rfl
  · rename_i off
    intro on
    rw [isEnabled_iff_footing, same] at off
    exact absurd on off

theorem obeys_enabling : (holding Session.enable).Obeys (AgentCall.enable.protocol prompt)
    (AgentCall.enable.protocol prompt).ends false s s := by
  have aloof : Aloof (AgentCall.enable.protocol prompt) Still := aloof_still rfl
  refine obeys_holding.2 ?_
  change Session.enable.Obeys _ (AgentCall.enable.protocol prompt).ends false s s.acquire
  rw [Session.enable, Flow.obeys_seq, Flow.obeys_read]
  split
  · rename_i on
    exact ⟨isEnabled_iff_footing.1 on, rfl⟩
  rename_i off
  have before : s.footing.enablement = .disabled :=
    Decidable.not_not.1 fun on => off (isEnabled_iff_footing.2 on)
  rw [Flow.obeys_seq, Flow.obeys_modify, Flow.obeys_seq, Work.issue, Flow.obeys_act, Flow.obeys_seq]
  refine obeys_issueAll.2 ?_
  generalize sends : issuedAll _ _ = sent
  have same : sent.2.footing = _ := sends ▸ footing_issuedAll _ _
  have begun : (sent.2.report .wasEnabled).footing = s.footing.begun :=
    congrArg (Footing.mark (.switched true)) same
  rw [Flow.obeys_seq, Flow.obeys_modify, Flow.obeys_seq]
  refine obeys_reply.2 ⟨true, ⟨rfl, before, begun⟩, fun t _ _ => Flow.obeys_seq.2 ?_⟩
  -- From here on the call is under way, and only answers are taken.
  refine Flow.Obeys.mono (Flow.carries_forEach aloof.settle _ true t _ ?_) fun _ _ _ _ still =>
    ends_enable still _
  exact ⟨rfl, rfl⟩

theorem obeys_disabling : (holding Session.disable).Obeys (AgentCall.disable.protocol prompt)
    (AgentCall.disable.protocol prompt).ends false s s := by
  have aloof : Aloof (AgentCall.disable.protocol prompt) Still := aloof_still rfl
  refine obeys_holding.2 ?_
  change Session.disable.Obeys _ (AgentCall.disable.protocol prompt).ends false s s.acquire
  rw [Session.disable, Flow.obeys_seq, Flow.obeys_look]
  split
  · rename_i on
    rw [Flow.obeys_seq, Flow.obeys_modify, Flow.obeys_seq]
    refine obeys_send.2 ⟨true, ⟨rfl, isEnabled_iff_footing.1 on, rfl⟩, fun t _ _ => Flow.obeys_seq.2 ?_⟩
    refine Flow.Obeys.mono (aloof.send .disableDebugger true t _ ⟨rfl, rfl⟩) ?_
    rintro p t₀ _ u ⟨rfl, same⟩
    change u.finishDisabling.footing = t₀.footing.ended
    rw [footing_finishDisabling, same]
    rfl
  · rename_i off
    exact ⟨Decidable.not_not.1 fun on => off (isEnabled_iff_footing.2 on), rfl⟩

/-! ### Events -/

/-- What the handler of an event has done so far. -/
def Heard (prompt : Prop) (_ : Bool) (s₀ s : Session) : Prop :=
  s₀.footing.Attends prompt s.footing ∧ (prompt → s₀.footing.expands = false)

theorem Heard.more {s' : Session} (heard : Heard prompt p s₀ s)
    (more : s.footing.Attends prompt s'.footing) : Heard prompt p s₀ s' :=
  ⟨heard.1.trans more, heard.2⟩

theorem aloof_heard (event : Wire.Event) :
    Aloof ((AgentCall.receive event).protocol prompt) (Heard prompt) where
  lets _ _ _ heard := ⟨true, ⟨rfl, heard.1⟩, fun _ given => ⟨.refl _, given⟩⟩
  passing change heard := heard.more (footing_passing change ▸ .refl _)

/-- Stops that are prompt do not wait for frames. -/
theorem obeys_shown {event : Wire.Event} (heard : Heard prompt p s₀ s) (on : s.isEnabled = true)
    (frames : List CallFrame) :
    (expand frames).Obeys ((AgentCall.receive event).protocol prompt)
      (fun p s₀ _ s => Heard prompt p s₀ s ∧ (prompt → s₀.footing.enablement ≠ .disabled)) p s₀ s := by
  by_cases expands : s.policies.expandsFrames = true
  · have late : ¬ prompt := by
      intro early
      have none : s.policies.expandsFrames = false := heard.1.expands.trans (heard.2 early)
      cases none.symm.trans expands
    exact ((aloof_heard event).expand frames p s₀ s heard).mono fun _ _ _ _ heard =>
      ⟨heard, fun early => absurd early late⟩
  · rw [expand, Flow.obeys_seq, Flow.obeys_look, if_neg expands]
    exact ⟨heard, fun _ => heard.1.enablement ▸ isEnabled_iff_footing.1 on⟩

theorem carries_heard (event : Wire.Event) :
    (dispatch event).Carries ((AgentCall.receive event).protocol prompt) (Heard prompt) := by
  refine carries_dispatch (fun taking heard => heard.more (.taking taking)) ?_ ?_ event
  · intro p s₀ s r failed on heard
    exact heard.more (.parsed on r failed)
  · intro p s₀ s r on heard
    refine (aloof_heard event).paused (fun making heard => heard.more (.taking (.mint making _)))
      (fun frames on heard => obeys_shown heard on frames) ?_ ?_ And.left r on heard
    · intro p s₀ s d heard
      exact ⟨heard.1.more (.taking (.arrive d s)), heard.2⟩
    · intro p s₀ s d heard
      exact heard.1.more (.present (fun early => heard.1.1.enablement ▸ heard.2 early) d)

/-- **Every call** keeps to its protocol. -/
theorem obeys_agentCall (c : AgentCall) (s : Session) (given : (c.protocol prompt).given s) :
    (turning.program c).Obeys (c.protocol prompt) (c.protocol prompt).ends false s s := by
  cases c with
  | enable => exact obeys_enabling
  | disable => exact obeys_disabling
  | receive event =>
    exact (carries_heard event false s s ⟨.refl _, given⟩).mono fun _ _ _ _ heard => heard.1

end Calls

end Session

end DebugClient
