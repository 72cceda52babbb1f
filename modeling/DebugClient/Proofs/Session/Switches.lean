import DebugClient.Proofs.Session.Turns
/-!
# Switches — what is told of the agent

Between two turns everything follows from how they came out: whether the
agent is on, and what those who listen were told of it. Where a turn stands
while it is under way is the invariant `Turn`.

The result is `announced_iff`. An agent that refuses to be enabled was said
to be enabled, and nothing takes that back: what was told alternates, and
says whether the agent is on, if and only if it never refused.
-/

namespace DebugClient

namespace Session

/-! ## The invariant -/

section Invariant

open Switch (settled Proper)

variable {prompt : Prop} {calls l r : List (Flow.Standing AgentCall Bool)}
  {w : Flow.Standing AgentCall Bool} {number : Nat} {c : AgentCall} {a b : Footing}
  {notes : List Switch}

/-- **Where a turn stands**: the calls that switch the agent and are under
way, the footing, and how the turns have come out, newest first. There is
at most one such call. -/
inductive Turn (prompt : Prop) :
    List (Flow.Standing AgentCall Bool) → Footing → List Switch → Prop where
  /-- None is. An agent that is off and has not refused has left nothing. -/
  | rest {f : Footing} {notes : List Switch} (enablement : f.enablement = settled notes)
      (told : Mark.switches f.marks = notes.map Switch.tells)
      (bare : f.enablement = .disabled → notes.head? ≠ some .refused →
        Mark.tookScript f.marks = false ∧ (prompt → Mark.tookPause f.marks = false)) :
      Turn prompt [] f notes
  /-- The agent is being enabled. -/
  | enabling {number : Nat} {f : Footing} {notes : List Switch}
      (enablement : f.enablement = .enabling) (off : settled notes = .disabled)
      (told : Mark.switches f.marks = true :: notes.map Switch.tells) :
      Turn prompt [⟨number, .enable, true⟩] f notes
  /-- It is being disabled, which is told when it is over. -/
  | disabling {number : Nat} {f : Footing} {earlier : List Switch}
      (enablement : f.enablement = .disabled) (on : settled earlier = .enabled)
      (told : Mark.switches f.marks = earlier.map Switch.tells) :
      Turn prompt [⟨number, .disable, true⟩] f (.disabled :: earlier)

/-- Where a turn stands, after a proper history. If stops are prompt, no
frames are expanded. -/
structure Turned (prompt : Prop) (calls : List (Flow.Standing AgentCall Bool)) (f : Footing)
    (notes : List Switch) : Prop where
  /-- No frames are expanded. -/
  plain : prompt → f.expands = false
  /-- The history is proper. -/
  proper : Proper notes
  /-- The turn. -/
  turn : Turn prompt calls f notes

/-- An agent settles on being enabled or not. -/
theorem settled_cases (notes : List Switch) :
    settled notes = .enabled ∨ settled notes = .disabled := by
  unfold settled
  split
  · exact .inl rfl
  · exact .inr rfl

/-- The call that switches the agent is the only one. -/
theorem Turn.alone (h : Turn prompt (l ++ w :: r) a notes) : l = [] ∧ r = [] := by
  generalize is : l ++ w :: r = calls at h
  cases h with
  | rest => simp at is
  | enabling => simp_all [List.append_eq_singleton_iff]
  | disabling => simp_all [List.append_eq_singleton_iff]

namespace Turned

/-- Events change nothing of a turn. -/
theorem attends (h : Turned prompt calls a notes) (attends : a.Attends prompt b) :
    Turned prompt calls b (Switch.between a.enablement b.enablement ++ notes) := by
  obtain ⟨plain, proper, turn⟩ := h
  obtain ⟨enablement, expands, switches, script, pause⟩ := attends
  rw [enablement, Switch.between_self]
  refine ⟨fun early => expands.trans (plain early), proper, ?_⟩
  cases turn with
  | rest is told bare =>
    refine .rest (enablement.trans is) (switches.trans told) fun off kept => ?_
    -- The agent was off before the event, so nothing was taken in.
    obtain ⟨noScript, noPause⟩ := bare (enablement ▸ off) kept
    have none : ∀ {took : Bool}, took = false → ¬(took = true ∨ a.enablement ≠ .disabled) :=
      fun not there => there.elim (fun took => absurd took (Bool.eq_false_iff.1 not))
        fun on => on (enablement ▸ off)
    refine ⟨Bool.eq_false_iff.2 fun took => none noScript (script took), fun early => ?_⟩
    exact Bool.eq_false_iff.2 fun took => none (noPause early) (pause early took)
  | enabling is off told => exact .enabling (enablement.trans is) off (switches.trans told)
  | disabling is on told => exact .disabling (enablement.trans is) on (switches.trans told)

/-- Whether frames are expanded is no matter, unless stops are prompt. -/
theorem installs (h : Turned prompt calls a notes) {expands : Bool} (plain : prompt → expands = false) :
    Turned prompt calls { a with expands } notes := by
  refine ⟨plain, h.proper, ?_⟩
  cases h.turn with
  | rest is told bare => exact .rest is told bare
  | enabling is off told => exact .enabling is off told
  | disabling is on told => exact .disabling is on told

/-- A turn begins. -/
theorem opens (h : Turned prompt [] a notes) (switches : c.switches = true)
    (moves : c.Moves prompt false a b) :
    Turned prompt [⟨number, c, true⟩] b (Switch.between a.enablement b.enablement ++ notes) := by
  obtain ⟨plain, proper, turn⟩ := h
  cases turn with
  | rest is told bare =>
    cases c with
    | enable =>
      obtain ⟨off, rfl⟩ := moves
      have noted : Switch.between a.enablement a.begun.enablement = [] := by rw [off]; rfl
      rw [noted]
      exact ⟨plain, proper, .enabling rfl (is ▸ off) (congrArg (true :: ·) told)⟩
    | disable =>
      -- Between turns an agent that is on has accepted: that it is disabled is noted at once.
      obtain ⟨on, rfl⟩ := moves
      have enabled : settled notes = .enabled :=
        (settled_cases notes).resolve_right fun off => on (is.trans off)
      have noted : Switch.between a.enablement .disabled = [.disabled] := by rw [is, enabled]; rfl
      dsimp only
      rw [noted]
      exact ⟨plain, ⟨enabled, proper⟩, .disabling rfl enabled told⟩
    | receive event => cases switches

/-- A turn is over at once: the agent is what it is to be. -/
theorem passes (h : Turned prompt calls a notes) (switches : c.switches = true)
    (ends : c.Ends prompt false a b) :
    Turned prompt calls b (Switch.between a.enablement b.enablement ++ notes) := by
  have same : b = a := by
    cases c with
    | enable => exact ends.2
    | disable => exact ends.2
    | receive event => cases switches
  rw [same, Switch.between_self]
  exact h

/-- A turn goes on. -/
theorem goes (h : Turned prompt [w] a notes) (moves : w.call.Moves prompt w.place a b) :
    Turned prompt [{ w with place := true }] b
      (Switch.between a.enablement b.enablement ++ notes) := by
  obtain ⟨plain, proper, turn⟩ := h
  cases turn with
  | enabling is off told =>
    obtain rfl : b = a := moves
    rw [Switch.between_self]
    exact ⟨plain, proper, .enabling is off told⟩
  | disabling is on told =>
    obtain rfl : b = a := moves
    rw [Switch.between_self]
    exact ⟨plain, proper, .disabling is on told⟩

/-- A turn is over, and how it came out is noted. -/
theorem closes (h : Turned prompt [w] a notes) (ends : w.call.Ends prompt w.place a b) :
    Turned prompt [] b (Switch.between a.enablement b.enablement ++ notes) := by
  obtain ⟨plain, proper, turn⟩ := h
  cases turn with
  | enabling is off told =>
    -- What was told when the turn began stands for either outcome.
    have on : a.enablement ≠ .disabled := by rw [is]; nofun
    rcases ends on with rfl | rfl <;> dsimp only <;> rw [is]
    · exact ⟨plain, ⟨off, proper⟩, .rest rfl told nofun⟩
    · exact ⟨plain, ⟨off, proper⟩, .rest rfl told fun _ kept => absurd rfl kept⟩
  | disabling is on told =>
    obtain rfl : b = a.ended := ends
    have same : a.ended.enablement = a.enablement := rfl
    rw [same, Switch.between_self]
    refine ⟨plain, proper, .rest is (congrArg (false :: ·) told) fun _ _ => ⟨rfl, fun _ => rfl⟩⟩

end Turned

end Invariant

/-! ## Every run -/

section Runs

variable {prompt : Prop} {a b : Flow.Pool AgentCall Bool Session Unit Switch}
  {move : Flow.Move AgentCall StopNews}

/-- The calls that switch the agent. -/
def switchers (calls : List (Flow.Standing AgentCall Bool)) : List (Flow.Standing AgentCall Bool) :=
  calls.filter fun w => w.call.switches

theorem switchers_append (l r : List (Flow.Standing AgentCall Bool)) :
    switchers (l ++ r) = switchers l ++ switchers r := List.filter_append ..

theorem switchers_turn {w : Flow.Standing AgentCall Bool} {r : List (Flow.Standing AgentCall Bool)}
    (switches : w.call.switches = true) : switchers (w :: r) = w :: switchers r := by
  simp [switchers, switches]

theorem switchers_event {w : Flow.Standing AgentCall Bool} {r : List (Flow.Standing AgentCall Bool)}
    (switches : w.call.switches = false) : switchers (w :: r) = switchers r := by
  simp [switchers, switches]

/-- A call under way is the one that switches the agent, or does not
matter. -/
theorem Turned.parts {l r : List (Flow.Standing AgentCall Bool)} {w : Flow.Standing AgentCall Bool}
    {f : Footing} {notes : List Switch} (h : Turned prompt (switchers (l ++ w :: r)) f notes) :
    w.call.switches = true ∧ switchers l = [] ∧ switchers r = [] ∧ Turned prompt [w] f notes ∨
      w.call.switches = false ∧ Turned prompt (switchers (l ++ r)) f notes := by
  rw [switchers_append] at h
  cases switches : w.call.switches with
  | true =>
    rw [switchers_turn switches] at h
    obtain ⟨left, right⟩ := h.turn.alone
    rw [left, right] at h
    exact .inl ⟨rfl, left, right, h⟩
  | false =>
    rw [switchers_event switches] at h
    exact .inr ⟨rfl, switchers_append l r ▸ h⟩

/-- Where the turn of a pool stands. -/
def Stood (prompt : Prop) (pool : Flow.Pool AgentCall Bool Session Unit Switch) : Prop :=
  Turned prompt (switchers pool.waiting) pool.state.footing pool.notes

theorem Stood.news (h : Stood prompt a) {news : StopNews} (plain : prompt → news.Plain) :
    Stood prompt { a with state := news.apply a.state } := by
  cases news with
  | answer ticket reply => exact h
  | advise ticket advice => exact h
  | aim destination => exact h
  | install policies => exact Turned.installs h plain

/-- **Every move** leaves the turn of a pool where it should stand, if the
calls take turns. -/
theorem Stood.advance (h : Stood prompt a)
    (takes : move.begun?.any AgentCall.switches = true → Rests a)
    (plain : ∀ news, move = .outside news → prompt → news.Plain)
    (advance : Flow.Pool.Advance turning (AgentCall.protocol prompt) false move a b) :
    Stood prompt b := by
  have none : Rests a → switchers a.waiting = [] := fun rests =>
    List.filter_eq_nil_iff.2 fun w there => Bool.eq_false_iff.1 (rests w there)
  unfold Stood at h ⊢
  cases advance with
  | @opens _ c q s moves =>
    obtain ⟨rfl, moves⟩ := moves
    change Turned prompt (switchers (a.waiting ++ [⟨a.begun, c, true⟩])) s.footing
      (Switch.between a.state.enablement s.enablement ++ a.notes)
    rw [switchers_append]
    cases switches : c.switches with
    | true =>
      have first := none (takes switches)
      rw [first] at h
      rw [first, switchers_turn switches]
      exact h.opens switches moves
    | false =>
      rw [switchers_event switches]
      exact (List.append_nil _).symm ▸ h.attends (moves.attends switches)
  | @passes _ c _ s ends =>
    cases switches : c.switches with
    | true => exact h.passes switches ends
    | false => exact h.attends (AgentCall.Ends.attends ends switches)
  | @goes _ l r w q s waiting moves =>
    obtain ⟨rfl, moves⟩ := moves
    change Turned prompt (switchers (l ++ { w with place := true } :: r)) s.footing
      (Switch.between a.state.enablement s.enablement ++ a.notes)
    rw [waiting] at h
    rw [switchers_append]
    rcases h.parts with ⟨switches, left, right, alone⟩ | ⟨event, others⟩
    · rw [switchers_turn (w := { w with place := true }) switches, left, right]
      exact alone.goes moves
    · rw [switchers_event (w := { w with place := true }) event, ← switchers_append]
      exact others.attends (moves.attends event)
  | @closes _ l r w _ s waiting ends =>
    change Turned prompt (switchers (l ++ r)) s.footing
      (Switch.between a.state.enablement s.enablement ++ a.notes)
    rw [waiting] at h
    rcases h.parts with ⟨switches, left, right, alone⟩ | ⟨event, others⟩
    · rw [switchers_append, left, right]
      exact alone.closes ends
    · exact others.attends (AgentCall.Ends.attends ends event)
  | stays => exact h
  | @outside _ news => exact Stood.news h (plain news rfl)

/-- The turn of a pool stands where it should after all moves. -/
theorem Stood.after {pool : Flow.Pool AgentCall (Work Unit) Session Unit Switch}
    (follows : Flow.Pool.Shadows (AgentCall.protocol prompt) pool a) (h : Stood prompt a)
    {moves : List (Flow.Move AgentCall StopNews)} (inTurn : InTurn pool moves)
    (plain : ∀ news, .outside news ∈ moves → prompt → news.Plain) :
    ∃ b, Flow.Pool.Shadows (AgentCall.protocol prompt) (pool.play turning moves) b ∧
      Stood prompt b := by
  induction moves generalizing pool a with
  | nil => exact ⟨a, follows, h⟩
  | cons move rest ih =>
    -- The shadow has the same calls under way as the pool, so it rests when the pool does.
    obtain ⟨takes, later⟩ := inTurn
    obtain ⟨b, next, advance⟩ := Flow.Pool.step_advance follows (fun _ => h.plain)
      (fun c s given => obeys_agentCall c s given) move
    have rests : move.begun?.any AgentCall.switches = true → Rests a := by
      intro switches v there
      obtain ⟨w, under, -, same, -⟩ := follows.of_shadow there
      exact same ▸ takes switches w under
    have stood : Stood prompt b :=
      h.advance rests (fun news is => plain news (is ▸ List.mem_cons_self)) advance
    exact ih next stood later fun news there => plain news (List.mem_cons_of_mem _ there)

/-- **Between two turns** of a session that has just been connected. -/
theorem turned_at_rest {seat : Nat} {target : Target} {settings : Settings}
    {moves : List (Flow.Move AgentCall StopNews)}
    (inTurn : InTurn { state := connect seat target settings } moves)
    (rests : Rests (afterTurns (connect seat target settings) moves))
    (plain : ∀ news, .outside news ∈ moves → prompt → news.Plain) :
    Turned prompt [] (afterTurns (connect seat target settings) moves).state.footing
      (afterTurns (connect seat target settings) moves).notes := by
  have start : Stood prompt { state := connect seat target settings } :=
    ⟨fun _ => rfl, trivial, .rest rfl rfl fun _ _ => ⟨rfl, fun _ => rfl⟩⟩
  obtain ⟨b, follows, stood⟩ := start.after ⟨rfl, rfl, .nil, rfl, rfl⟩ inTurn plain
  have none : switchers b.waiting = [] := by
    refine List.filter_eq_nil_iff.2 fun v there => ?_
    obtain ⟨w, under, -, same, -⟩ := follows.of_shadow there
    exact Bool.eq_false_iff.1 (same ▸ rests w under)
  have turned : Turned prompt (switchers b.waiting) b.state.footing b.notes := stood
  rw [none, follows.state, follows.notes] at turned
  exact turned

end Runs

/-! ## What is told -/

/-- **What is told alternates**, newest first: that the agent was enabled is
told unless that was told last, and that it was disabled only then. -/
def Alternates : List Bool → Prop
  | [] => True
  | on :: earlier => (on = true ↔ earlier.head? ≠ some true) ∧ Alternates earlier

/-- What is told of a proper history says whether the agent is on, and
alternates, unless the agent has refused. -/
theorem alternates_iff {notes : List Switch} (proper : Switch.Proper notes) :
    ((Switch.settled notes = .enabled ↔ (notes.map Switch.tells).head? = some true) ∧
        Alternates (notes.map Switch.tells)) ↔ .refused ∉ notes := by
  induction notes with
  | nil => simp [Switch.settled, Alternates]
  | cons switch earlier ih =>
    cases switch with
    | accepted =>
      obtain ⟨off, proper⟩ := proper
      have before := ih proper
      rw [off] at before
      simpa [Switch.settled, Switch.tells, Alternates] using before
    | refused => simp [Switch.settled, Switch.tells]
    | disabled =>
      obtain ⟨on, proper⟩ := proper
      have before := ih proper
      rw [on] at before
      simpa [Switch.settled, Switch.tells, Alternates] using before

/-- **Between two turns** it is told how they came out, and the agent is
enabled if it has accepted last. What was told alternates and says whether
the agent is enabled if, and only if, it has never refused. -/
theorem announced_iff (seat : Nat) (target : Target) (settings : Settings)
    (moves : List (Flow.Move AgentCall StopNews))
    (inTurn : InTurn { state := connect seat target settings } moves)
    (rests : Rests (afterTurns (connect seat target settings) moves)) :
    let pool := afterTurns (connect seat target settings) moves
    let told := Mark.switches pool.state.marks
    told = pool.notes.map Switch.tells ∧
      (pool.state.isEnabled = true ↔ pool.notes.head? = some .accepted) ∧
      (((pool.state.isEnabled = true ↔ told.head? = some true) ∧ Alternates told) ↔
        .refused ∉ pool.notes) := by
  intro pool told
  have turned : Turned False [] pool.state.footing pool.notes :=
    turned_at_rest inTurn rests fun _ _ => False.elim
  obtain ⟨-, proper, turn⟩ := turned
  cases turn with
  | rest settles tells bare =>
    have on : pool.state.isEnabled = true ↔ Switch.settled pool.notes = .enabled := by
      rw [isEnabled_iff_footing, settles]
      rcases settled_cases pool.notes with is | is <;> simp [is]
    have told_eq : told = pool.notes.map Switch.tells := tells
    refine ⟨told_eq, on.trans Switch.settled_eq_enabled, ?_⟩
    rw [on, told_eq]
    exact alternates_iff proper

/-- The agent is asked for under tickets from some number on, takes events in
and is given an answer. -/
def enabling (first : Ticket) (events : List Wire.Event) (answer : Reply) :
    List (Flow.Move AgentCall StopNews) :=
  .begin .enable :: (events.map fun event => .begin (.receive event)) ++
    [.outside (.answer first answer), .outside (.answer (first + 1) (.ok (.obj []))),
      .outside (.answer (first + 2) (.ok (.obj []))), .carry 0, .carry 0, .carry 0]

/-- The agent is disabled. -/
def disabling (first : Ticket) : List (Flow.Move AgentCall StopNews) :=
  [.begin .disable, .outside (.answer first (.ok (.obj []))),
    .outside (.answer (first + 1) (.ok (.obj []))), .carry 0, .carry 0]

/-- An agent that accepts is disabled. -/
def onAndOff (events : List Wire.Event) : List (Flow.Move AgentCall StopNews) :=
  enabling 0 events (.ok (.obj [("debuggerId", .str "first")])) ++ disabling 3

/-- That it was enabled is told, and that it was disabled. -/
theorem announced_on_and_off :
    let pool := afterTurns (connect 0 (.root ⟨0, "page", .frame⟩) {}) (onAndOff [])
    pool.notes = [.disabled, .accepted] ∧ Alternates (Mark.switches pool.state.marks) := by
  have announced := announced_iff 0 (.root ⟨0, "page", .frame⟩) {} (onAndOff []) (by decide +kernel)
    (by decide +kernel)
  have notes : (afterTurns (connect 0 (.root ⟨0, "page", .frame⟩) {}) (onAndOff [])).notes =
      [.disabled, .accepted] := rfl
  exact ⟨notes, (announced.2.2.2 (by rw [notes]; decide)).2⟩

/-- An agent that refuses twice is said to be enabled twice, and is not. -/
theorem refusals_unannounced :
    let start := connect 0 (.root ⟨0, "page", .frame⟩) {}
    let moves := enabling 0 [] (.error .closed) ++ enabling 3 [] (.error .closed)
    let pool := afterTurns start moves
    InTurn { state := start } moves ∧ Rests pool ∧
      ¬(pool.state.isEnabled = true ↔ (Mark.switches pool.state.marks).head? = some true) ∧
      ¬Alternates (Mark.switches pool.state.marks) := by
  refine ⟨by decide +kernel, by decide +kernel, by decide +kernel, ?_⟩
  have told : Mark.switches (afterTurns (connect 0 (.root ⟨0, "page", .frame⟩) {})
      (enabling 0 [] (.error .closed) ++ enabling 3 [] (.error .closed))).state.marks =
        [true, true] := by
    decide +kernel
  simp [told, Alternates]

end Session

end DebugClient
