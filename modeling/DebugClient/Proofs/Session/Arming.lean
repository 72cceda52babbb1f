import DebugClient.Proofs.Session.Meetings
/-!
# Arming — what a call that runs to a location leaves

A run to a location that has a listener is armed before the request is sent, and
is not called off if the backend refuses the request. So the listener may still
be told at the next stop, in the place of it. Nothing else is left of the call:
`as_if_uncalled` compares whatever is called and answered later, in any order,
with the same on a session on which this call was not made.

The two go alike move by move (`Together.step`), up to a stop that is taken in
exactly where one of the runs ends (`ComesFor`). A stop elsewhere ends both runs,
and leaves no difference (`Together.takes`).
-/

namespace DebugClient

namespace Session

/-! ## Two sessions -/

section Sessions

variable {past past' : List Signal} {own other : Option Destination} {s s' t t' : Session}

/-- Answers come in the same. -/
theorem Parted.apply {allowed : Option Destination → Option Destination → Prop}
    (h : Parted past past' allowed s s') (response : Response) :
    Parted past past' allowed (response.apply s) (response.apply s') := by
  refine h.change fun s past aim => ?_
  cases response with
  | reply ticket reply | advice ticket advice =>
    change (if ticket < s.nextTicket then _ else _) =
      following (if ticket < s.nextTicket then _ else _) past aim
    split <;> rfl

/-- What is so since then is so since before. -/
theorem Parted.since (h : Parted past past' (SameOr own other) s s')
    (since : likeness.since s s' t t') : Parted past past' (SameOr own other) t t' := by
  obtain ⟨b, a, a', allowed, rfl, rfl⟩ := h
  obtain ⟨c, aim, aim', same | ⟨rfl, rfl⟩, rfl, rfl⟩ := since
  · refine ⟨{ c with journal := c.journal ++ b.journal }, aim, aim', .inl same, ?_, ?_⟩ <;>
      simp [following]
  · refine ⟨{ c with journal := c.journal ++ b.journal }, aim, aim', allowed, ?_, ?_⟩ <;>
      simp [following]

theorem Parted.likens {allowed : Option Destination → Option Destination → Prop}
    (h : Parted past past' allowed s s') : likeness.alike s s' :=
  ⟨_, _, h.mono fun _ _ _ => trivial⟩

/-- Both sessions meet a stop the same way. -/
theorem Parted.meets {allowed : Option Destination → Option Destination → Prop}
    (h : Parted past past' allowed s s') (r : Wire.PauseReport) :
    s'.isEnabled = s.isEnabled ∧ s'.policies.expandsFrames = s.policies.expandsFrames ∧
      s'.known r = s.known r ∧ s'.nextTicket = s.nextTicket := by
  obtain ⟨_, _, _, -, rfl, rfl⟩ := h
  exact ⟨rfl, rfl, rfl, rfl⟩

/-- Different runs are the two that are given. -/
theorem Parted.aims (h : Parted past past' (SameOr own other) s s')
    (differ : s.destination ≠ s'.destination) : s.destination = own ∧ s'.destination = other := by
  obtain ⟨_, _, _, same | runs, rfl, rfl⟩ := h
  · exact absurd same differ
  · exact runs

/-- Where the runs under way are the same they are none of the given. -/
theorem Parted.wider (h : Parted past past' (SameOr none none) s s') :
    Parted past past' (SameOr own other) s s' :=
  h.mono fun _ _ same => .inl (same.elim id fun none => none.1.trans none.2.symm)

end Sessions

/-! ## Calls side by side -/

/-- **Calls go alike on two sessions**: the same calls are under way and stand at
the same places, and the same have ended. The sessions are the same but for their
pasts and for the runs to a location that are under way, which are the same or
those that are given. -/
structure Alike (past past' : List Signal) (own other : Option Destination) (p q : Calls) :
    Prop where
  /-- The calls. -/
  calls : p.GoesAlike q
  /-- The sessions. -/
  state : Parted past past' (SameOr own other) p.state q.state

/-- **A stop comes for a run** to a location: it is taken in by a move while
different runs are under way, exactly at the location of one of them. -/
structure ComesFor (own other : Option Destination) (p q : Calls)
    (move : Flow.Move DriveCall Response) : Prop where
  /-- The runs. -/
  differ : own ≠ other
  /-- The run on the one session. -/
  here : p.state.destination = own
  /-- The run on the other. -/
  there : q.state.destination = other
  /-- The stop. -/
  stop : ∃ r frames aim, TakesIn p move r frames ∧ (own = some aim ∨ other = some aim) ∧
    StopsAt frames aim.location

/-- **A stop makes no difference** between two sessions with the same run to a
location under way, or elsewhere. -/
def Indifferent (frames : List CallFrame) (s s' : Session) : Prop :=
  s.destination = s'.destination ∨
    ∀ aim, s.destination = some aim ∨ s'.destination = some aim → ¬ StopsAt frames aim.location

/-- Calls go alike, and stand where the sessions say that they have met. -/
structure Together (past past' : List Signal) (own other : Option Destination) (p q : Calls) :
    Prop where
  /-- They go alike. -/
  alike : Alike past past' own other p q
  /-- They stand where they should. -/
  placed : Placed p

/-- **A call has gone on together** on two sessions. -/
structure WentOn (past past' : List Signal) (own other : Option Destination) (c : DriveCall)
    (met : List Session) (r r' : Work Unit × Session) : Prop where
  /-- It has come to the same place. -/
  same : r'.1 = r.1
  /-- The sessions. -/
  state : Parted past past' (SameOr own other) r.2 r'.2
  /-- It stands where it should. -/
  stands : r.1.result? = none → StandsAt c met r.1

section Pairs

variable {past past' : List Signal} {own other own' other' : Option Destination} {p q : Calls}
  {c : DriveCall} {met : List Session} {r r' : Work Unit × Session} {s s' t t' : Session}
  {move : Flow.Move DriveCall Response} {report : Wire.PauseReport} {frames : List CallFrame}

theorem Together.opened (h : Together past past' own other p q)
    (went : WentOn past past' own' other' c [p.state] r r') :
    Together past past' own' other' (p.opened meeting c r) (q.opened meeting c r') := by
  have note : meeting.note p.begun c p.state r.2 = [p.state].map (p.begun, ·) := rfl
  refine ⟨⟨h.alike.calls.opened went.same, ?_⟩,
    h.placed.opened note (fun _ _ => trivial) went.stands⟩
  rw [Flow.Pool.state_opened, Flow.Pool.state_opened]
  exact went.state

theorem Together.moved (h : Together past past' own other p q) {place : Nat}
    {w : Flow.Standing DriveCall (Work Unit)} (there : p.waiting[place]? = some w)
    (went : WentOn past past' own' other' w.call (p.state :: p.met w.number) r r') :
    Together past past' own' other' (p.moved meeting place w r) (q.moved meeting place w r') := by
  have note : meeting.note w.number w.call p.state r.2 = [p.state].map (w.number, ·) := rfl
  refine ⟨⟨h.alike.calls.moved went.same, ?_⟩,
    h.placed.moved there note (fun _ _ => trivial) went.stands⟩
  rw [Flow.Pool.state_moved, Flow.Pool.state_moved]
  exact went.state

/-- A call that goes the same way on sessions that are alike goes on together. -/
theorem WentOn.of_gone {earlier : List Session} (gone : Flow.GoneAlike likeness s s' r r')
    (state : Parted past past' (SameOr own other) s s')
    (unasked : earlier = [] → ∀ r, ¬ AwaitsFrames c r t) :
    WentOn past past' own other c (t :: earlier) r r' :=
  ⟨gone.same, state.since gone.since, fun _ => .rests gone.rests unasked⟩

/-! ### Stops -/

/-- **A stop that tells two sessions apart** is at a location where one of two
different runs ends. Any other one goes on together, and ends both runs. -/
theorem wentOn_takePause {earlier : List Session}
    (h : Parted past past' (SameOr own other) t t') (alike : Indifferent frames t t')
    (unasked : earlier = [] → ∀ r, ¬ AwaitsFrames c r s) :
    WentOn past past' none none c (s :: earlier)
      ((takePause (.ofReport report frames)).toWait t)
      ((takePause (.ofReport report frames)).toWait t') := by
  have parted : Parted past past' (SameOr none none) { t with destination := none }
      { t' with destination := none } := by
    obtain ⟨b, _, _, -, rfl, rfl⟩ := h
    exact ⟨b, none, none, .inl rfl, rfl, rfl⟩
  have self (u : Session) : Besides u [] u := ⟨_, _, _, _, rfl⟩
  obtain ⟨aim, is, stops, goes, -⟩ | ⟨away, goes⟩ := toWait_takePause (r := report) (self t) <;>
    obtain ⟨aim', is', stops', goes', -⟩ | ⟨away', goes'⟩ := toWait_takePause (r := report) (self t')
  · -- It is where both runs end, so they are the same.
    obtain same | neither := alike
    · obtain rfl : aim = aim' := Option.some.inj (is.symm.trans (same.trans is'))
      rw [goes, goes']
      exact ⟨rfl, parted.change (f := (·.emit (.reached aim.listener))) fun _ _ _ => rfl, nofun⟩
    · exact absurd stops (neither aim (.inl is))
  · obtain same | neither := alike
    · exact absurd stops (away' aim (same ▸ is))
    · exact absurd stops (neither aim (.inl is))
  · obtain same | neither := alike
    · exact absurd stops' (away aim' (same ▸ is'))
    · exact absurd stops' (neither aim' (.inr is'))
  · rw [goes, goes']
    exact .of_gone ((blind_presenting _).toWait parted.likens) parted unasked

/-- **A stop at neither location** leaves no difference. -/
theorem Together.takes (h : Together past past' own other p q)
    (taken : TakesIn p move report frames) (alike : Indifferent frames p.state q.state) :
    Together past past' none none (p.onward [move]) (q.onward [move]) := by
  have state := h.alike.state
  cases move with
  | begin c =>
    obtain ⟨⟨rfl, stop⟩, on, off, rfl⟩ := taken.of_begin
    obtain ⟨enabled, expands, known, -⟩ := state.meets report
    have goes := toWait_stop on stop
    have goes' := toWait_stop (enabled.trans on) stop
    rw [off, if_neg Bool.false_ne_true] at goes
    rw [expands, off, if_neg Bool.false_ne_true, known] at goes'
    refine h.opened (c := .receive (.paused report)) ?_
    change WentOn _ _ _ _ _ _ ((dispatch (.paused report)).toWait p.state)
      ((dispatch (.paused report)).toWait q.state)
    rw [goes, goes']
    refine wentOn_takePause (state.change (f := minted report) fun _ _ _ => rfl) alike fun _ r awaits => ?_
    exact Bool.false_ne_true (off.symm.trans awaits.expands)
  | carry place =>
    obtain ⟨w, ticket, known, answer, there, -, stands, answered, rfl⟩ := taken.of_carry h.placed
    have there' : q.waiting[place]? = some w := h.alike.calls.waiting ▸ there
    have answered' : q.state.advice.lookup ticket = some answer :=
      answered ▸ (state.reads (f := (·.advice.lookup ticket)) fun _ _ _ => rfl).symm
    have advised : w.place.moves p.state = true := by
      rw [stands, moves_awaitsFrames]
      exact Lookup.any_of_lookup answered
    have advised' : w.place.moves q.state = true := by
      rw [stands, moves_awaitsFrames]
      exact Lookup.any_of_lookup answered'
    have met : p.met w.number ≠ [] := by
      have placed := h.placed.waiting w (List.mem_of_getElem? there)
      intro none
      rw [show Flow.Pool.noted w.number p.notes = [] from none] at placed
      cases placed
    have taken : WentOn past past' none none w.call (p.state :: p.met w.number)
        (w.place.pass p.state) (w.place.pass q.state) := by
      rw [stands, pass_awaitsFrames answered, pass_awaitsFrames answered']
      exact wentOn_takePause (state.change (f := fun s => (s.takeAdvice ticket).2) fun _ _ _ => rfl) alike
        fun none => absurd none met
    change Together _ _ _ _ (p.step meeting (.carry place)) (q.step meeting (.carry place))
    rw [Flow.Pool.step_carry there advised, Flow.Pool.step_carry there' advised']
    exact h.moved there taken
  | outside e => cases taken

/-! ### Moves -/

/-- A call that begins goes on together, unless it is a stop that is taken in. -/
theorem Together.begin (h : Together past past' own other p q) (c : DriveCall)
    (waits : ∀ r frames, ¬ TakesIn p (.begin c) r frames) :
    Together past past' own other (p.onward [.begin c]) (q.onward [.begin c]) := by
  have state := h.alike.state
  refine h.opened (c := c) ?_
  by_cases stop : ∃ r, c.IsStop r
  · obtain ⟨r, rfl, stop⟩ := stop
    obtain ⟨enabled, expands', known, ticket⟩ := state.meets r
    by_cases on : p.state.isEnabled = true
    · -- The stop asks for its frames, or it would be taken in.
      have expands : p.state.policies.expandsFrames = true := by
        by_contra off
        exact waits r _ (.atOnce stop on (.plain (Bool.eq_false_iff.2 off)))
      have goes := toWait_stop on stop
      have goes' := toWait_stop (enabled.trans on) stop
      rw [if_pos expands] at goes
      rw [expands', if_pos expands, known, ticket] at goes'
      change WentOn _ _ _ _ _ _ ((dispatch (.paused r)).toWait p.state)
        ((dispatch (.paused r)).toWait q.state)
      rw [goes, goes']
      exact ⟨rfl, state.change (f := askingFrames r) fun _ _ _ => rfl,
        fun _ => .awaits ⟨⟨rfl, stop⟩, on, expands⟩⟩
    · have dropped (s : Session) (off : s.isEnabled = false) :
          (meeting.program (.receive (.paused r))).toWait s = (.done (), s) := by
        change (if true && !s.isEnabled then return () else handlePaused r : Work Unit).toWait s = _
        rw [off]
        rfl
      have off := Bool.eq_false_iff.2 on
      rw [dropped _ off, dropped _ (enabled.trans off)]
      exact ⟨rfl, state, nofun⟩
  · have blind : Blind c.program := blind_program fun r is => stop ⟨r, is⟩
    exact .of_gone (blind.toWait state.likens) state fun _ r awaits => stop ⟨r, awaits.stop⟩

/-- So does one that goes on. -/
theorem Together.carry (h : Together past past' own other p q) (place : Nat)
    (waits : ∀ r frames, ¬ TakesIn p (.carry place) r frames) :
    Together past past' own other (p.onward [.carry place]) (q.onward [.carry place]) := by
  have state := h.alike.state
  have waiting : q.waiting = p.waiting := h.alike.calls.waiting
  change Together _ _ _ _ (p.step meeting (.carry place)) (q.step meeting (.carry place))
  by_cases goes : ∃ w, p.waiting[place]? = some w ∧ w.place.moves p.state = true
  · obtain ⟨w, there, ready⟩ := goes
    have stands := h.placed.waiting w (List.mem_of_getElem? there)
    have ready' : w.place.moves q.state = true := (stands.moves_eq state.likens).symm.trans ready
    rw [Flow.Pool.step_carry there ready, Flow.Pool.step_carry (waiting ▸ there) ready']
    refine h.moved there ?_
    change WentOn _ _ _ _ _ (p.state :: Flow.Pool.noted w.number p.notes) _ _
    cases met : Flow.Pool.noted w.number p.notes with
    | nil =>
      rw [met] at stands
      cases stands
    | cons latest earlier =>
      rw [met] at stands
      generalize is : w.place = m at stands ready
      cases stands with
      | @awaits r _ awaits =>
        -- The policy has answered, so the stop would be taken in.
        obtain ⟨answer, answered⟩ := Lookup.exists_lookup ready
        exact absurd (.expanded there awaits.stop.1 awaits.stop.2 met awaits.on answered
          (.told awaits.expands (.head _))) (waits r _)
      | rests rests _ => exact .of_gone (rests.pass state.likens) state nofun
  · have stays (w) (there : p.waiting[place]? = some w) : w.place.moves p.state = false :=
      Bool.eq_false_iff.2 fun ready => goes ⟨w, there, ready⟩
    rw [Flow.Pool.step_stay stays, Flow.Pool.step_stay fun w there => ?_]
    · exact h
    · rw [waiting] at there
      have stands := h.placed.waiting w (List.mem_of_getElem? there)
      exact (stands.moves_eq state.likens).symm.trans (stays w there)

/-- **A move** leaves calls together, or a stop comes for a run. -/
theorem Together.step (h : Together past past' own other p q)
    (move : Flow.Move DriveCall Response) :
    Together past past' own other (p.onward [move]) (q.onward [move]) ∨
      ComesFor own other p q move := by
  by_cases taken : ∃ r frames, TakesIn p move r frames
  · obtain ⟨r, frames, taken⟩ := taken
    by_cases alike : Indifferent frames p.state q.state
    · obtain ⟨⟨calls, state⟩, placed⟩ := h.takes taken alike
      exact .inl ⟨⟨calls, state.wider⟩, placed⟩
    · unfold Indifferent at alike
      push Not at alike
      obtain ⟨differ, aim, is, stops⟩ := alike
      obtain ⟨here, there⟩ := h.alike.state.aims differ
      refine .inr ⟨here ▸ there ▸ differ, here, there, r, frames, aim, taken, ?_, stops⟩
      exact here ▸ there ▸ is
  · have waits (r) (frames) : ¬ TakesIn p move r frames := fun takes => taken ⟨r, frames, takes⟩
    cases move with
    | begin c => exact .inl (h.begin c waits)
    | carry place => exact .inl (h.carry place waits)
    | outside response =>
      obtain ⟨⟨calls, state⟩, placed⟩ := h
      exact .inl ⟨⟨⟨calls.begun, calls.waiting, calls.ended⟩, state.apply response⟩, placed.on _⟩

/-- **Whatever is called and answered**, in any order, leaves calls together, up
to a stop that comes for a run. -/
theorem Together.onward (h : Together past past' own other p q)
    (moves : List (Flow.Move DriveCall Response)) :
    Together past past' own other (p.onward moves) (q.onward moves) ∨
      ∃ before move after, moves = before ++ move :: after ∧
        Together past past' own other (p.onward before) (q.onward before) ∧
        ComesFor own other (p.onward before) (q.onward before) move := by
  induction moves generalizing p q with
  | nil => exact .inl h
  | cons move rest ih =>
    obtain next | comes := h.step move
    · refine (ih next).imp_right fun parted => ?_
      obtain ⟨before, last, after, rfl, together, comes⟩ := parted
      exact ⟨move :: before, last, after, rfl, together, comes⟩
    · exact .inr ⟨[], move, rest, rfl, h, comes⟩

/-- Where the runs are the same no stop comes for one of them alone. -/
theorem Together.always (h : Together past past' own own p q)
    (moves : List (Flow.Move DriveCall Response)) :
    Together past past' own own (p.onward moves) (q.onward moves) := by
  obtain together | ⟨before, move, after, -, -, comes⟩ := h.onward moves
  · exact together
  · exact absurd rfl comes.differ

end Pairs

/-- Calls stand where the sessions say that they have met, whatever happens. -/
theorem Placed.onward {p : Calls} (h : Placed p) (moves : List (Flow.Move DriveCall Response)) :
    Placed (p.onward moves) := by
  have self : Together p.state.journal p.state.journal p.state.destination p.state.destination p p :=
    ⟨⟨.refl p, { p.state with journal := [] }, _, _, .inl rfl, rfl, rfl⟩, h⟩
  exact (self.always moves).placed

/-! ## The call -/

/-- **Calls go on alike** on two sessions with different pasts and different runs
to a location under way, whatever is called and answered, in any order. -/
structure GoOnAlike (p q : Calls) : Prop where
  /-- Everything goes the same way on both, up to a stop that comes for one of the
  runs. -/
  alike : ∀ moves,
    Alike p.state.journal q.state.journal p.state.destination q.state.destination
        (p.onward moves) (q.onward moves) ∨
      ∃ before move after, moves = before ++ move :: after ∧
        Alike p.state.journal q.state.journal p.state.destination q.state.destination
          (p.onward before) (q.onward before) ∧
        ComesFor p.state.destination q.state.destination (p.onward before) (q.onward before) move
  /-- A stop that is taken in elsewhere goes the same way too, and from then on
  everything does: no run is under way any more. -/
  elsewhere : ∀ before move after r frames,
    Alike p.state.journal q.state.journal p.state.destination q.state.destination
        (p.onward before) (q.onward before) →
      TakesIn (p.onward before) move r frames →
      (∀ aim, p.state.destination = some aim ∨ q.state.destination = some aim →
        ¬ StopsAt frames aim.location) →
      Alike p.state.journal q.state.journal none none (p.onward (before ++ move :: after))
        (q.onward (before ++ move :: after))
  /-- On both a stop that is taken in is swallowed exactly at the location of the
  run that is under way, and held elsewhere. -/
  stops : ∀ before move r frames,
    (TakesIn (p.onward before) move r frames →
      Arrives (p.onward before) r frames (p.onward (before ++ [move]))) ∧
    (TakesIn (q.onward before) move r frames →
      Arrives (q.onward before) r frames (q.onward (before ++ [move])))

/-- **What a call to run to a location leaves** of the session that there would be
without it, other calls being under way. -/
structure LeavesRun (location : Location) (listener : Option String) (p : Calls) (t u : Session) :
    Prop where
  /-- Without it the session would be as it was, but that the ticket of the
  request is skipped and the answers that came in meanwhile have come in. -/
  uncalled : ∃ replies advice,
    u = { p.state with nextTicket := p.state.nextTicket + 1, replies, advice }
  /-- The request is written down, and the run is under way if it has a
  listener. -/
  called : t = { u with
    destination := (listener.map fun l => ⟨location, l⟩).or p.state.destination
    journal := .request p.state.nextTicket (.continueToLocation location.toWire) :: p.state.journal }
  /-- What comes after it goes as it would without it. -/
  later : GoOnAlike (p.on t) (p.on u)
  /-- What comes while it waits for the answer, and then, goes as it would if the
  run were not under way. -/
  meanwhile : let begun := p.onward [.begin (.continueTo location listener)]
    begun.state.destination = (listener.map fun l => ⟨location, l⟩).or p.state.destination ∧
      GoOnAlike begun (begun.on { begun.state with destination := p.state.destination })

section Call

variable {location : Location} {listener : Option String} {s t : Session}
  {waits : List (List Response)}

theorem yields_continueTo {heard : List (Ticket × Advice)} :
    (holding (continueTo location listener)).Yields (answering heard)
      (fun _ t => ∃ replies advice, t = { s with
        nextTicket := s.nextTicket + 1
        destination := (listener.map fun l => ⟨location, l⟩).or s.destination
        journal := .request s.nextTicket (.continueToLocation location.toWire) :: s.journal
        replies, advice }) s := by
  cases listener with
  | none | some listener =>
    rintro t ⟨replies, advice, rfl, -⟩ _
    exact ⟨_, _, rfl⟩

/-- Moves before others. -/
theorem onward_append (p : Calls) (before after : List (Flow.Move DriveCall Response)) :
    p.onward (before ++ after) = (p.onward before).onward after := List.foldl_append

/-- **The same calls go on alike** on sessions that differ in what was said and in
the run that is under way. -/
theorem goOnAlike_on {p : Calls} (placed : Placed p) (b : Session) {t u : Session}
    (ht : t = b.following t.journal t.destination) (hu : u = b.following u.journal u.destination) :
    GoOnAlike (p.on t) (p.on u) := by
  have together : Together t.journal u.journal t.destination u.destination (p.on t) (p.on u) :=
    ⟨⟨⟨rfl, rfl, rfl⟩, b, _, _, .inr ⟨rfl, rfl⟩, ht, hu⟩, placed.on t⟩
  refine ⟨fun moves => ?_, fun before move after r frames alike taken neither => ?_,
    fun before move r frames => ⟨fun taken => ?_, fun taken => ?_⟩⟩
  · obtain ⟨alike, -⟩ | ⟨before, move, after, split, ⟨alike, -⟩, comes⟩ := together.onward moves
    · exact .inl alike
    · exact .inr ⟨before, move, after, split, alike, comes⟩
  · have here : Together t.journal u.journal t.destination u.destination
        ((p.on t).onward before) ((p.on u).onward before) := ⟨alike, (placed.on t).onward before⟩
    have apart : Indifferent frames ((p.on t).onward before).state ((p.on u).onward before).state := by
      refine Classical.or_iff_not_imp_left.2 fun differ aim is => neither aim ?_
      obtain ⟨own, other⟩ := alike.state.aims differ
      exact own ▸ other ▸ is
    rw [onward_append, onward_append]
    exact ((here.takes taken apart).always after).alike
  · rw [onward_append]
    exact arrives_of_takesIn ((placed.on t).onward before) taken
  · rw [onward_append]
    exact arrives_of_takesIn ((placed.on u).onward before) taken

/-- **A call to run to a location goes by as if it had not been made**, whatever
the backend answers, but for the listener that waits for the next stop. -/
theorem as_if_uncalled (first : Session) (earlier : List (Flow.Move DriveCall Response))
    (called : (DriveCall.continueTo location listener).program.finish Response.apply waits
      (Calls.onward { state := first } earlier).state = some ((), t)) :
    ∃ u, LeavesRun location listener (Calls.onward { state := first } earlier) t u := by
  have unplaced : Placed { state := first } := .empty rfl rfl rfl
  have placed := unplaced.onward earlier
  generalize Calls.onward { state := first } earlier = p at placed called
  obtain ⟨replies, advice, rfl⟩ := yields_continueTo.finish
    (Drive.relies ⟨.continueTo location listener, waits, p.state, (), t⟩) called
  let u : Session := { p.state with nextTicket := p.state.nextTicket + 1, replies, advice }
  refine ⟨u, ⟨replies, advice, rfl⟩, rfl, goOnAlike_on placed { u with journal := [] } rfl rfl, ?_⟩
  refine ⟨by cases listener <;> rfl, ?_⟩
  have stays := placed.onward [.begin (.continueTo location listener)]
  generalize p.onward [.begin (.continueTo location listener)] = begun at stays
  exact goOnAlike_on stays { begun.state with journal := [] } rfl rfl

end Call

/-- The agent is enabled, and a script is parsed. -/
def tenLinesParsed : List (Flow.Move DriveCall Response) :=
  [.begin .enable, .outside (.reply 0 (.ok (.obj [("debuggerId", .str "d")]))),
    .outside (.reply 1 (.ok (.obj []))), .outside (.reply 2 (.ok (.obj []))), .carry 0, .carry 0,
    .carry 0, .begin (.receive (.scriptParsed tenLines))]

/-- A session that knows the script. -/
def informed : Calls := Calls.onward { state := connect 0 (.root ⟨0, "page", .frame⟩) {} } tenLinesParsed

/-- The backend refuses to run to a line of it. -/
def refusesToRun : List (List Response) := [[.reply 3 (.error (.refused "Cannot continue"))]]

theorem as_if_uncalled_refused :
    ∃ t u, (DriveCall.continueTo ⟨"7", 3, some 4, 0⟩ (some "there")).program.finish Response.apply
        refusesToRun informed.state = some ((), t) ∧
      LeavesRun ⟨"7", 3, some 4, 0⟩ (some "there") informed t u := by
  have ends : (DriveCall.continueTo ⟨"7", 3, some 4, 0⟩ (some "there")).program.finish
      Response.apply refusesToRun informed.state = some ((), _) := rfl
  obtain ⟨u, leaves⟩ := as_if_uncalled (connect 0 (.root ⟨0, "page", .frame⟩) {}) tenLinesParsed ends
  exact ⟨_, u, ends, leaves⟩

/-- **A listener is told though the backend has refused** to run to the location:
the next stop is exactly there, and is not shown. Without the call it is shown. -/
theorem told_though_refused :
    ∃ t, (DriveCall.continueTo ⟨"7", 3, some 4, 0⟩ (some "there")).program.finish Response.apply
        refusesToRun informed.state = some ((), t) ∧
      let stop := [.begin (.receive (.paused (stopOn 3)))]
      ((informed.on t).onward stop).state.journal = .reached "there" :: t.journal ∧
        ((informed.on t).onward stop).state.isPaused = false ∧
        (informed.onward stop).state.isPaused = true := by
  have ends : (DriveCall.continueTo ⟨"7", 3, some 4, 0⟩ (some "there")).program.finish
      Response.apply refusesToRun informed.state = some ((), _) := rfl
  exact ⟨_, ends, rfl, rfl, rfl⟩

end Session

end DebugClient
