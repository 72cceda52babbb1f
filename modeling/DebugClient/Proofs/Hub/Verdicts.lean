import DebugClient.Proofs.Flow.Records
import DebugClient.Proofs.Hub.EarlyEnds
/-!
# Verdicts — what is known of side effects, and how long

Calls that need to know whether the backend can end evaluations early find
out by a probe, and several probes may be under way at once. Each writes
down what its answer shows, whatever was known by then: what is known is
the newest verdict (`support_eq_verdict`). So it stays as it is exactly if
the probes that are still under way are answered alike
(`support_kept_iff`), and two that are answered differently turn it over.
-/

namespace DebugClient

namespace Session

/-! ## Verdicts -/

/-- A command is a probe. -/
def isProbe : Wire.Command → Bool
  | .evaluate e => e.expression == probe && e.throwOnSideEffect
  | _ => false

/-- The ticket of the probe a call awaits the answer to: it has begun where
nothing was known, and the probe is all it has sent. -/
def probing? : List (Session × Session) → Option Ticket
  | [(s, t)] =>
    match s.sideEffectSupport, t.saidSince s.journal.length with
    | none, [.request ticket command] => if isProbe command then some ticket else none
    | _, _ => none
  | _ => none

/-- What a call finds out when it goes on in a state: what the answer to its
probe shows, if it awaits one. -/
def verdict? (s : Session) (path : List (Session × Session)) : Option Bool :=
  (probing? path).map fun ticket => showsSupport (s.takeReply ticket).1

/-- What calls have found out, newest first. -/
def verdicts : List (Nat × (Session × Session)) → List Bool
  | [] => []
  | (number, (s, _)) :: earlier =>
    (verdict? s (Flow.Pool.noted number earlier)).toList ++ verdicts earlier

/-! ## Calls -/

section Calls

variable {c : EvaluationCall} {path : List (Session × Session)} {s₀ s s' : Session}

/-- **What a call does on a stretch** of its path: it writes down its
verdict if it has one. -/
structure Informs (path : List (Session × Session)) (s t : Session) : Prop where
  /-- What is known. -/
  support : t.sideEffectSupport = (verdict? s path).or s.sideEffectSupport
  /-- The selected frame stays one of this runtime. -/
  here : SelectsHere s → SelectsHere t

/-- What a call may do from one wait to the next. Its phase is its path. -/
def informing : Flow.Protocol (List (Session × Session)) Session (Outcome ⊕ Bool) where
  given := SelectsHere
  moves path s path' t := path' = (s, t) :: path ∧ Informs path s t
  ends path s _ t := Informs path s t

/-- A call that awaits no answer to a probe and will send none. -/
structure Informed (c : EvaluationCall) (path : List (Session × Session)) (s₀ s : Session) :
    Prop where
  /-- What it does. -/
  informs : Informs path s₀ s
  /-- If it has to know of support, it does. -/
  ready : c.endsEarly = true → path ≠ [] ∨ s₀.sideEffectSupport ≠ none
  /-- If it has just begun where nothing was known, it has sent no probe. -/
  unprobed : path = [] → s₀.sideEffectSupport = none → ∃ new, s.journal = new ++ s₀.journal ∧
    ∀ ticket command, .request ticket command ∈ new → isProbe command = false

theorem Informs.aside (h : Informs path s₀ s) (silent : Silent s s') : Informs path s₀ s' :=
  ⟨silent.support.trans h.support, fun is => silent.here (h.here is)⟩

theorem Informed.aside (h : Informed c path s₀ s) (silent : Silent s s') :
    Informed c path s₀ s' :=
  ⟨h.informs.aside silent, h.ready, fun begun unknown => silent.journal ▸ h.unprobed begun unknown⟩

/-- Where a path has one stretch with no probe, or more stretches, no answer
to a probe is awaited. -/
theorem Informed.not_probing (h : Informed c path s₀ s) : probing? ((s₀, s) :: path) = none := by
  cases path with
  | cons => rfl
  | nil =>
    simp only [probing?]
    split
    · rename_i ticket command unknown said
      obtain ⟨new, grown, none⟩ := h.unprobed rfl unknown
      rw [saidSince_eq grown] at said
      rw [none ticket command (by simp [said])]
      rfl
    · rfl

/-- A call that sent a probe where nothing was known awaits the answer. -/
theorem probing?_of_sends {t₀ : Session} {ticket : Ticket} {context : ContextId}
    (unknown : s₀.sideEffectSupport = none)
    (sends : t₀.journal = .request ticket (probeIn context) :: s₀.journal) :
    probing? [(s₀, t₀)] = some ticket := by
  have said : t₀.saidSince s₀.journal.length = [.request ticket (probeIn context)] :=
    saidSince_eq sends
  simp only [probing?, unknown, said]
  rfl

/-- A probe has to be ended early. -/
theorem endsEarly_of_isProbe {command : Wire.Command} (is : isProbe command = true) :
    command.endsEarly = true := by
  cases command with
  | evaluate e =>
    obtain ⟨-, throws⟩ : e.expression == probe ∧ e.throwOnSideEffect = true := by
      simpa [isProbe] using is
    simp [Wire.Command.endsEarly, throws]
  | _ => cases is

/-- What is said with no probe among it may grow. -/
theorem Informed.say (h : Informed c path s₀ s) {signal : Signal}
    (journal : s'.journal = signal :: s.journal)
    (support : s'.sideEffectSupport = s.sideEffectSupport) (selected : s'.selected = s.selected)
    (none : ∀ ticket command, path = [] → s₀.sideEffectSupport = none →
      signal = .request ticket command → isProbe command = false) : Informed c path s₀ s' := by
  refine ⟨⟨support.trans h.informs.support, fun is f there => ?_⟩, h.ready, fun begun unknown => ?_⟩
  · exact h.informs.here is f (selected ▸ there)
  · obtain ⟨new, grown, unprobed⟩ := h.unprobed begun unknown
    refine ⟨signal :: new, by rw [journal, grown]; rfl, fun ticket command there => ?_⟩
    rcases List.mem_cons.1 there with is | there
    · exact none ticket command begun unknown is.symm
    · exact unprobed ticket command there

theorem informed_begin (silent : Silent s₀ s)
    (ready : c.endsEarly = true → s₀.sideEffectSupport ≠ none) : Informed c [] s₀ s :=
  ⟨⟨silent.support, fun is => silent.here is⟩, fun early => .inr (ready early),
    fun _ _ => ⟨[], silent.journal, by simp⟩⟩

/-- **Finding out**: what is known is known, and the answer to a probe is
written down. -/
theorem obeys_checkSideEffects_informing (silent : Silent s₀ s) :
    checkSideEffects.Obeys informing (fun path s₀ supported s =>
      Informs path s₀ s ∧ (supported = true → Informed c path s₀ s)) [] s₀ s := by
  have begins : Informs [] s₀ s := ⟨silent.support, fun is => silent.here is⟩
  unfold checkSideEffects
  rw [Flow.obeys_seq, Flow.obeys_read]
  split
  · rename_i supported known
    exact ⟨begins, fun _ => informed_begin silent fun _ none => by
      cases (silent.support.trans none).symm.trans known⟩
  · exact ⟨begins, fun is => absurd is Bool.false_ne_true⟩
  · rename_i context unknown _
    have unknown : s₀.sideEffectSupport = none := silent.support.symm.trans unknown
    have sends : (s.issue (probeIn context.id)).2.journal =
        .request s.nextTicket (probeIn context.id) :: s₀.journal :=
      congrArg (Signal.request s.nextTicket (probeIn context.id) :: ·) silent.journal
    rw [Flow.obeys_seq, obeys_call]
    refine ⟨_, ⟨rfl, begins.support, begins.here⟩, fun t _ _ => ?_⟩
    have awaits := probing?_of_sends unknown sends
    have informs : Informs [(s₀, (s.issue (probeIn context.id)).2)] t
        (keepSupport (probeSupports (Work.decode (probeIn context.id) Wire.Reply.evaluation
          (t.takeReply s.nextTicket).1)) (t.takeReply s.nextTicket).2) := by
      refine ⟨?_, id⟩
      rw [probeSupports_decode, verdict?, awaits]
      rfl
    exact ⟨informs, fun _ =>
      ⟨informs, fun _ => .inl (List.cons_ne_nil _ _), fun begun => absurd begun (List.cons_ne_nil _ _)⟩⟩

theorem lets_informed (c : EvaluationCall) : informing.Lets (Informed c) := by
  intro path s₀ s h
  refine ⟨_, ⟨rfl, h.informs⟩, fun t _ => ⟨⟨?_, id⟩, fun _ => .inl nofun, nofun⟩⟩
  rw [verdict?, h.not_probing, Option.map_none, Option.none_or]

/-- A request that has to be ended early only if the call has to be is no
probe of a call that has just begun where nothing was known. -/
theorem Informed.issue (h : Informed c path s₀ s) (command : Wire.Command)
    (allowed : command.endsEarly = true → c.endsEarly = true) :
    Informed c path s₀ (s.issue command).2 := by
  have journal : (s.issue command).2.journal = .request s.nextTicket command :: s.journal := rfl
  refine h.say journal rfl rfl fun ticket other begun unknown is => ?_
  obtain ⟨-, rfl⟩ := Signal.request.inj is
  by_contra probes
  rcases h.ready (allowed (endsEarly_of_isProbe (by simpa using probes))) with gone | known
  · exact gone begun
  · exact known unknown

theorem Informed.inquire (h : Informed c path s₀ s) (question : Inquiry) :
    Informed c path s₀ (s.inquire question).2 := by
  have journal : (s.inquire question).2.journal = .inquiry s.nextTicket question :: s.journal := rfl
  exact h.say journal rfl rfl fun _ _ _ _ is => nomatch is

theorem grounds_informed (c : EvaluationCall) : Grounds c informing (Informed c) Informs where
  lets := lets_informed c
  aside silent := ⟨fun h => h.aside silent, fun h => h.aside silent⟩
  inquire question h := h.inquire question
  issue command allowed h := h.issue command allowed
  free is silent := informed_begin silent fun early => absurd (is.symm.trans early) (by decide)
  found silent := (obeys_checkSideEffects_informing silent).mono fun _ _ _ _ h =>
    ⟨h.2, fun _ => h.1⟩

/-- **Every call writes down its verdict** and changes nothing else of what
is known. -/
theorem obeys_informing (c : EvaluationCall) (here : SelectsHere s) :
    c.program.Obeys informing informing.ends [] s s :=
  ((grounds_informed c).obeys_program here).mono fun _ _ _ _ h =>
    h.elim Informed.informs And.right

end Calls

/-! ## After all moves -/

section Moves

variable {allowed : EvaluationNews → Prop} {b : Bool}
  {pool next : Flow.Pool EvaluationCall (List (Session × Session)) Session (Outcome ⊕ Bool)
    (Nat × (Session × Session))}

/-- **What is known is the newest verdict**, and the phase of a call is its
path. -/
structure Current (pool : Flow.Pool EvaluationCall (List (Session × Session)) Session
    (Outcome ⊕ Bool) (Nat × (Session × Session))) : Prop where
  /-- Every call has a record. -/
  recorded : pool.Recorded fun _ _ _ => True
  /-- The selected frame is one of the runtime. -/
  here : SelectsHere pool.state
  /-- What is known. -/
  support : pool.state.sideEffectSupport = (verdicts pool.notes).head?

/-- What happens outside changes nothing of what is known, and selects
frames of the runtime. -/
theorem informs_news (news : EvaluationNews) (s : Session) : Informs [] s (news.apply s) := by
  cases news with
  | answer response =>
    cases response <;> rw [EvaluationNews.apply, Response.apply] <;> split <;> exact ⟨rfl, id⟩
  | select frame =>
    refine ⟨?_, (stretch_select s frame).here⟩
    rw [EvaluationNews.apply, Session.select]
    split <;> rfl
  | contexts those => exact ⟨rfl, id⟩
  | install policies => exact ⟨rfl, id⟩

/-- A stretch of a call and its verdict. -/
theorem Informs.newest {number : Nat} {path : List (Session × Session)} {s t : Session}
    {notes : List (Nat × (Session × Session))} (informs : Informs path s t)
    (noted : Flow.Pool.noted number notes = path)
    (support : s.sideEffectSupport = (verdicts notes).head?) :
    t.sideEffectSupport = (verdicts ((number, (s, t)) :: notes)).head? := by
  rw [verdicts, noted, informs.support, support]
  cases verdict? s path <;> rfl

theorem Current.step (h : Current pool)
    (st : Flow.Pool.Shadow evaluating (fun _ => informing) [] allowed pool next) :
    Current next := by
  have recorded : next.Recorded fun _ _ _ => True := by
    refine h.recorded.step (fun c path s path' t moves => ?_) (fun c path s result t ends => ?_) st
    · exact ⟨[(s, t)], fun _ => rfl, moves.1⟩
    · exact ⟨[(s, t)], fun _ => rfl, trivial⟩
  have fresh : Flow.Pool.noted pool.begun pool.notes = [] := h.recorded.noted_fresh
  cases st with
  | opens moves =>
    exact ⟨recorded, moves.2.here h.here, moves.2.newest fresh h.support⟩
  | passes ends => exact ⟨recorded, ends.here h.here, Informs.newest ends fresh h.support⟩
  | @goes l r w q s waiting moves =>
    have noted : Flow.Pool.noted w.number pool.notes = w.place :=
      h.recorded.waiting w (by simp [waiting])
    exact ⟨recorded, moves.2.here h.here, moves.2.newest noted h.support⟩
  | @closes l r w x s waiting ends =>
    have noted : Flow.Pool.noted w.number pool.notes = w.place :=
      h.recorded.waiting w (by simp [waiting])
    exact ⟨recorded, ends.here h.here, Informs.newest ends noted h.support⟩
  | @outside news _ =>
    have informs := informs_news news pool.state
    exact ⟨recorded, informs.here h.here, informs.support.trans h.support⟩

/-- After all moves a runtime knows the newest verdict. -/
theorem current_after (target : Target) (settings : Settings) (moves : List EvaluationMove) :
    ∃ shadow, Flow.Pool.Shadows (fun _ => informing)
      (afterEvaluations (connect 0 target settings) moves) shadow ∧ Current shadow := by
  have first : Current { state := connect 0 target settings } :=
    ⟨.empty rfl rfl rfl, fun _ is => (nomatch is), rfl⟩
  have stands : Flow.Pool.Shadows (fun _ => informing)
      (afterEvaluations (connect 0 target settings) []) { state := connect 0 target settings } :=
    ⟨rfl, rfl, .nil, rfl, rfl⟩
  exact Flow.Pool.play_shadow (fun _ h _ => h.here) (fun c _ here => obeys_informing c here)
    (fun _ _ => Current.step) stands first moves fun _ _ => True.intro

/-- **What is known is the newest verdict.** -/
theorem support_eq_verdict (target : Target) (settings : Settings) (moves : List EvaluationMove) :
    (afterEvaluations (connect 0 target settings) moves).state.sideEffectSupport =
      (verdicts (afterEvaluations (connect 0 target settings) moves).notes).head? := by
  obtain ⟨shadow, follows, current⟩ := current_after target settings moves
  rw [← follows.state, ← follows.notes]
  exact current.support

/-! ## Verdicts to come -/

/-- Where something is known and no call awaits the answer to a probe. -/
structure Concluded (b : Bool) (found : List Bool) (pool : Flow.Pool EvaluationCall
    (List (Session × Session)) Session (Outcome ⊕ Bool) (Nat × (Session × Session))) : Prop where
  /-- What is known is current. -/
  current : Current pool
  /-- Something is known. -/
  known : pool.state.sideEffectSupport = some b
  /-- What was found out. -/
  found : verdicts pool.notes = found
  /-- No answer is awaited. -/
  awaits : ∀ w ∈ pool.waiting, probing? w.place = none

/-- A call that begins or goes on where something is known awaits no answer
to a probe. -/
theorem probing?_of_known {path : List (Session × Session)} {s t : Session}
    (known : s.sideEffectSupport = some b) : probing? ((s, t) :: path) = none := by
  cases path with
  | nil => simp [probing?, known]
  | cons => rfl

/-- A call that awaits no answer to a probe finds nothing out. -/
theorem verdicts_of_not_probing {number : Nat} {path : List (Session × Session)} {s t : Session}
    {notes : List (Nat × (Session × Session))} (noted : Flow.Pool.noted number notes = path)
    (none : probing? path = none) : verdicts ((number, (s, t)) :: notes) = verdicts notes := by
  rw [verdicts, noted, verdict?, none]
  rfl

/-- **Nothing more is found out** where something is known and no call
awaits the answer to a probe. -/
theorem Concluded.step {found : List Bool} (h : Concluded b found pool)
    (st : Flow.Pool.Shadow evaluating (fun _ => informing) [] allowed pool next) :
    Concluded b found next := by
  have current := h.current.step st
  have same : ∀ {notes}, verdicts notes = verdicts pool.notes → verdicts notes = found :=
    fun is => is.trans h.found
  have known : verdicts next.notes = found → next.state.sideEffectSupport = some b := by
    intro is
    rw [current.support, is, ← h.found, ← h.current.support, h.known]
  have fresh : Flow.Pool.noted pool.begun pool.notes = [] := h.current.recorded.noted_fresh
  cases st with
  | @opens c q s moves =>
    have is := same (verdicts_of_not_probing (t := s) (s := pool.state) fresh rfl)
    refine ⟨current, known is, is, fun w there => ?_⟩
    rcases List.mem_append.1 there with there | there
    · exact h.awaits w there
    · rw [List.mem_singleton.1 there, moves.1]
      exact probing?_of_known h.known
  | @passes c x s ends =>
    have is := same (verdicts_of_not_probing (t := s) (s := pool.state) fresh rfl)
    exact ⟨current, known is, is, h.awaits⟩
  | @goes l r w q s waiting moves =>
    have awaits := h.awaits w (by simp [waiting])
    have noted := h.current.recorded.waiting w (by simp [waiting])
    have is := same (verdicts_of_not_probing (t := s) (s := pool.state) noted awaits)
    refine ⟨current, known is, is, fun v there => ?_⟩
    rcases List.mem_append.1 there with there | there
    · exact h.awaits v (by simp [waiting, there])
    rcases List.mem_cons.1 there with rfl | there
    · rw [moves.1]
      exact probing?_of_known h.known
    · exact h.awaits v (by simp [waiting, there])
  | @closes l r w x s waiting ends =>
    have awaits := h.awaits w (by simp [waiting])
    have noted := h.current.recorded.waiting w (by simp [waiting])
    have is := same (verdicts_of_not_probing (t := s) (s := pool.state) noted awaits)
    refine ⟨current, known is, is, fun v there => h.awaits v ?_⟩
    rcases List.mem_append.1 there with there | there <;> simp [waiting, there]
  | outside _ => exact ⟨current, known h.found, h.found, h.awaits⟩

/-- A move finds out one thing at most. -/
theorem verdicts_step (pool : Flow.Pool EvaluationCall (Flow Session (Outcome ⊕ Bool)) Session
    (Outcome ⊕ Bool) (Nat × (Session × Session))) (move : EvaluationMove) :
    ∃ found : Option Bool, verdicts (pool.step evaluating move).notes =
      found.toList ++ verdicts pool.notes := by
  have reached : ∀ (number : Nat) (c : EvaluationCall) (s : Session), ∃ found : Option Bool,
      verdicts (pool.reach evaluating number c s).notes = found.toList ++ verdicts pool.notes :=
    fun number c s => ⟨_, rfl⟩
  cases move with
  | begin c =>
    rw [Flow.Pool.step]
    generalize (evaluating.program c).toWait pool.state = r
    obtain ⟨m, s⟩ := r
    cases m <;> exact reached pool.begun c s
  | carry place =>
    rw [Flow.Pool.step]
    split
    · rename_i w _
      split
      · generalize w.place.pass pool.state = r
        obtain ⟨m, s⟩ := r
        cases m <;> exact reached w.number w.call s
      · exact ⟨none, rfl⟩
    · exact ⟨none, rfl⟩
  | outside news => exact ⟨none, rfl⟩

/-- Where all newer verdicts are as the newest of the older ones, so is the
newest of all. -/
theorem head?_append_of_forall {new old : List Bool} (all : ∀ v ∈ new, v = b)
    (known : old.head? = some b) : (new ++ old).head? = some b := by
  cases new with
  | nil => exact known
  | cons v new => exact congrArg some (all v (.head _))

/-- **What was known at a time stays** for a while exactly if all verdicts
meanwhile are the same. -/
theorem stays_iff_verdicts {start : Session} {moves : List EvaluationMove}
    (later : List EvaluationMove)
    (current : ∀ more, (afterEvaluations start (moves ++ more)).state.sideEffectSupport =
      (verdicts (afterEvaluations start (moves ++ more)).notes).head?)
    (known : (afterEvaluations start moves).state.sideEffectSupport = some b) :
    ∃ new, verdicts (afterEvaluations start (moves ++ later)).notes =
        new ++ verdicts (afterEvaluations start moves).notes ∧
      ((∀ more, more <+: later →
        (afterEvaluations start (moves ++ more)).state.sideEffectSupport = some b) ↔
          ∀ v ∈ new, v = b) := by
  have knows : (verdicts (afterEvaluations start moves).notes).head? = some b := by
    have newest := current []
    rw [List.append_nil] at newest
    exact newest.symm.trans known
  induction later using List.reverseRecOn with
  | nil =>
    refine ⟨[], by rw [List.append_nil]; rfl, fun _ => nofun, fun _ more begins => ?_⟩
    rw [List.prefix_nil.1 begins, List.append_nil]
    exact known
  | append_singleton past move ih =>
    obtain ⟨new, grown, stays⟩ := ih
    obtain ⟨found, finds⟩ := verdicts_step (afterEvaluations start (moves ++ past)) move
    have after : verdicts (afterEvaluations start (moves ++ (past ++ [move]))).notes =
        found.toList ++ new ++ verdicts (afterEvaluations start moves).notes := by
      rw [← List.append_assoc moves, afterEvaluations, Flow.Pool.play_snoc, List.append_assoc,
        ← grown]
      exact finds
    have newest := (current (past ++ [move])).trans (congrArg List.head? after)
    refine ⟨found.toList ++ new, after, fun all => ?_, fun all more begins => ?_⟩
    · have before := stays.1 fun more begins => all more (begins.trans (List.prefix_append _ _))
      have now := newest.symm.trans (all _ (List.prefix_refl _))
      rw [List.forall_mem_append]
      refine ⟨fun v there => ?_, before⟩
      obtain rfl : found = some v := by simpa using there
      exact Option.some.inj now
    · rcases List.prefix_concat_iff.1 begins with rfl | begins
      · exact newest.trans (head?_append_of_forall all knows)
      · exact stays.2 (fun v there => all v (List.mem_append_right _ there)) more begins

/-- **What is known stays, or not.** Once it is known whether the backend
can end evaluations early, it stays so for any time exactly if every probe
that is taken up in that time is answered alike; and it stays so for ever
if no call under way awaits the answer to a probe. -/
theorem support_kept_iff (target : Target) (settings : Settings)
    (moves later : List EvaluationMove)
    (known : (afterEvaluations (connect 0 target settings) moves).state.sideEffectSupport =
      some b) :
    let start := connect 0 target settings
    ∃ new, verdicts (afterEvaluations start (moves ++ later)).notes =
        new ++ verdicts (afterEvaluations start moves).notes ∧
      ((∀ more, more <+: later →
        (afterEvaluations start (moves ++ more)).state.sideEffectSupport = some b) ↔
          ∀ v ∈ new, v = b) ∧
      ((∀ w ∈ (afterEvaluations start moves).waiting,
        probing? (Flow.Pool.noted w.number (afterEvaluations start moves).notes) = none) →
          new = []) := by
  intro start
  obtain ⟨new, grown, stays⟩ := stays_iff_verdicts later
    (fun more => support_eq_verdict target settings (moves ++ more)) known
  refine ⟨new, grown, stays, fun awaits => ?_⟩
  obtain ⟨shadow, follows, current⟩ := current_after target settings moves
  have concluded : Concluded b (verdicts (afterEvaluations start moves).notes) shadow := by
    refine ⟨current, follows.state ▸ known, by rw [follows.notes], fun v there => ?_⟩
    obtain ⟨w, waits, number, -⟩ := follows.of_shadow there
    rw [← current.recorded.waiting v there, follows.notes, number]
    exact awaits w waits
  obtain ⟨last, follows, ended⟩ := Flow.Pool.play_shadow (fun _ h _ => h.current.here)
    (fun c _ here => obeys_informing c here) (fun _ _ => Concluded.step) follows concluded later
    fun _ _ => True.intro
  have same : new ++ verdicts (afterEvaluations start moves).notes =
      verdicts (afterEvaluations start moves).notes := by
    rw [← grown, ← ended.found, follows.notes, afterEvaluations, Flow.Pool.play, List.foldl_append]
    rfl
  simpa using same

/-- Two probes are sent in a context, and the first is ended at its side
effect. -/
def probedTwice : List EvaluationMove :=
  [.outside (.contexts [mainWorld]), .begin .probe, .begin .probe,
    .outside (.answer (.reply 0 refusal)), .carry 0]

/-- Then the second is answered. -/
def secondAnswered (reply : Reply) : List EvaluationMove :=
  [.outside (.answer (.reply 1 reply)), .carry 0]

/-- Support stays known if the second probe is ended as well. -/
theorem support_kept_alike :
    let start := connect 0 mainWorld.target {}
    (afterEvaluations start probedTwice).state.sideEffectSupport = some true ∧
      ∀ more, more <+: secondAnswered refusal →
        (afterEvaluations start (probedTwice ++ more)).state.sideEffectSupport = some true := by
  intro start
  obtain ⟨new, grown, stays, -⟩ :=
    support_kept_iff mainWorld.target {} probedTwice (secondAnswered refusal) (b := true) rfl
  have found : [true] ++ [true] = new ++ [true] := grown
  obtain rfl : [true] = new := List.append_cancel_right found
  exact ⟨rfl, stays.2 (by simp)⟩

/-- **A late answer overturns what was known**: the second probe is not
ended, because its context is gone, and support is forgotten. -/
theorem overturned_by_late_answer :
    ∃ (target : Target) (settings : Settings) (moves later : List EvaluationMove),
      (afterEvaluations (connect 0 target settings) moves).state.sideEffectSupport = some true ∧
      (afterEvaluations (connect 0 target settings) (moves ++ later)).state.sideEffectSupport =
        some false :=
  ⟨mainWorld.target, {}, probedTwice, secondAnswered (.ok (.obj [])), rfl, rfl⟩

end Moves

end Session

end DebugClient
