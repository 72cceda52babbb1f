import DebugClient.Proofs.Hub.Probes
import DebugClient.Proofs.Lookup
import DebugClient.Session.Enablement
/-!
# Early ends — asked for once support was shown

Whatever is evaluated in one runtime and whenever the answers come: an
evaluation that has to be ended early is asked for only after the backend
has answered a probe by ending it (`SupportShown`), and a call that has
not learned of support waits for the answer to its own probe or was
refused, and asks for nothing else (`ends_early_once_shown`).

Support is traced from what a call knows to an answer that came in.
`Sound` says so of the state and `Backed` of the path of a call; a stretch
of a call keeps both, and so does what happens outside.
-/

namespace DebugClient

namespace Session

/-- What may happen next to a runtime. -/
abbrev EvaluationMove := Flow.Move EvaluationCall EvaluationNews

/-- A runtime after moves. -/
def afterEvaluations (start : Session) (moves : List EvaluationMove) :
    Flow.Pool EvaluationCall (Flow Session (Outcome ⊕ Bool)) Session (Outcome ⊕ Bool)
      (Nat × (Session × Session)) :=
  Flow.Pool.play evaluating { state := start } moves

/-! ## What was shown -/

/-- An answer came in among the moves, when the journal was what had been
said. -/
def CameIn (start : Session) (moves : List EvaluationMove) (ticket : Ticket) (reply : Reply)
    (said : List Signal) : Prop :=
  ∃ earlier later, moves = earlier ++ .outside (.answer (.reply ticket reply)) :: later ∧
    said = (afterEvaluations start earlier).state.journal

/-- **Support was shown** before more was said than a journal: the answer to
a probe came in that was ended at its side effect. -/
def SupportShown (start : Session) (moves : List EvaluationMove) (journal : List Signal) : Prop :=
  ∃ ticket context reply said, CameIn start moves ticket reply said ∧
    .request ticket (probeIn context) ∈ said ∧ showsSupport reply = true ∧ said <:+ journal

section Shown

variable {start : Session} {moves : List EvaluationMove} {journal longer : List Signal}

theorem CameIn.later {ticket : Ticket} {reply : Reply} {said : List Signal}
    (h : CameIn start moves ticket reply said) (move : EvaluationMove) :
    CameIn start (moves ++ [move]) ticket reply said := by
  obtain ⟨earlier, later, rfl, is⟩ := h
  exact ⟨earlier, later ++ [move], by simp, is⟩

theorem SupportShown.later (h : SupportShown start moves journal) (move : EvaluationMove) :
    SupportShown start (moves ++ [move]) journal := by
  obtain ⟨ticket, context, reply, said, came, sent, shows, before⟩ := h
  exact ⟨ticket, context, reply, said, came.later move, sent, shows, before⟩

theorem SupportShown.grow (h : SupportShown start moves journal) (more : journal <:+ longer) :
    SupportShown start moves longer := by
  obtain ⟨ticket, context, reply, said, came, sent, shows, before⟩ := h
  exact ⟨ticket, context, reply, said, came, sent, shows, before.trans more⟩

end Shown

/-! ## Sound states -/

section Tracing

variable {start : Session} {moves : List EvaluationMove} {s t : Session}
  {path : List (Session × Session)}

/-- An answer that was not taken has come in for what had been asked under
its ticket. -/
def Answers (start : Session) (moves : List EvaluationMove) (s : Session) (ticket : Ticket)
    (reply : Reply) : Prop :=
  ticket < s.nextTicket ∧ ∃ said, CameIn start moves ticket reply said ∧ said <:+ s.journal ∧
    ∀ command, .request ticket command ∈ s.journal → .request ticket command ∈ said

/-- **A state is sound** if what it knows has come in, and what it asked for
was asked for in time. -/
structure Sound (start : Session) (moves : List EvaluationMove) (s : Session) : Prop where
  /-- The selected frame is one of the runtime. -/
  here : SelectsHere s
  /-- Support that is known was shown. -/
  known : s.sideEffectSupport = some true → SupportShown start moves s.journal
  /-- Answers have come in. -/
  answers : ∀ ticket reply, (ticket, reply) ∈ s.replies → Answers start moves s ticket reply
  /-- Early ends were asked for once support was shown. -/
  asked : ∀ newer ticket command older, s.journal = newer ++ .request ticket command :: older →
    EndsEarly command → SupportShown start moves older

/-- **A path is backed** if what was learned on it was shown, what was said
on it is in the journal, and the selected frame was one of the runtime. -/
structure Backed (start : Session) (moves : List EvaluationMove) (s : Session)
    (path : List (Session × Session)) : Prop where
  /-- What was learned was shown. -/
  learned : Saw path → SupportShown start moves s.journal
  /-- What was said is in the journal. -/
  said : ∀ stretch ∈ path, stretch.2.journal ⊆ s.journal
  /-- The selected frame was one of the runtime. -/
  here : ∀ stretch ∈ path, SelectsHere stretch.1

theorem backed_nil : Backed start moves s [] := ⟨nofun, by simp, by simp⟩

/-- A call that learns of support has been shown it. -/
theorem Sound.shown (sound : Sound start moves s) (backed : Backed start moves s path)
    (sees : Sees path s) : SupportShown start moves s.journal := by
  cases sees s with
  | known known => exact sound.known known
  | @answered s₀ t₀ _ _ ticket context reply sends answer shows =>
    obtain ⟨-, said, came, before, all⟩ := sound.answers ticket reply (Lookup.mem_of_lookup answer)
    have sent : .request ticket (probeIn context) ∈ s.journal := by
      refine backed.said (s₀, t₀) (.head _) ?_
      rw [sends]
      exact .head _
    exact ⟨ticket, context, reply, said, came, all _ sent, shows, before⟩
  | later saw => exact backed.learned saw

/-- What may be added to a journal. -/
theorem asked_append {new old : List Signal}
    (asked : ∀ newer ticket command older, old = newer ++ .request ticket command :: older →
      EndsEarly command → SupportShown start moves older)
    (shown : ∀ ticket command, .request ticket command ∈ new → EndsEarly command →
      SupportShown start moves old)
    (newer : List Signal) (ticket : Ticket) (command : Wire.Command) (older : List Signal)
    (is : new ++ old = newer ++ .request ticket command :: older) (early : EndsEarly command) :
    SupportShown start moves older := by
  obtain ⟨middle, rfl, rest⟩ | ⟨middle, rfl, rest⟩ := List.append_eq_append_iff.1 is
  · exact asked middle ticket command older rest early
  · cases middle with
    | nil => exact asked [] ticket command older rest.symm early
    | cons x middle =>
      obtain ⟨rfl, rfl⟩ : .request ticket command = x ∧ older = middle ++ old := by simpa using rest
      exact (shown ticket command (by simp) early).grow (List.suffix_append _ _)

/-- A stretch of a call keeps the state sound. -/
theorem Sound.stretch (sound : Sound start moves s) (backed : Backed start moves s path)
    (does : Stretch path s t) : Sound start moves t := by
  obtain ⟨⟨new, grown, asks⟩, tickets, known, taken, here⟩ := does
  have more : s.journal <:+ t.journal := grown ▸ List.suffix_append new s.journal
  refine ⟨here sound.here, fun is => ?_, fun ticket reply there => ?_,
    fun newer ticket command older is early => ?_⟩
  · refine SupportShown.grow ?_ more
    rcases known is with before | sees
    · exact sound.known before
    · exact sound.shown backed sees
  · obtain ⟨given, said, came, before, all⟩ := sound.answers ticket reply (taken there)
    refine ⟨Nat.lt_of_lt_of_le given tickets, said, came, before.trans more, fun command sent => ?_⟩
    rw [grown] at sent
    rcases List.mem_append.1 sent with sent | sent
    · -- What is asked for now has a new ticket, and the answer has an old one.
      exact absurd given (Nat.not_lt.2 (asks ticket command sent).1)
    · exact all command sent
  · refine asked_append sound.asked (fun ticket command there early => ?_) newer ticket command
      older (grown ▸ is) early
    exact sound.shown backed ((asks ticket command there).2 early)

/-- What a call does on a stretch is on its path. -/
theorem Backed.cons (sound : Sound start moves s) (backed : Backed start moves s path)
    (does : Stretch path s t) : Backed start moves t ((s, t) :: path) := by
  obtain ⟨new, grown, -⟩ := does.journal
  have more : s.journal <:+ t.journal := grown ▸ List.suffix_append new s.journal
  refine ⟨fun saw => (sound.shown backed saw.sees).grow more, fun stretch there => ?_,
    List.forall_mem_cons.2 ⟨sound.here, backed.here⟩⟩
  rcases List.mem_cons.1 there with rfl | there
  · exact List.Subset.refl _
  · exact List.Subset.trans (backed.said stretch there) more.subset

theorem Backed.grow (backed : Backed start moves s path) (more : s.journal <:+ t.journal) :
    Backed start moves t path :=
  ⟨fun saw => (backed.learned saw).grow more,
    fun stretch there => List.Subset.trans (backed.said stretch there) more.subset, backed.here⟩

theorem Sound.later (sound : Sound start moves s) (move : EvaluationMove) :
    Sound start (moves ++ [move]) s := by
  refine ⟨sound.here, fun is => (sound.known is).later move, fun ticket reply there => ?_,
    fun newer ticket command older is early => ?_⟩
  · obtain ⟨given, said, came, rest⟩ := sound.answers ticket reply there
    exact ⟨given, said, came.later move, rest⟩
  · exact (sound.asked newer ticket command older is early).later move

theorem Backed.later (backed : Backed start moves s path) (move : EvaluationMove) :
    Backed start (moves ++ [move]) s path :=
  ⟨fun saw => (backed.learned saw).later move, backed.said, backed.here⟩

/-! ## Outside -/

/-- Selecting a frame of the runtime is like a stretch of a call. -/
theorem stretch_select (s : Session) (frame : Option { f : CallFrame // f.seat = 0 }) :
    Stretch [] s (s.select (frame.map Subtype.val)) := by
  unfold select
  split
  · exact (Silent.refl s).stretch
  · refine ⟨⟨[.debugger (.frameSelected (frame.map Subtype.val))], rfl, by simp⟩, Nat.le_refl _,
      .inl, List.Subset.refl _, fun _ f is => ?_⟩
    obtain ⟨⟨_, seat⟩, -, rfl⟩ := Option.map_eq_some_iff.1 is
    exact seat

/-- An answer that comes in keeps the state sound. -/
theorem Sound.answer (sound : Sound start moves s)
    (now : s.journal = (afterEvaluations start moves).state.journal) {ticket : Ticket}
    {reply : Reply} (given : ticket < s.nextTicket) :
    Sound start (moves ++ [.outside (.answer (.reply ticket reply))]) (s.answer ticket reply) := by
  have sound := sound.later (.outside (.answer (.reply ticket reply)))
  refine ⟨sound.here, sound.known, fun other answer there => ?_, sound.asked⟩
  rcases List.mem_cons.1 there with is | there
  · cases is
    exact ⟨given, s.journal, ⟨moves, [], rfl, now⟩, List.suffix_refl _, fun _ sent => sent⟩
  · exact sound.answers other answer there

/-- **What happens outside** keeps the state sound, and adds to the journal
at most. -/
theorem Sound.news (sound : Sound start moves s)
    (now : s.journal = (afterEvaluations start moves).state.journal) (news : EvaluationNews) :
    Sound start (moves ++ [.outside news]) (news.apply s) ∧
      s.journal <:+ (news.apply s).journal := by
  have aside : ∀ t, Stretch [] s t →
      Sound start (moves ++ [.outside news]) t ∧ s.journal <:+ t.journal := by
    intro t does
    obtain ⟨new, grown, -⟩ := does.journal
    exact ⟨(sound.stretch backed_nil does).later _, grown ▸ List.suffix_append new s.journal⟩
  have quiet : ∀ t, Silent s t →
      Sound start (moves ++ [.outside news]) t ∧ s.journal <:+ t.journal := fun t silent =>
    aside t silent.stretch
  cases news with
  | answer response =>
    cases response with
    | reply ticket reply =>
      rw [EvaluationNews.apply, Response.apply]
      split
      · rename_i given
        exact ⟨sound.answer now given, List.suffix_refl _⟩
      · exact quiet s (Silent.refl s)
    | advice ticket advice =>
      rw [EvaluationNews.apply, Response.apply]
      split
      · exact quiet _ ⟨rfl, rfl, rfl, List.Subset.refl _, rfl⟩
      · exact quiet s (Silent.refl s)
  | select frame => exact aside _ (stretch_select s frame)
  | contexts those => exact quiet _ ⟨rfl, rfl, rfl, List.Subset.refl _, rfl⟩
  | install policies => exact quiet _ ⟨rfl, rfl, rfl, List.Subset.refl _, rfl⟩

end Tracing

/-! ## After all moves -/

section Moves

variable {start : Session}

/-- A runtime is sound, and so are the calls under way, which have a
record. -/
structure Accounted (start : Session) (moves : List EvaluationMove)
    (pool : Flow.Pool EvaluationCall (List (Session × Session)) Session (Outcome ⊕ Bool)
      (Nat × (Session × Session))) : Prop where
  /-- Every call has a record. -/
  recorded : pool.Recorded EvaluationCall.Due
  /-- The state is sound. -/
  sound : Sound start moves pool.state
  /-- The paths are backed. -/
  backed : ∀ w ∈ pool.waiting, Backed start moves pool.state w.place
  /-- Calls under way pend. -/
  pends : ∀ w ∈ pool.waiting, w.call.Pends w.place

/-- At first nothing was asked for. -/
theorem accounted_start (target : Target) (settings : Settings) :
    Accounted (connect 0 target settings) [] { state := connect 0 target settings } := by
  have unasked : ∀ newer ticket command older, (connect 0 target settings).journal =
      newer ++ .request ticket command :: older → False := by
    intro newer ticket command older is
    have there : .request ticket command ∈ (connect 0 target settings).journal := by simp [is]
    cases List.mem_singleton.1 there
  have unselected : (connect 0 target settings).selected = none := rfl
  have unknown : (connect 0 target settings).sideEffectSupport = none := rfl
  have unanswered : (connect 0 target settings).replies = [] := rfl
  refine ⟨.empty rfl rfl rfl, ⟨fun f is => ?_, fun is => ?_, fun ticket reply there => ?_,
    fun newer ticket command older is _ => (unasked newer ticket command older is).elim⟩, by simp,
    by simp⟩
  · cases unselected.symm.trans is
  · cases unknown.symm.trans is
  · rw [unanswered] at there
    cases there

/-- Every step keeps the account. -/
theorem Accounted.step {past : List EvaluationMove} {move : EvaluationMove}
    {a b : Flow.Pool EvaluationCall (List (Session × Session)) Session (Outcome ⊕ Bool)
      (Nat × (Session × Session))} (h : Accounted start past a)
    (now : a.state = (afterEvaluations start past).state)
    (st : Flow.Pool.Shadow evaluating EvaluationCall.protocol [] (fun e => move = .outside e) a b) :
    Accounted start (past ++ [move]) b := by
  have recorded : b.Recorded EvaluationCall.Due := by
    refine h.recorded.step (fun c path s path' t moves => ?_) (fun c path s result t ends => ?_) st
    · exact ⟨[(s, t)], fun _ => rfl, moves.1⟩
    · exact ⟨[(s, t)], fun _ => rfl, ends.2⟩
  have others : ∀ {path s}, Stretch path a.state s → ∀ w ∈ a.waiting,
      Backed start (past ++ [move]) s w.place := by
    intro path s does w waits
    obtain ⟨new, grown, -⟩ := does.journal
    exact ((h.backed w waits).grow (grown ▸ List.suffix_append new _)).later move
  cases st with
  | @opens c q s moves =>
    obtain ⟨rfl, does, pends⟩ := moves
    refine ⟨recorded, (h.sound.stretch backed_nil does).later move, fun w there => ?_,
      fun w there => ?_⟩ <;> rcases List.mem_append.1 there with there | there
    · exact others does w there
    · rw [List.mem_singleton.1 there]
      exact (backed_nil.cons h.sound does).later move
    · exact h.pends w there
    · exact List.mem_singleton.1 there ▸ pends
  | @passes c x s ends =>
    exact ⟨recorded, (h.sound.stretch backed_nil ends.1).later move, others ends.1, h.pends⟩
  | @goes l r w q s waiting moves =>
    obtain ⟨rfl, does, pends⟩ := moves
    have backed := h.backed w (by simp [waiting])
    have kept : ∀ v, v ∈ l ++ { w with place := (a.state, s) :: w.place } :: r →
        v ∈ a.waiting ∨ v = { w with place := (a.state, s) :: w.place } := by
      intro v there
      rcases List.mem_append.1 there with there | there
      · exact .inl (by simp [waiting, there])
      rcases List.mem_cons.1 there with is | there
      · exact .inr is
      · exact .inl (by simp [waiting, there])
    refine ⟨recorded, (h.sound.stretch backed does).later move, fun v there => ?_,
      fun v there => ?_⟩ <;> rcases kept v there with there | rfl
    · exact others does v there
    · exact (backed.cons h.sound does).later move
    · exact h.pends v there
    · exact pends
  | @closes l r w x s waiting ends =>
    have backed := h.backed w (by simp [waiting])
    have kept : ∀ v ∈ l ++ r, v ∈ a.waiting := by
      intro v there
      rcases List.mem_append.1 there with there | there <;> simp [waiting, there]
    exact ⟨recorded, (h.sound.stretch backed ends.1).later move,
      fun v there => others ends.1 v (kept v there), fun v there => h.pends v (kept v there)⟩
  | @outside news isAllowed =>
    subst isAllowed
    obtain ⟨sound, more⟩ := h.sound.news (congrArg Session.journal now) news
    exact ⟨recorded, sound, fun w there => ((h.backed w there).grow more).later _, h.pends⟩

/-- **Whatever is evaluated** and answered, in any order, there is an
account of it. -/
theorem accounted_after (target : Target) (settings : Settings) (moves : List EvaluationMove) :
    ∃ shadow, Flow.Pool.Shadows EvaluationCall.protocol
        (afterEvaluations (connect 0 target settings) moves) shadow ∧
      Accounted (connect 0 target settings) moves shadow := by
  have here : ∀ past pool, Accounted (connect 0 target settings) past pool →
      ∀ c : EvaluationCall, c.protocol.given pool.state := fun _ _ h _ => h.sound.here
  refine Flow.Pool.play_shadow_along here (fun c s here => obeys_program c here) ?_ ?_
    ⟨rfl, rfl, .nil, rfl, rfl⟩ (accounted_start target settings) moves
  · exact fun past move _ h =>
      ⟨h.recorded, h.sound.later move, fun w there => (h.backed w there).later move, h.pends⟩
  · exact fun _ _ _ _ h now st => h.step now st

/-- A call that has not gone on since it began, and did not know of support,
awaits the answer to its probe. -/
theorem awaits_of_walks {c : EvaluationCall} {moves : List EvaluationMove} {now : Session}
    {path : List (Session × Session)} {place : Work (Outcome ⊕ Bool)}
    (backed : Backed start moves now path) (walks : Flow.Walks c.program path place)
    (waits : ∃ ready k, place = .wait ready k) (early : c.endsEarly = true) (unseen : ¬ Saw path)
    (one : path.length = 1) :
    ∃ ticket context, .request ticket (probeIn context) ∈ now.journal ∧
      sent path = [probeIn context] ∧ AwaitsProbe ticket (.inl (.failed unsupported)) place := by
  obtain ⟨s, t, rfl, goes⟩ := walks.of_one one
  obtain ⟨ready, k, waits⟩ := waits
  have unknown : s.sideEffectSupport ≠ some true := fun known => unseen (.known known)
  have here : SelectsHere s := backed.here _ (.head _)
  obtain ⟨ticket, context, sends, awaits⟩ :=
    (probesFirst_program here unknown early).awaits goes waits
  refine ⟨ticket, context, backed.said _ (.head _) ?_, sent_probe sends, awaits⟩
  rw [sends]
  exact .head _

/-- **An early end is asked for once support was shown.** Whatever is
evaluated in a runtime and probed, and in whatever order the answers come:

* a request that has to be ended early, and is not a probe, comes after an
  answer to a probe that was ended at its side effect;
* an evaluation that has to be ended early and has not learned of support
  when it ends is refused, and has sent nothing but a probe;
* and one that is under way has learned of it, or has sent nothing but a
  probe and awaits the answer, by which it will be refused if that shows no
  support. -/
theorem ends_early_once_shown (target : Target) (settings : Settings) (moves : List EvaluationMove) :
    let start := connect 0 target settings
    let pool := afterEvaluations start moves
    (∀ newer ticket command older,
      pool.state.journal = newer ++ .request ticket command :: older → EndsEarly command →
        SupportShown start moves older) ∧
      (∀ w ∈ pool.ended, w.call.endsEarly = true → ¬ Saw (Flow.Pool.noted w.number pool.notes) →
        w.place = .inl (.failed unsupported) ∧
          (sent (Flow.Pool.noted w.number pool.notes) = [] ∨
            ∃ context, sent (Flow.Pool.noted w.number pool.notes) = [probeIn context])) ∧
      ∀ w ∈ pool.waiting, w.call.endsEarly = true → Saw (Flow.Pool.noted w.number pool.notes) ∨
        ∃ ticket context, .request ticket (probeIn context) ∈ pool.state.journal ∧
          sent (Flow.Pool.noted w.number pool.notes) = [probeIn context] ∧
          AwaitsProbe ticket (.inl (.failed unsupported)) w.place := by
  intro start pool
  obtain ⟨shadow, follows, accounted⟩ := accounted_after target settings moves
  have traced : Flow.Pool.Traced evaluating pool :=
    Flow.Pool.traced (.empty rfl rfl rfl) (fun _ _ _ _ => rfl) moves
  refine ⟨follows.state ▸ accounted.sound.asked, fun w there => ?_, fun w there early => ?_⟩
  · exact follows.notes ▸ accounted.recorded.ended w (follows.ended ▸ there)
  · obtain ⟨v, stands, number, call, -⟩ := follows.of_waiting there
    have path : v.place = Flow.Pool.noted w.number pool.notes := by
      rw [← number, ← follows.notes, accounted.recorded.waiting v stands]
    by_cases saw : Saw (Flow.Pool.noted w.number pool.notes)
    · exact .inl saw
    · obtain ⟨walks, waits⟩ := traced.waiting w there
      have pends := (accounted.pends v stands (call ▸ early)).resolve_left (path ▸ saw)
      have backed := path ▸ follows.state ▸ accounted.backed v stands
      exact .inr (awaits_of_walks backed walks waits early saw (path ▸ pends))

/-- The answer to a probe that was ended at its side effect. -/
def refusal : Reply :=
  .ok (.obj [("result", .obj [("type", .str "object")]),
    ("exceptionDetails", .obj [("exceptionId", .int 0), ("text", .str "Uncaught"),
      ("lineNumber", .int 0), ("columnNumber", .int 0),
      ("exception", .obj [("type", .str "object"), ("description", .str sideEffectMessage)])])])

/-- A context of a page. -/
def mainWorld : ExecutionContext :=
  ⟨1, none, "", "", true, none, .root ⟨0, "page", .frame⟩, "page"⟩

/-- What is to be ended at its first side effect. -/
def harmless : EvaluationCall :=
  .inContext mainWorld { expression := "document", throwOnSideEffect := true } false false

/-- It is evaluated where no support is known, and the probe is answered. -/
def evaluatedOn (reply : Reply) : List EvaluationMove :=
  [.outside (.contexts [mainWorld]), .begin harmless, .outside (.answer (.reply 0 reply)), .carry 0]

/-- A call that did not know of support and was not shown it has not learned
of it. -/
theorem not_saw {s₀ t₀ s t : Session} {ticket : Ticket} {reply : Reply}
    (unknown : s₀.sideEffectSupport = none) (answers : s.replies = [(ticket, reply)])
    (shows : showsSupport reply = false) : ¬ Saw [(s, t), (s₀, t₀)] := by
  intro saw
  cases saw with
  | answered sent answer shown =>
    have there := Lookup.mem_of_lookup answer
    rw [answers, List.mem_singleton] at there
    cases there
    exact absurd (shows.symm.trans shown) (by decide)
  | later saw =>
    cases saw with
    | known known => cases unknown.symm.trans known
    | later saw => cases saw

/-- **Two probes.** If the first is ended at its side effect the evaluation
is asked for, once that was shown; if it says nothing the evaluation is
refused. -/
theorem evaluated_once_shown :
    (∃ newer ticket command older,
      (afterEvaluations (connect 0 mainWorld.target {}) (evaluatedOn refusal)).state.journal =
          newer ++ .request ticket command :: older ∧ EndsEarly command ∧
        SupportShown (connect 0 mainWorld.target {}) (evaluatedOn refusal) older) ∧
      ∃ w ∈ (afterEvaluations (connect 0 mainWorld.target {}) (evaluatedOn (.ok (.obj [])))).ended,
        w.call.endsEarly = true ∧ w.place = .inl (.failed unsupported) := by
  constructor
  · have early : EndsEarly (.evaluate (evaluation mainWorld
        { expression := "document", throwOnSideEffect := true } false false)) := by
      refine ⟨rfl, fun context same => ?_⟩
      injection same with same
      have spelled : "document" = probe := congrArg Wire.Evaluate.expression same
      exact absurd spelled (by decide)
    have shown := ends_early_once_shown mainWorld.target {} (evaluatedOn refusal)
    exact ⟨[], 1, _, _, rfl, early, shown.1 [] 1 _ _ rfl early⟩
  · have unseen : ¬ Saw (Flow.Pool.noted 0
        (afterEvaluations (connect 0 mainWorld.target {}) (evaluatedOn (.ok (.obj [])))).notes) := by
      exact @not_saw _ _ _ _ 0 (.ok (.obj [])) rfl rfl rfl
    have due := (ends_early_once_shown mainWorld.target {} (evaluatedOn (.ok (.obj [])))).2.1
      ⟨0, harmless, _⟩ (.head _) rfl unseen
    exact ⟨_, .head _, rfl, due.1⟩

end Moves

end Session

end DebugClient
