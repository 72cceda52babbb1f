import DebugClient.Proofs.Flow.Traces
import DebugClient.Proofs.Hub.Support
/-!
# Probes — what an evaluation waits for first

An evaluation that has to be ended early, where no support is known, is
refused at once or sends a probe and waits for its answer
(`probesFirst_program`). Nothing else takes it on, and if the answer shows
no support it is refused then and there (`AwaitsProbe`).
-/

namespace DebugClient

namespace Session

variable {α β : Type} {a : α} {b : β} {m : Work α} {s : Session} {said : List Signal}

/-- A flow ends with a result before it waits. -/
def Gives (a : α) (m : Work α) (s : Session) : Prop := m.Comes (fun b _ => b = a) (fun _ _ _ => False) s

/-- **A flow probes first**: it ends with a result at once, or it sends a
probe after what was said, waits for the answer, and ends with the result
if that shows no support. -/
def ProbesFirst (said : List Signal) (a : α) (m : Work α) (s : Session) : Prop :=
  m.Comes (fun b _ => b = a) (fun ready k t => ∃ ticket context, ready = isAnswered ticket ∧
    t.journal = .request ticket (probeIn context) :: said ∧
      ∀ u, showsSupport (u.takeReply ticket).1 = false → Gives a k u) s

/-- **A call awaits the answer to its probe**: this is what it waits for,
and if there is no support it ends with a result. -/
structure AwaitsProbe (ticket : Ticket) (a : α) (m : Work α) : Prop where
  /-- It goes on once the answer is there. -/
  moves : ∀ s, m.moves s = isAnswered ticket s
  /-- Without support it ends. -/
  refused : ∀ s, showsSupport (s.takeReply ticket).1 = false → ∃ t, m.pass s = (.done a, t)

/-! ## Rules -/

theorem Gives.seq {f : α → Work β} (h : Gives a m s) (next : ∀ t, Gives b (f a) t) :
    Gives b (m >>= f) s :=
  Flow.comes_bind.2 (h.mono (fun _ t is => is ▸ next t) fun _ _ _ => id)

theorem ProbesFirst.seq {f : α → Work β} (h : ProbesFirst said a m s)
    (next : ∀ t, Gives b (f a) t) : ProbesFirst said b (m >>= f) s := by
  refine Flow.comes_bind.2 (h.mono (fun _ t is => ?_) fun ready k t waits => ?_)
  · exact is ▸ (next t).mono (fun _ _ => id) fun _ _ _ => False.elim
  · obtain ⟨ticket, context, answered, sends, refused⟩ := waits
    exact ⟨ticket, context, answered, sends, fun u none => (refused u none).seq next⟩

/-- A hub of one session is looked at. -/
theorem probesFirst_alone_look {f : Hub → β} {k : β → Flow Hub α} :
    ProbesFirst said a (Hub.alone (Flow.look f >>= k)) s ↔
      ProbesFirst said a (Hub.alone (k (f (Hub.only s)))) s := Iff.rfl

theorem ProbesFirst.alone (h : ProbesFirst said a m s) :
    ProbesFirst said a (Hub.alone (Hub.within 0 m)) s := by
  refine (Flow.comes_part (fun _ => rfl) fun _ _ => rfl).2 (h.mono (fun _ _ => id) ?_)
  rintro ready k t ⟨ticket, context, answered, sends, refused⟩
  refine ⟨ticket, context, answered, sends, fun u none => ?_⟩
  exact (Flow.comes_part (fun _ => rfl) fun _ _ => rfl).2 ((refused u none).mono (fun _ _ => id)
    fun _ _ _ => False.elim)

theorem ProbesFirst.alone_holding (h : ProbesFirst said a m s.acquire) :
    ProbesFirst said a (Hub.alone (Hub.holding 0 (Hub.within 0 m))) s := by
  rw [Hub.alone, Hub.holding, Flow.between, Flow.within_bind]
  change ProbesFirst said a (Flow.within Hub.only _ _) s.acquire
  rw [Flow.within_bind]
  exact h.alone.seq fun _ => rfl

/-- A flow that probes first and waits awaits the answer to its probe. -/
theorem ProbesFirst.awaits {t : Session} {place : Work α} {ready : Session → Bool} {k : Work α}
    (h : ProbesFirst said a m s) (goes : m.toWait s = (place, t)) (waits : place = .wait ready k) :
    ∃ ticket context, t.journal = .request ticket (probeIn context) :: said ∧
      AwaitsProbe ticket a place := by
  subst waits
  obtain ⟨x, u, ends, -⟩ | ⟨ready', k', u, there, ticket, context, rfl, sends, refused⟩ := h.toWait
  · cases goes.symm.trans ends
  · cases goes.symm.trans there
    refine ⟨ticket, context, sends, fun _ => rfl, fun v none => ?_⟩
    obtain ⟨x, w, ends, is⟩ | ⟨_, _, _, -, never⟩ := (refused v none).toWait
    · exact ⟨w, is ▸ ends⟩
    · exact never.elim

/-! ## Evaluations -/

section Evaluations

variable {o : EvaluationOptions}

theorem probesFirst_checkSideEffects (unknown : s.sideEffectSupport ≠ some true) :
    ProbesFirst s.journal false checkSideEffects s := by
  unfold checkSideEffects
  refine Flow.comes_bind.2 ?_
  change ProbesFirst s.journal false _ s
  split
  · rename_i supported known
    cases supported with
    | false => exact rfl
    | true => exact absurd known unknown
  · exact rfl
  · rename_i context _ _
    refine ⟨s.nextTicket, context.id, rfl, rfl, fun u none => ?_⟩
    exact (probeSupports_decode _ _).trans none

theorem probesFirst_allows (unknown : s.sideEffectSupport ≠ some true) (early : o.endsEarly = true) :
    ProbesFirst s.journal false (allows o) s := by
  rw [allows, if_pos early]
  exact probesFirst_checkSideEffects unknown

theorem probesFirst_evaluate (unknown : s.sideEffectSupport ≠ some true)
    (early : o.endsEarly = true) (f : CallFrame) :
    ProbesFirst s.journal (.failed unsupported) (f.evaluate o) s :=
  (probesFirst_allows unknown early).seq fun _ => rfl

theorem probesFirst_evaluateIn (unknown : s.sideEffectSupport ≠ some true)
    (early : o.endsEarly = true) (context : ExecutionContext) (userGesture awaitPromise : Bool) :
    ProbesFirst s.journal (.failed unsupported) (evaluateIn context o userGesture awaitPromise) s :=
  (probesFirst_allows unknown early).seq fun _ => rfl

/-- **An evaluation that has to be ended early probes first**, where no
support is known. -/
theorem probesFirst_program {c : EvaluationCall} (here : SelectsHere s)
    (unknown : s.sideEffectSupport ≠ some true) (early : c.endsEarly = true) :
    ProbesFirst s.journal (.inl (.failed unsupported)) c.program s := by
  cases c with
  | inContext context o userGesture awaitPromise =>
    refine ProbesFirst.seq (a := Outcome.failed unsupported) ?_ fun _ => rfl
    rw [Hub.evaluateIn, probesFirst_alone_look]
    split
    · exact (probesFirst_evaluateIn unknown early context userGesture awaitPromise).alone
    · rename_i frame is
      rw [Hub.onFrame, here frame (selected_of_selected? is)]
      exact ProbesFirst.alone_holding (probesFirst_evaluate (s := s.acquire) unknown early frame)
  | inFrame f isHere o =>
    refine ProbesFirst.seq (a := Outcome.failed unsupported) ?_ fun _ => rfl
    rw [Hub.onFrame, isHere]
    exact (probesFirst_evaluate unknown early f).alone
  | probe => cases early

end Evaluations

end Session

end DebugClient
