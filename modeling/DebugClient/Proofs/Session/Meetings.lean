import DebugClient.Proofs.Flow.Records
import DebugClient.Proofs.Session.Arrivals
import DebugClient.Proofs.Session.Blindness
import DebugClient.Proofs.Session.Expanding
import DebugClient.Proofs.Session.Passing
/-!
# Meetings — which sessions a call has met

A call goes from wait to wait, and each time it meets a session that others may
have changed meanwhile. The sessions that calls have met are noted under their
numbers (`meeting`), and say where a call stands: a stop that has met a session
on which a policy expands frames waits for them, and every other call goes the
same way on all sessions that are alike (`StandsAt`, `blind_program`).

So it is known with which frames a stop is taken in: those of the session it met
when it came, as a policy has expanded them (`TakesIn`). There it ends the run to
a location that is under way by then (`arrives_of_takesIn`).
-/

namespace DebugClient

namespace Session

/-! ## The system -/

/-- Whatever drives a session, side by side. Outside, answers come in. Of each
call the sessions are noted from which it went on. -/
def meeting : Flow.System DriveCall Response Session Unit (Nat × Session) where
  program := DriveCall.program
  outside := Response.apply
  note number _ before _ := [(number, before)]

/-- Calls on a session, under way and ended. -/
abbrev Calls := Flow.Pool DriveCall (Work Unit) Session Unit (Nat × Session)

namespace Calls

/-- The same calls under way on another session. -/
abbrev on (p : Calls) (s : Session) : Calls := { p with state := s }

/-- What becomes of calls. -/
abbrev onward (p : Calls) (moves : List (Flow.Move DriveCall Response)) : Calls :=
  p.play meeting moves

/-- The sessions that a call has met, newest first. -/
abbrev met (p : Calls) (number : Nat) : List Session := Flow.Pool.noted number p.notes

end Calls

/-! ## Calls that are no stops -/

/-- A call takes in a stop that is about to be shown. -/
def DriveCall.IsStop (c : DriveCall) (r : Wire.PauseReport) : Prop :=
  c = .receive (.paused r) ∧ r.reason ≠ .instrumentation

theorem blind_continueTo (location : Location) (listener : Option String) :
    Blind (holding (continueTo location listener)) := by
  refine blind_holding ?_
  cases listener with
  | none => exact blind_send _
  | some listener =>
    refine Flow.Mirrors.seq ?_ fun _ => blind_send _
    refine Flow.mirrors_modify fun s s' t t' since => ?_
    obtain ⟨b, _, _, -, rfl, rfl⟩ := since
    exact ⟨b, _, _, .inl rfl, rfl, rfl⟩

/-- **Every call but a stop** goes the same way on sessions that are alike. -/
theorem blind_program {c : DriveCall} (noStop : ∀ r, ¬ c.IsStop r) : Blind c.program := by
  cases c with
  | receive event =>
    refine (blind_look fun _ _ _ => rfl).seq fun on => ?_
    split
    · exact Flow.mirrors_done ()
    · refine blind_handle fun r is => ?_
      by_contra isStop
      exact noStop r ⟨congrArg _ is, isStop⟩
  | pause => exact blind_holding blind_pauseTarget
  | resume => exact blind_holding blind_resume
  | stepInto => exact blind_holding blind_stepInto
  | stepIntoAsync => exact blind_holding blind_stepIntoAsync
  | stepOver => exact blind_holding blind_stepOver
  | stepOut => exact blind_holding blind_stepOut
  | continueTo location listener => exact blind_continueTo location listener
  | enable => exact blind_holding blind_enable
  | disable => exact blind_holding blind_disable
  | install policies => exact blind_change fun _ _ _ => rfl

/-! ## Where calls stand -/

/-- A stop waits for its frames that has met an enabled session on which a policy
expands them. -/
structure AwaitsFrames (c : DriveCall) (r : Wire.PauseReport) (s : Session) : Prop where
  /-- The stop. -/
  stop : c.IsStop r
  /-- The agent is enabled. -/
  on : s.isEnabled = true
  /-- A policy expands frames. -/
  expands : s.policies.expandsFrames = true

/-- **Where a call stands** that has met sessions. -/
inductive StandsAt (c : DriveCall) : List Session → Work Unit → Prop where
  /-- It is a stop that waits for its frames. -/
  | awaits {r : Wire.PauseReport} {s : Session} (is : AwaitsFrames c r s) :
      StandsAt c [s] (awaitsFrames r s.nextTicket (s.known r))
  /-- It goes the same way on sessions that are alike. -/
  | rests {s : Session} {earlier : List Session} {m : Work Unit} (rests : m.Rests likeness)
      (other : earlier = [] → ∀ r, ¬ AwaitsFrames c r s) : StandsAt c (s :: earlier) m

/-- It waits for the same on sessions that are alike. -/
theorem StandsAt.moves_eq {c : DriveCall} {met : List Session} {m : Work Unit} {s s' : Session}
    (h : StandsAt c met m) (alike : likeness.alike s s') : m.moves s = m.moves s' := by
  cases h with
  | @awaits _ met is => exact reads_alike (f := isAdvised met.nextTicket) alike fun _ _ _ => rfl
  | rests rests _ => exact rests.moves_eq alike

/-- Every call under way stands where the sessions say that it has met. -/
def Placed (p : Calls) : Prop := p.Logged StandsAt fun _ _ _ => True

theorem Placed.on {p : Calls} (h : Placed p) (s : Session) : Placed (p.on s) :=
  Flow.Pool.Logged.on h s

/-! ## Stops that are taken in -/

/-- **A stop is taken in** by a move, with frames. The session is meant that the
stop met as it came, and the answer that the policy has given which was asked
then. -/
inductive TakesIn (p : Calls) :
    Flow.Move DriveCall Response → Wire.PauseReport → List CallFrame → Prop where
  /-- Nobody is asked, and it is taken in as it comes. -/
  | atOnce {r : Wire.PauseReport} {frames : List CallFrame} (stop : r.reason ≠ .instrumentation)
      (on : p.state.isEnabled = true) (expansion : Expansion p.state [] r [] frames) :
      TakesIn p (.begin (.receive (.paused r))) r frames
  /-- It has waited for the answer. -/
  | expanded {place : Nat} {w : Flow.Standing DriveCall (Work Unit)} {met : Session}
      {r : Wire.PauseReport} {answer : Advice} {frames : List CallFrame}
      (there : p.waiting[place]? = some w) (called : w.call = .receive (.paused r))
      (stop : r.reason ≠ .instrumentation) (came : p.met w.number = [met])
      (on : met.isEnabled = true) (answered : p.state.advice.lookup met.nextTicket = some answer)
      (expansion : Expansion met [(met.nextTicket, answer)] r
        [.inquiry met.nextTicket (.expand (met.known r))] frames) :
      TakesIn p (.carry place) r frames

/-- **What a stop does with the run to a location** that is under way when it is
taken in. -/
inductive Arrives (p : Calls) (r : Wire.PauseReport) (frames : List CallFrame) (p' : Calls) :
    Prop where
  /-- It is exactly at the location, and swallowed: the listener is told, and the
  handler ends. Beside that the session is as it was, and the run is over. -/
  | there {aim : Destination} {number : Nat} (is : p.state.destination = some aim)
      (stops : StopsAt frames aim.location)
      (besides : Besides { p.state with destination := none } [.reached aim.listener] p'.state)
      (ended : p'.ended = ⟨number, .receive (.paused r), ()⟩ :: p.ended)
  /-- It is elsewhere, and held: nobody is told, and no run is under way any
  more. -/
  | elsewhere (away : ∀ aim, p.state.destination = some aim → ¬ StopsAt frames aim.location)
      (held : p'.state.pause = some (.ofReport r frames)) (done : p'.state.destination = none)
      (silent : ∃ said, p'.state.journal = said ++ p.state.journal ∧
        said.filterMap Signal.reached? = [])

/-! ### One stop -/

section Taking

variable {d : PauseDetails} {s t u : Session}

/-- **A pause is held** by a session on which no run is under way any more, and
nobody was told that one has ended. -/
structure Holds (d : PauseDetails) (s t : Session) : Prop where
  /-- The pause is held. -/
  held : t.pause = some d
  /-- No run is under way. -/
  done : t.destination = none
  /-- Nobody was told. -/
  silent : ∃ said, t.journal = said ++ s.journal ∧ said.filterMap Signal.reached? = []

theorem Holds.says (h : Holds d s t) (said : List Signal) (pause : u.pause = t.pause)
    (destination : u.destination = t.destination) (journal : u.journal = said ++ t.journal)
    (silent : said.filterMap Signal.reached? = []) : Holds d s u := by
  obtain ⟨held, done, before, is, quiet⟩ := h
  refine ⟨pause.trans held, destination.trans done, said ++ before, ?_, ?_⟩
  · rw [journal, is, List.append_assoc]
  · rw [List.filterMap_append, silent, quiet]
    rfl

theorem aloof_holds :
    Aloof (Flow.keeping (Holds d s) : Flow.Protocol Unit Session Unit) fun _ _ t => Holds d s t where
  lets := Flow.lets_keeping
  passing change h := by
    cases change with
    | issue command => exact h.says [.request _ command] rfl rfl rfl rfl
    | inquire question => exact h.says [.inquiry _ question] rfl rfl rfl rfl
    | _ => exact h.says [] rfl rfl rfl rfl

theorem Holds.select (h : Holds d s t) (frame : Option CallFrame) : Holds d s (t.select frame) := by
  unfold Session.select
  split
  · exact h
  · exact h.says [.debugger (.frameSelected frame)] rfl rfl rfl rfl

theorem Holds.noteVerdict (h : Holds d s t) : Holds d s (t.noteVerdict d) := by
  unfold Session.noteVerdict
  split
  · exact h.says [.judged d (t.verdict d)] rfl rfl rfl rfl
  · exact h

theorem holds_present (done : s.destination = none) : Holds d s (present d s).2 := by
  have held : Holds d s (s.hold d) := ⟨rfl, done, [], rfl, rfl⟩
  simp only [present]
  split
  · have shown : Holds d s (({ (s.hold d).noteVerdict d with autoStepOver := false }).report (.paused d)) :=
      held.noteVerdict.says [.debugger (.paused d)] rfl rfl rfl rfl
    exact shown.select _
  · exact held.noteVerdict

/-- A pause that is presented is held at the next wait, or at the end. -/
theorem holds_presenting (done : s.destination = none) : Holds d s ((presenting d).toWait s).2 := by
  have obeys : (presenting d).Obeys (Flow.keeping (Holds d s) : Flow.Protocol Unit Session Unit)
      (fun _ _ _ t => Holds d s t) () s s := by
    rw [presenting, Flow.obeys_seq, Flow.obeys_act]
    split
    · exact holds_present done
    · exact aloof_holds.stepOn () s _ (holds_present done)
  obtain ⟨_, -, holds⟩ | ⟨_, -, holds⟩ := obeys.toWait <;> exact holds

/-- **A stop that is taken in** on a session like another, but for what was used
up and has come in. -/
theorem toWait_takePause {r : Wire.PauseReport} {frames : List CallFrame} (besides : Besides s [] t) :
    (∃ aim, s.destination = some aim ∧ StopsAt frames aim.location ∧
        (takePause (.ofReport r frames)).toWait t =
          (.done (), { t with destination := none }.emit (.reached aim.listener)) ∧
        Besides { s with destination := none } [.reached aim.listener]
          ({ t with destination := none }.emit (.reached aim.listener))) ∨
      (∀ aim, s.destination = some aim → ¬ StopsAt frames aim.location) ∧
        (takePause (.ofReport r frames)).toWait t =
          (presenting (.ofReport r frames)).toWait { t with destination := none } := by
  have same : t.destination = s.destination := by
    obtain ⟨_, _, _, _, rfl⟩ := besides
    rfl
  obtain ⟨aim, is, there, arrives⟩ | ⟨away, arrives⟩ := arrive_cases (.ofReport r frames) t
  · refine .inl ⟨aim, same ▸ is, reachedBy_iff.1 there, toWait_takePause_there arrives, ?_⟩
    obtain ⟨_, _, _, _, rfl⟩ := besides
    exact ⟨_, _, _, _, rfl⟩
  · refine .inr ⟨fun aim is stops => ?_, toWait_takePause_away arrives⟩
    exact absurd (reachedBy_iff.2 stops) (Bool.eq_false_iff.1 (away aim (same.trans is)))

end Taking

/-! ### In a pool -/

section Pools

variable {p : Calls} {move : Flow.Move DriveCall Response} {r : Wire.PauseReport}
  {frames : List CallFrame}

theorem TakesIn.of_begin {c : DriveCall} (taken : TakesIn p (.begin c) r frames) :
    c.IsStop r ∧ p.state.isEnabled = true ∧ p.state.policies.expandsFrames = false ∧
      frames = p.state.known r := by
  cases taken with
  | atOnce stop on expansion =>
    cases expansion with
    | plain off => exact ⟨⟨rfl, stop⟩, on, off, rfl⟩

/-- A stop that has waited stands where it has asked for its frames. -/
theorem TakesIn.of_carry (placed : Placed p) {place : Nat} (taken : TakesIn p (.carry place) r frames) :
    ∃ w ticket known answer, p.waiting[place]? = some w ∧ w.call = .receive (.paused r) ∧
      w.place = awaitsFrames r ticket known ∧ p.state.advice.lookup ticket = some answer ∧
      frames = framesOr known answer := by
  cases taken with
  | @expanded _ w met _ answer _ there called stop came on answered expansion =>
    obtain ⟨expands, is⟩ : met.policies.expandsFrames = true ∧
        frames = framesOr (met.known r) answer := by
      cases expansion with
      | told expands heard =>
        obtain rfl := congrArg Prod.snd (List.mem_singleton.1 heard)
        exact ⟨expands, rfl⟩
    refine ⟨w, met.nextTicket, met.known r, answer, there, called, ?_, answered, is⟩
    have stands := placed.waiting w (List.mem_of_getElem? there)
    rw [show Flow.Pool.noted w.number p.notes = [met] from came, called] at stands
    generalize w.place = place at stands
    cases stands with
    | awaits awaits =>
      obtain ⟨⟨rfl⟩, -⟩ := awaits.stop
      rfl
    | rests _ other => exact absurd ⟨⟨rfl, stop⟩, on, expands⟩ (other rfl r)

/-- **A stop that is taken in** goes on with what comes of a pause. -/
theorem TakesIn.state_eq (placed : Placed p) (taken : TakesIn p move r frames) :
    ∃ t number, Besides p.state [] t ∧
      (p.onward [move]).state = ((takePause (.ofReport r frames)).toWait t).2 ∧
      (p.onward [move]).ended =
        (((takePause (.ofReport r frames)).toWait t).1.result?.map
          (⟨number, .receive (.paused r), ·⟩)).toList ++ p.ended := by
  cases move with
  | begin c =>
    obtain ⟨⟨rfl, stop⟩, on, off, rfl⟩ := taken.of_begin
    have goes : ((DriveCall.receive (.paused r)).program.toWait p.state) = _ := toWait_stop on stop
    rw [off, if_neg Bool.false_ne_true] at goes
    refine ⟨p.state.minted r, p.begun, ⟨_, _, _, _, rfl⟩, ?_, ?_⟩
    · change (p.opened meeting _ _).state = _
      rw [Flow.Pool.state_opened, ← goes]
      rfl
    · change (p.opened meeting _ _).ended = _
      rw [Flow.Pool.ended_opened, ← goes]
      rfl
  | carry place =>
    obtain ⟨w, ticket, known, answer, there, called, stands, answered, rfl⟩ := taken.of_carry placed
    have advised : w.place.moves p.state = true := by
      rw [stands, moves_awaitsFrames]
      exact Lookup.any_of_lookup answered
    have step : p.onward [.carry place] = p.moved meeting place w (w.place.pass p.state) :=
      Flow.Pool.step_carry there advised
    rw [step, Flow.Pool.state_moved, Flow.Pool.ended_moved, stands, pass_awaitsFrames answered, called]
    exact ⟨(p.state.takeAdvice ticket).2, w.number, ⟨_, _, _, _, rfl⟩, rfl, rfl⟩
  | outside e => cases taken

/-- **A stop ends the run to a location** that is under way when it is taken in:
there and swallowed, or elsewhere and held. -/
theorem arrives_of_takesIn (placed : Placed p) (taken : TakesIn p move r frames) :
    Arrives p r frames (p.onward [move]) := by
  obtain ⟨t, number, besides, state, ended⟩ := taken.state_eq placed
  obtain ⟨aim, is, stops, goes, after⟩ | ⟨away, goes⟩ := toWait_takePause (r := r) besides
  · rw [goes] at state ended
    exact .there is stops (state ▸ after) ended
  · rw [goes] at state
    have holds : Holds (.ofReport r frames) { t with destination := none } (p.onward [move]).state :=
      state ▸ holds_presenting rfl
    have same : t.journal = p.state.journal := by
      obtain ⟨_, _, _, _, rfl⟩ := besides
      rfl
    exact .elsewhere away holds.held holds.done (same ▸ holds.silent)

end Pools

end Session

end DebugClient
