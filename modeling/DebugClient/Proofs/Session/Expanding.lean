import DebugClient.Proofs.Flow.Pool
import DebugClient.Proofs.Session.Driving
/-!
# Expanding — where a stop waits for its frames

A stop is taken in with its frames expanded. Where no policy expands frames
that is as soon as it arrives. Otherwise the handler asks the policy and waits
for nothing but the answer (`awaitsFrames`), and what it has done until then is
to ask (`toWait_stop`). With the answer it takes the stop in
(`pass_awaitsFrames`).
-/

namespace DebugClient

namespace Session

/-- What a stop does once a policy has answered that was asked to expand its
frames. -/
def awaitsFrames (r : Wire.PauseReport) (ticket : Ticket) (known : List CallFrame) : Work Unit := do
  Flow.await (isAdvised ticket)
  let answer? ← Flow.act (takeAdvice ticket)
  takePause (.ofReport r (answer?.elim known (framesOr known)))

/-- A session that has made the frames of a stop. -/
def minted (r : Wire.PauseReport) (s : Session) : Session :=
  (s.mint (knownFrames s.catalog r.callFrames)).2

/-- A session that has asked a policy to expand the frames of a stop. -/
def askingFrames (r : Wire.PauseReport) (s : Session) : Session :=
  ((s.minted r).inquire (.expand (s.known r))).2

variable {r : Wire.PauseReport} {s t : Session}

/-- A stop is taken in with the frames that the answer gives, whatever it is. -/
theorem expand_seq (take : List CallFrame → Work Unit) (known : List CallFrame) :
    expand known >>= take = Flow.look (·.policies.expandsFrames) >>= fun expands =>
      if expands then
        Work.consult (.expand known) >>= fun answer? => take (answer?.elim known (framesOr known))
      else take known := by
  rw [expand, bind_assoc]
  congr 1
  funext expands
  split
  · rw [bind_assoc]
    congr 1
    funext answer?
    cases answer? with
    | none => rfl
    | some answer => cases answer <;> rfl
  · rfl

/-- **Where a stop comes to** as it arrives: it waits for its frames, or has them
and is taken in. -/
theorem toWait_stop (on : s.isEnabled = true) (stop : r.reason ≠ .instrumentation) :
    (dispatch (.paused r)).toWait s =
      if s.policies.expandsFrames then
        (awaitsFrames r s.nextTicket (s.known r), s.askingFrames r)
      else (takePause (.ofReport r (s.known r))).toWait (s.minted r) := by
  have takes : (dispatch (.paused r)).toWait s = (handlePaused r).toWait s := by
    change (if true && !s.isEnabled then return () else handlePaused r : Work Unit).toWait s = _
    rw [on, if_neg (by decide)]
  have expands : (handlePaused r).toWait s =
      (expand (s.known r) >>= fun frames => takePause (.ofReport r frames)).toWait (s.minted r) := by
    rw [handlePaused_eq stop]
    rfl
  rw [takes, expands, expand_seq]
  change (if s.policies.expandsFrames then _ else _ : Work Unit).toWait _ = _
  split <;> rfl

theorem moves_awaitsFrames {ticket : Ticket} {known : List CallFrame} :
    (awaitsFrames r ticket known).moves s = s.isAdvised ticket := rfl

/-- **A stop that has its frames** is taken in. -/
theorem pass_awaitsFrames {ticket : Ticket} {known : List CallFrame} {answer : Advice}
    (answered : s.advice.lookup ticket = some answer) :
    (awaitsFrames r ticket known).pass s =
      (takePause (.ofReport r (framesOr known answer))).toWait (s.takeAdvice ticket).2 := by
  change (takePause (.ofReport r ((s.advice.lookup ticket).elim known (framesOr known)))).toWait _ = _
  rw [answered]
  rfl

/-- A stop at which a run to a location ends is over. -/
theorem toWait_takePause_there {d : PauseDetails} {listener : String}
    (there : arrive d s = (some listener, t)) : (takePause d).toWait s = (.done (), t) := by
  rw [takePause, Flow.toWait_act, there]
  rfl

/-- Any other one is presented. -/
theorem toWait_takePause_away {d : PauseDetails} (away : arrive d s = (none, t)) :
    (takePause d).toWait s = (presenting d).toWait t := by
  rw [takePause, Flow.toWait_act, away]

end Session

end DebugClient
