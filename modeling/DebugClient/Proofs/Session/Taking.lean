import DebugClient.Proofs.Session.Passing
/-!
# Taking — what events do to a session

An event of the backend takes in a script or a pause, or it does something
smaller: contexts come and go, execution goes on, and so on (`Taking`).
What is so of a call whatever is done in passing and in taking is carried
by the handler of every event (`carries_dispatch`), if it is also so after a
script or a pause was taken in. Only an agent that is enabled takes them
in, so what is so may depend on that.
-/

namespace DebugClient

namespace Session

/-- A change an event makes other than to take in a script or a pause. -/
inductive Taking : Session → Session → Prop where
  /-- Keys are made. -/
  | mint {α : Type} (making : Fresh α) (s : Session) : Taking s (s.mint making).2
  /-- A run to a location ends, or is given up. -/
  | arrive (d : PauseDetails) (s : Session) : Taking s (Session.arrive d s).2
  /-- Execution goes on. -/
  | resumed (s : Session) : Taking s s.resumed
  /-- A breakpoint got a location. -/
  | resolved (r : Wire.Resolution) (s : Session) : Taking s (s.resolved r)
  /-- A context was created. -/
  | createContext (r : Wire.ContextReport) (s : Session) : Taking s (s.createContext r)
  /-- A context went away. -/
  | destroyContext (id : ContextId) (s : Session) : Taking s (s.destroyContext id)
  /-- Every context went away. -/
  | clearContexts (s : Session) : Taking s s.clearContexts
  /-- An exception was not handled. -/
  | thrownBy (t : Wire.Thrown) (s : Session) : Taking s (s.thrownBy t)
  /-- An exception was handled after all. -/
  | revoked (r : Wire.Revoked) (s : Session) : Taking s (s.revoked r)
  /-- A console method was called. -/
  | consoleCalled (c : Wire.ConsoleCall) (s : Session) : Taking s (s.consoleCalled c)

variable {P ρ : Type} {π : Flow.Protocol P Session ρ} {J K : P → Session → Session → Prop}

/-- **The handler of a stop** leaves what is so of it so, if it may expand
frames, and a pause that is presented after that does not matter. -/
theorem Aloof.paused (h : Aloof π J)
    (mint : ∀ {p s₀ s α} (making : Fresh α), J p s₀ s → J p s₀ (s.mint making).2)
    (expand : ∀ {p s₀ s} frames, s.isEnabled = true → J p s₀ s →
      (Session.expand frames).Obeys π (fun p s₀ _ s => K p s₀ s) p s₀ s)
    (arrive : ∀ {p s₀ s} d, K p s₀ s → K p s₀ (Session.arrive d s).2)
    (present : ∀ {p s₀ s} d, K p s₀ s → J p s₀ (Session.present d s).2)
    (again : ∀ {p s₀ s}, K p s₀ s → J p s₀ s) (r : Wire.PauseReport) {p : P} {s₀ s : Session}
    (on : s.isEnabled = true) (is : J p s₀ s) :
    (handlePaused r).Obeys π (fun p s₀ _ s => J p s₀ s) p s₀ s := by
  unfold handlePaused
  split
  · exact h.instrumentation r p s₀ s is
  rw [Flow.obeys_seq, Flow.obeys_act, Flow.obeys_seq]
  have minted := mint (knownFrames s.catalog r.callFrames) is
  have still : (Session.mint (knownFrames s.catalog r.callFrames) s).2.isEnabled = true := on
  refine (expand _ still minted).mono fun p s₀ frames s is => ?_
  rw [Flow.obeys_seq, Flow.obeys_act]
  have arrived := arrive (.ofReport r frames) is
  split
  · exact again arrived
  · rw [Flow.obeys_seq, Flow.obeys_act]
    have presented := present (.ofReport r frames) arrived
    split
    · exact presented
    · exact h.stepOn _ _ _ presented

/-- **The handler of an event** leaves what is so of it so, if what events
do does not matter. -/
theorem carries_dispatch
    (taking : ∀ {p s₀ s s'}, Taking s s' → J p s₀ s → J p s₀ s')
    (parsed : ∀ {p s₀ s} r failed, s.isEnabled = true → J p s₀ s →
      J p s₀ (Session.parsed r failed s).2)
    (paused : ∀ {p s₀ s} r, s.isEnabled = true → J p s₀ s →
      (handlePaused r).Obeys π (fun p s₀ _ s => J p s₀ s) p s₀ s)
    (event : Wire.Event) : (Session.dispatch event).Carries π J := by
  intro p s₀ s is
  rw [Session.dispatch, Flow.obeys_seq, Flow.obeys_look]
  split
  · exact is
  · -- What is not dropped is an event of the agent, which is enabled, or of the runtime.
    rename_i taken
    have on : event.method.ofDebugger = true → s.isEnabled = true := by
      intro agent
      simpa [agent] using taken
    cases event with
    | scriptParsed r => exact parsed r false (on rfl) is
    | scriptFailed r => exact parsed r true (on rfl) is
    | paused r => exact paused r (on rfl) is
    | resumed => exact taking (.resumed s) is
    | breakpointResolved r => exact taking (.resolved r s) is
    | contextCreated r => exact taking (.createContext r s) is
    | contextDestroyed gone => exact taking (.destroyContext gone.id s) is
    | contextsCleared => exact taking (.clearContexts s) is
    | exceptionThrown t => exact taking (.thrownBy t s) is
    | exceptionRevoked r => exact taking (.revoked r s) is
    | consoleCalled c => exact taking (.consoleCalled c s) is

end Session

end DebugClient
