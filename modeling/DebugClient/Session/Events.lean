import DebugClient.Session.Breakpoints
import DebugClient.Session.Contexts
import DebugClient.Session.Enablement
import DebugClient.Session.Stepping
/-!
# Events — taking in what the backend reports

Every event changes the session at once, except a stop: its frames may be
expanded first, which may take a while. A stop before a script runs only
sets the breakpoints of the script and goes on. Any other stop is shown,
unless the run to a location that is under way ends there, or the user's
policy vetoes it; after a veto the target steps on.
-/

namespace DebugClient

namespace Session

/-- The frames of a stop whose scripts are known. -/
def knownFrames (catalog : Catalog) : List Wire.CallFrame → Fresh (List CallFrame)
  | [] => return []
  | f :: rest => do
    match catalog.find? f.location.scriptId with
    | some script => return (← CallFrame.make script f none) :: (← knownFrames catalog rest)
    | none => knownFrames catalog rest

/-- The script that is about to run at a stop before it: named by the data
of the stop, or else that of the first frame. -/
def aboutToRun? (s : Session) (r : Wire.PauseReport) : Option Script :=
  let named := (r.data.bind (·.member? "scriptId")).bind Json.str?
  (named.or (r.callFrames.head?.map (·.location.scriptId))).bind s.catalog.find?

/-- Handles a stop before a script runs. -/
def handleInstrumentation (r : Wire.PauseReport) : Work Unit := do
  let s ← Flow.read
  match s.aboutToRun? r, s.policies.synchronizes with
  | some script, true =>
    let _ ← Work.consult (.synchronize script)
  | _, _ => pure ()
  resume

/-- Shows frames as the policy for it says, if there is one. -/
def expand (frames : List CallFrame) : Work (List CallFrame) := do
  if ← Flow.look (·.policies.expandsFrames) then
    match ← Work.consult (.expand frames) with
    | some (.frames frames) => return frames
    | _ => return frames
  else return frames

/-- Whether a stop is where a run was to end. -/
def Destination.reachedBy (destination : Destination) (d : PauseDetails) : Bool :=
  d.frames.head?.any fun f => f.location.samePosition destination.location

/-- Ends the run to a location that is under way; gives its listener if the
stop is there. -/
def arrive (d : PauseDetails) (s : Session) : Option String × Session :=
  match s.destination with
  | none => (none, s)
  | some destination =>
    let s := { s with destination := none }
    if Destination.reachedBy destination d then
      (some destination.listener, s.emit (.reached destination.listener))
    else (none, s)

/-- A run to a location is over with the next stop. Its listener is told if it
ends there, and nothing else changes. -/
theorem arrive_cases (d : PauseDetails) (s : Session) :
    (∃ aim, s.destination = some aim ∧ Destination.reachedBy aim d = true ∧
        arrive d s =
          (some aim.listener, { s with destination := none }.emit (.reached aim.listener))) ∨
      (∀ aim, s.destination = some aim → Destination.reachedBy aim d = false) ∧
        arrive d s = (none, { s with destination := none }) := by
  unfold arrive
  cases is : s.destination with
  | none =>
    have same : { s with destination := none } = s := by rw [← is]
    exact .inr ⟨nofun, by rw [same]⟩
  | some aim =>
    dsimp only
    by_cases there : Destination.reachedBy aim d = true
    · rw [if_pos there]
      exact .inl ⟨aim, rfl, there, rfl⟩
    · rw [if_neg there]
      refine .inr ⟨?_, rfl⟩
      rintro _ ⟨⟩
      exact Bool.eq_false_iff.2 there

/-- Steps on after a veto. -/
def stepOn : Work Unit := do
  if ← Flow.look (·.autoStepOver) then stepOver else stepInto

/-- Handles a stop. -/
def handlePaused (r : Wire.PauseReport) : Work Unit := do
  if r.reason = .instrumentation then handleInstrumentation r
  else
    let known ← Flow.act fun s => s.mint (knownFrames s.catalog r.callFrames)
    let details := PauseDetails.ofReport r (← expand known)
    match ← Flow.act (arrive details) with
    | some _ => return ()
    | none =>
      if ← Flow.act (present details) then return () else stepOn

/-- Handles an event. -/
def handle : Wire.Event → Work Unit
  | .scriptParsed r => do
    let _ ← Flow.act (parsed r false)
  | .scriptFailed r => do
    let _ ← Flow.act (parsed r true)
  | .paused r => handlePaused r
  | .resumed => Flow.modify resumed
  | .breakpointResolved r => Flow.modify (·.resolved r)
  | .contextCreated c => Flow.modify (·.createContext c)
  | .contextDestroyed c => Flow.modify (·.destroyContext c.id)
  | .contextsCleared => Flow.modify clearContexts
  | .exceptionThrown t => Flow.modify (·.thrownBy t)
  | .exceptionRevoked r => Flow.modify (·.revoked r)
  | .consoleCalled c => Flow.modify (·.consoleCalled c)

/-- Takes in an event. The events of the debugger agent are dropped while
it is disabled. -/
def dispatch (event : Wire.Event) : Work Unit := do
  if event.method.ofDebugger && !(← Flow.look isEnabled) then return () else handle event

/-- Takes in a message; one that is no event is dropped. -/
def dispatchMessage (message : Json) : Work Unit :=
  match Wire.Event.codec.read message with
  | some event => dispatch event
  | none => return ()

end Session

end DebugClient
