import DebugClient.Session.Clearing
/-!
# Contexts of a session

Contexts are kept in the order they were created, and shown in the order
the user chose. When the last one goes, so does the global object.
-/

namespace DebugClient

/-- Puts a context at the end, or in the place of the one of its
identifier. -/
def ExecutionContext.place (c : ExecutionContext) : List ExecutionContext → List ExecutionContext
  | [] => [c]
  | d :: rest => if d.id = c.id then c :: rest else d :: place c rest

namespace Session

/-- The context of an identifier. -/
def context? (s : Session) (id : ContextId) : Option ExecutionContext :=
  s.contexts.find? (·.id == id)

/-- Contexts in the order they are shown. -/
def shownContexts (s : Session) : List ExecutionContext :=
  s.contexts.mergeSort fun a b => (s.contextOrder a b).isLE

/-- The first main world that is shown. -/
def defaultContext? (s : Session) : Option ExecutionContext := s.shownContexts.find? (·.isDefault)

/-- Takes in a context that was created. -/
def createContext (s : Session) (r : Wire.ContextReport) : Session :=
  let context := ExecutionContext.ofReport r s.target
  { s with contexts := context.place s.contexts }.tell (.contextCreated context)

/-- Takes in that a context went away. -/
def destroyContext (s : Session) (id : ContextId) : Session :=
  let s := s.dropContextMaps id
  match s.context? id with
  | none => s
  | some context =>
    let s := { s with contexts := s.contexts.filter (·.id != id) }.tell (.contextDestroyed context)
    if s.contexts.isEmpty then s.clearGlobalObject else s

/-- Takes in that every context went away. -/
def clearContexts (s : Session) : Session :=
  let s := s.clearGlobalObject
  s.contexts.foldl (fun s context => s.tell (.contextDestroyed context)) { s with contexts := [] }

/-- Chooses the order contexts are shown in. -/
def setContextOrder (order : ExecutionContext → ExecutionContext → Ordering) (s : Session) :
    Session :=
  { s with contextOrder := order }.tell .contextOrderChanged

/-- Reports that contexts may be shown in another order. -/
def announceContextOrder (s : Session) : Session := s.tell .contextOrderChanged

/-- Shows a context under a label; an empty one restores the default. -/
def setContextLabel (id : ContextId) (label : String) (s : Session) : Session :=
  match s.context? id with
  | none => s
  | some context =>
    let context := context.relabel label
    { s with contexts := context.place s.contexts }.tell (.contextChanged context)

/-! ## Exceptions and consoles -/

/-- Takes in an exception nobody handled. -/
def thrownBy (s : Session) (t : Wire.Thrown) : Session :=
  s.tell (.exceptionThrown (.reported t.timestamp) t.details)

/-- Takes in that an exception was handled after all. -/
def revoked (s : Session) (r : Wire.Revoked) : Session :=
  s.tell (.exceptionRevoked r.exceptionId)

/-- Takes in a call of a console method. -/
def consoleCalled (s : Session) (c : Wire.ConsoleCall) : Session :=
  let (args, s) := s.mint (c.args.mapM Value.ofRemote)
  s.tell (.console
    { kind := c.kind
      args
      contextId := c.executionContextId
      time := .reported c.timestamp
      stackTrace := c.stackTrace
      context := c.context })

end Session

end DebugClient
