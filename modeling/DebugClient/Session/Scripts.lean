import DebugClient.Session.State
/-!
# Scripts of a session

Reported scripts go into the catalog, and the source map a script
declares is attached under an identity two scripts may share: then the
later one takes the map over. The queue of anonymous scripts that failed
to parse gives up its oldest when it is full.

The source of a script is fetched once. Work that asks for it while it is
being fetched waits; a fetch that failed is tried again by the next.
-/

namespace DebugClient

namespace Session

/-! ## Source maps -/

/-- The source map URL of a script. -/
def mapUrl (s : Session) (script : Script) : Option String :=
  (s.mapUrls.lookup script.key).getD script.reportedMapUrl

/-- The identity of the source map of a script. -/
def mapIdentity (s : Session) (script : Script) : Option String :=
  Script.mapIdentity script.contextId script.sourceUrl (s.mapUrl script)

/-- Detaches the map of a script that gave up its identity, unless it is
this very script. -/
def giveWay (s : Session) (previous : Option Script) (script : Script) : Session :=
  match previous with
  | some p => if p.key = script.key then s else s.order (.detach p)
  | none => s

/-- Attaches the source map of a script, if it declares one, and detaches
it from the script that had its identity. -/
def attachMap (s : Session) (script : Script) : Session :=
  match s.mapUrl script, s.mapIdentity script with
  | some url, some identity =>
    let (previous, catalog) := s.catalog.bind identity script
    ({ s with catalog }.giveWay previous script).order (.attach script url)
  | _, _ => s

/-- Frees the identity of the source map of a script. -/
def unbindMap (s : Session) (script : Script) : Session :=
  match s.mapIdentity script with
  | some identity => { s with catalog := s.catalog.unbind identity script }
  | none => s

/-- Replaces the source map URL of a script; an empty one is none. -/
def replaceMapUrl (s : Session) (script : Script) (url : String) : Session :=
  { s with
    mapUrls := (script.key, Script.nonEmpty (some url)) :: s.mapUrls.filter (·.1 != script.key) }

/-- Gives a script another source map. -/
def setMapUrl (s : Session) (script : Script) (url : String) : Session :=
  (((s.unbindMap script).order (.detach script)).replaceMapUrl script url).attachMap script

/-- Detaches the maps of some scripts. -/
def detachAll (s : Session) (scripts : List Script) : Session :=
  scripts.foldl (fun s script => s.order (.detach script)) s

/-- Detaches the source maps of the scripts of a context. The scripts stay. -/
def dropContextMaps (s : Session) (context : ContextId) : Session :=
  let (scripts, catalog) := s.catalog.unbindContext context
  { s with catalog }.detachAll scripts

/-! ## Parsing -/

/-- Whether a report says that the script runs in a context that is not
the main world. -/
def ofExtension (r : Wire.ScriptReport) : Bool :=
  ((r.auxData.bind (·.member? "isDefault")).bind Json.bool?) == some false

/-- Registers a script and reports it. -/
def register (s : Session) (script : Script) : Session :=
  { s with catalog := s.catalog.register script }.report (.scriptParsed script)

/-- Queues a discardable script, and reports the scripts that go for it. -/
def discard (s : Session) (script : Script) : Session :=
  let (evicted, catalog) := s.catalog.discard script
  evicted.foldl (fun s script => s.report (.scriptDiscarded script)) { s with catalog }

/-- Takes in a script that compiled or failed to. A script that is known
stays as it is. -/
def parsed (r : Wire.ScriptReport) (hasSyntaxError : Bool) (s : Session) : Script × Session :=
  match s.catalog.find? r.scriptId with
  | some known => (known, s)
  | none =>
    let script := Script.ofReport s.nextKey r hasSyntaxError (ofExtension r)
    let s := { s with nextKey := s.nextKey.next }.register script
    let s := if hasSyntaxError then s else s.attachMap script
    (script, if hasSyntaxError && script.isAnonymous then s.discard script else s)

/-! ## Sources -/

/-- Whether the source of a script is being fetched. -/
def isFetching (key : Key) (s : Session) : Bool :=
  match s.sources.lookup key with
  | some .fetching => true
  | _ => false

/-- The source of a script, if it is there. -/
def source? (key : Key) (s : Session) : Option (String × Option String) :=
  match s.sources.lookup key with
  | some (.loaded text bytecode) => some (text, bytecode)
  | _ => none

/-- Forgets the source of a script. -/
def dropSource (key : Key) (s : Session) : Session :=
  { s with sources := s.sources.filter (·.1 != key) }

/-- Sets the source of a script. -/
def putSource (key : Key) (state : SourceState) (s : Session) : Session :=
  { s with sources := (key, state) :: (s.dropSource key).sources }

/-- The source of a script: its text, and its bytecode if it has one. -/
def source (script : Script) : Work (Except LinkError (String × Option String)) := do
  Flow.await fun s => !s.isFetching script.key
  match ← Flow.look (source? script.key) with
  | some source => return .ok source
  | none =>
    Flow.modify (putSource script.key .fetching)
    match ← Work.call (.getScriptSource script.scriptId) Wire.Reply.source with
    | .ok (text, bytecode) =>
      Flow.modify (putSource script.key (.loaded text bytecode))
      return .ok (text, bytecode)
    | .error e =>
      Flow.modify (dropSource script.key)
      return .error e

/-! ## Traces -/

/-- A stack trace an agent keeps. -/
def fetchTrace (id : Wire.TraceId) : Work (Option Wire.StackTrace) := do
  return (← Work.call (.getStackTrace id) Wire.Reply.stackTrace).toOption

end Session

/-- The places of the frames of a trace, from the current task back. -/
def Location.ofTrace (t : Wire.StackTrace) : List Location :=
  t.links.flatMap fun l =>
    l.callFrames.map fun f => ⟨f.scriptId, f.lineNumber, some f.columnNumber, 0⟩

/-! ## Small facts -/

namespace Session

/-- A script that is known is not registered again. -/
theorem parsed_of_known {s : Session} {r : Wire.ScriptReport} {known : Script}
    (h : s.catalog.find? r.scriptId = some known) (hasSyntaxError : Bool) :
    s.parsed r hasSyntaxError = (known, s) := by
  simp [parsed, h]

end Session

end DebugClient
