import DebugClient.Script.Basic
/-!
# Catalogs — the scripts of a session

A catalog finds scripts by identifier, in the order they were registered,
and by URL, newest first. Beside them it keeps the queue of anonymous
scripts that failed to parse, of which only so many are held, and which
script each source map is bound to.

It does nothing outside of itself: what drops scripts or bindings gives
them back, and whoever asked for it detaches maps and reports.
-/

namespace DebugClient

/-- The scripts of a session. -/
structure Catalog where
  /-- Scripts in the order they were registered, one an identifier. -/
  scripts : List Script := []
  /-- Scripts of each URL that has any, newest first. -/
  byUrl : List (String × List Script) := []
  /-- Anonymous scripts that failed to parse, oldest first. -/
  discardable : List Script := []
  /-- The script each source map identity is bound to. -/
  maps : List (String × Script) := []
  deriving Inhabited

namespace Catalog

/-- How many discardable scripts start an eviction. -/
def discardableLimit : Nat := 1000

/-- How many discardable scripts go at once. -/
def evictionBatch : Nat := 100

/-- The script of an identifier. -/
def find? (c : Catalog) (id : ScriptId) : Option Script := c.scripts.find? (·.scriptId == id)

/-- Scripts of a URL, newest first. -/
def forUrl (c : Catalog) (url : String) : List Script := (c.byUrl.lookup url).getD []

/-- Scripts of a context. -/
def forContext (c : Catalog) (context : ContextId) : List Script :=
  c.scripts.filter (·.contextId == context)

/-- Puts a script at the end, or in the place of the one of its
identifier. -/
def place (s : Script) : List Script → List Script
  | [] => [s]
  | t :: rest => if t.scriptId = s.scriptId then s :: rest else t :: place s rest

/-- Sets the scripts of a URL; a URL without scripts is dropped. -/
def setUrl (url : String) (scripts : List Script) :
    List (String × List Script) → List (String × List Script)
  | [] => if scripts.isEmpty then [] else [(url, scripts)]
  | (u, ss) :: rest =>
    if u = url then (if scripts.isEmpty then rest else (url, scripts) :: rest)
    else (u, ss) :: setUrl url scripts rest

/-- Adds a script. -/
def register (c : Catalog) (s : Script) : Catalog :=
  { c with
    scripts := place s c.scripts
    byUrl := if s.isAnonymous then c.byUrl else setUrl s.sourceUrl (s :: c.forUrl s.sourceUrl) c.byUrl }

/-- Removes the scripts of an identifier, found by identifier and under
the URL of the script given. -/
def unregister (c : Catalog) (s : Script) : Catalog :=
  { c with
    scripts := c.scripts.filter (·.scriptId != s.scriptId)
    byUrl :=
      if s.isAnonymous then c.byUrl
      else setUrl s.sourceUrl ((c.forUrl s.sourceUrl).filter (·.scriptId != s.scriptId)) c.byUrl }

/-- The smallest column that scripts of a URL start at on a line. A column
of zero counts as none found, so that it gives way to any other. -/
def minColumn (c : Catalog) (url : String) (line : Nat) : Nat :=
  ((c.forUrl url).filter (·.lineOffset == line)).foldl
    (fun least s => if least = 0 then s.columnOffset else min least s.columnOffset) 0

/-- A place in the newest script of a URL that covers a position. -/
def locate? (c : Catalog) (url : String) (line : Nat) (column : Option Nat) (inline : Nat) :
    Option Location :=
  ((c.forUrl url).find? (·.contains line column)).map (·.location line column inline)

/-- Queues a discardable script. A full queue gives up its oldest scripts,
which are unregistered and handed back. -/
def discard (c : Catalog) (s : Script) : List Script × Catalog :=
  let queue := c.discardable ++ [s]
  if queue.length < discardableLimit then ([], { c with discardable := queue })
  else
    let evicted := queue.take evictionBatch
    (evicted,
      evicted.foldl unregister { c with discardable := queue.drop evictionBatch })

/-- Binds a map identity to a script; hands back the script it was bound
to. -/
def bind (c : Catalog) (identity : String) (s : Script) : Option Script × Catalog :=
  (c.maps.lookup identity,
    { c with maps := (identity, s) :: c.maps.filter (·.1 != identity) })

/-- Frees a map identity if it is bound to this very script. -/
def unbind (c : Catalog) (identity : String) (s : Script) : Catalog :=
  if (c.maps.lookup identity).any (·.key == s.key) then
    { c with maps := c.maps.filter (·.1 != identity) }
  else c

/-- Frees the map identities bound to scripts of a context; hands back the
scripts. -/
def unbindContext (c : Catalog) (context : ContextId) : List Script × Catalog :=
  let (gone, kept) := c.maps.partition (·.2.contextId == context)
  (gone.map (·.2), { c with maps := kept })

/-- Forgets everything; hands back the scripts that were bound. -/
def clear (c : Catalog) : List Script × Catalog := (c.maps.map (·.2), {})

/-! ## Small facts -/

/-- The script just placed is the one of its identifier. -/
theorem find?_place (s : Script) (l : List Script) :
    (place s l).find? (·.scriptId == s.scriptId) = some s := by
  induction l with
  | nil => simp [place]
  | cons t rest ih =>
    unfold place
    split
    · simp
    · rename_i h
      simp [h, ih]

/-- A script just registered is found. -/
theorem find?_register (c : Catalog) (s : Script) : (c.register s).find? s.scriptId = some s :=
  find?_place s c.scripts

end Catalog

end DebugClient
