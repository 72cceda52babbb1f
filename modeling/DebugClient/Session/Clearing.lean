import DebugClient.Session.Pausing
import DebugClient.Session.Scripts
/-!
# Clearing — when the global object goes away

A navigation takes the global object with everything in it: the pause and
every script are forgotten, and the source maps are detached.
-/

namespace DebugClient

namespace Session

/-- Forgets every script. -/
def forgetScripts (s : Session) : Session :=
  let (bound, catalog) := s.catalog.clear
  { { s with catalog }.detachAll bound with autoStepOver := false }

/-- Forgets the pause and every script, and reports it. -/
def clearGlobalObject (s : Session) : Session :=
  s.clearPause.forgetScripts.report .globalObjectCleared

end Session

end DebugClient
