import DebugClient.Proofs.Breakpoint.FileUrls
import DebugClient.Proofs.Context.Order
import DebugClient.Proofs.Hub.Agreement
import DebugClient.Proofs.Hub.EarlyEnds
import DebugClient.Proofs.Hub.Handover
import DebugClient.Proofs.Hub.Renewals
import DebugClient.Proofs.Hub.Verdicts
import DebugClient.Proofs.Listener.Reentry
import DebugClient.Proofs.Listener.Routes
import DebugClient.Proofs.Location.Merging
import DebugClient.Proofs.Session.Arming
import DebugClient.Proofs.Session.Bindings
import DebugClient.Proofs.Session.Caching
import DebugClient.Proofs.Session.Columns
import DebugClient.Proofs.Session.Complaints
import DebugClient.Proofs.Session.Discards
import DebugClient.Proofs.Session.Instrumentation
import DebugClient.Proofs.Session.Leftovers
import DebugClient.Proofs.Session.Locating
import DebugClient.Proofs.Session.Openings
import DebugClient.Proofs.Session.Overtaking
import DebugClient.Proofs.Session.Returns
import DebugClient.Proofs.Session.Roll
import DebugClient.Proofs.Session.Skips
import DebugClient.Proofs.Session.Takeovers
import DebugClient.Proofs.Session.Told
import DebugClient.Proofs.Trace.Unlinking
import DebugClient.Proofs.Value.Exchange
import DebugClient.Proofs.Value.Extents
import DebugClient.Proofs.Value.Previews
import DebugClient.Proofs.Wire.Events
import DebugClient.Snapshot.Log
