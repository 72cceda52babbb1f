import DebugClient.Context.Target
import DebugClient.Url.Page
import DebugClient.Wire.Event
/-!
# Execution contexts — the global scopes of a target

A target runs code in one or more execution contexts: the main world of
each frame, and those of extensions. A context is shown under its label,
and contexts are shown in an order (`ExecutionContext.order`) that keeps
the contexts of a target together.
-/

namespace DebugClient

/-- A global scope of a target. -/
structure ExecutionContext where
  /-- Identifier. -/
  id : ContextId
  /-- Identifier that no other context of any process has. -/
  uniqueId : Option String
  /-- Name; empty for a main world. -/
  name : String
  /-- Origin of its code. -/
  origin : String
  /-- Whether it is the main world of its frame. -/
  isDefault : Bool
  /-- The frame it belongs to. -/
  frameId : Option String
  /-- The target it belongs to. -/
  target : Target
  /-- What it is shown as. -/
  label : String
  deriving DecidableEq

namespace ExecutionContext

/-- The last segment of a page, with its fragment. -/
def pageTitle (p : Url.Page) : String :=
  let last := p.segments.getLast?.getD ""
  match p.fragment with
  | some fragment => s!"{last}#{fragment}"
  | none => last

/-- What a context is shown as if it has no label of its own: its name, or
else the page of its origin. -/
def defaultLabel (name origin : String) : String :=
  if name ≠ "" then name else ((Url.Page.read? origin).map pageTitle).getD ""

/-- The context of a report. Without data of the embedder it is a main
world. -/
def ofReport (r : Wire.ContextReport) (target : Target) : ExecutionContext where
  id := r.id
  uniqueId := r.uniqueId
  name := r.name
  origin := r.origin
  isDefault := match r.auxData with
    | none => true
    | some data => ((data.member? "isDefault").bind Json.bool?).getD false
  frameId := (r.auxData.bind (·.member? "frameId")).bind Json.str?
  target := target
  label := defaultLabel r.name r.origin

/-- Shows the context under a label; an empty one restores the default. -/
def relabel (c : ExecutionContext) (label : String) : ExecutionContext :=
  { c with label := if label = "" then defaultLabel c.name c.origin else label }

/-- The order of the contexts of one target: main worlds, then the others
by name. -/
def orderWithin (a b : ExecutionContext) : Ordering :=
  match a.isDefault, b.isDefault with
  | true, false => .lt
  | false, true => .gt
  | _, _ => compare a.name b.name

/-- The order contexts are shown in: by target, and within a target main
worlds first. -/
def order (a b : ExecutionContext) : Ordering :=
  (a.target.diverge b.target).getD (a.orderWithin b)

end ExecutionContext

end DebugClient
