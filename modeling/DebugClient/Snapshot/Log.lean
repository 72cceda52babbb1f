import DebugClient.Rehearsal.Stage
import DebugClient.Snapshot.Session
/-!
# Snapshots of logs — what left the sessions, line by line

A line is the place of the session, a word for the kind of what left it,
and what it was. Timers leave no line.
-/

namespace DebugClient

namespace Moment

/-- From this time on, in milliseconds, a time was read off the clock. -/
def clockStart : Nat := 1000000000000

/-- A moment; one that was read off the clock is now. -/
def snapshot : Moment → Json
  | .reported d => if d.atLeast clockStart then .str "now" else .double d
  | .onReceipt => .str "now"

end Moment

/-- The word for a step. -/
def StepMode.word : StepMode → String
  | .into => "stepInto"
  | .over => "stepOver"
  | .out => "stepOut"

/-- Reads a range between two places. -/
def Location.pairOf? (j : Json) : Option (Location × Location) := do
  let row ← j.arr?
  return (← Location.ofSnapshot? (← row[0]?), ← Location.ofSnapshot? (← row[1]?))

/-- Reads the ranges a step skips, which stand under the word for it. -/
def StepMode.rangesOf (j : Json) (mode : StepMode) : List (Location × Location) :=
  (((j.member? mode.word).bind Json.arr?).getD []).filterMap Location.pairOf?

/-- Reads what an expansion shows at one place: an index alone, or with
the inlined frame and the name of a virtual frame. -/
def Shown.ofSnapshot? (j : Json) : Option Shown := do
  let row ← j.arr?
  let index ← (← row[0]?).nat?
  match (row[1]?).bind Json.nat?, (row[2]?).bind Json.str? with
  | some inline, some name => return .virtual index inline name
  | _, _ => return .frame index

/-- An event of the debugger. -/
def DebuggerEvent.snapshot : DebuggerEvent → Json
  | .wasEnabled => .arr [.str "wasEnabled"]
  | .wasDisabled => .arr [.str "wasDisabled"]
  | .readyToPause => .arr [.str "isReadyToPause"]
  | .paused d => .arr [.str "paused", .str d.reason.spelling, .arr (d.frames.map CallFrame.tag)]
  | .resumed => .arr [.str "resumed"]
  | .scriptParsed s => .arr [.str "parsed", .str s.scriptId]
  | .scriptDiscarded s => .arr [.str "discarded", .str s.scriptId]
  | .globalObjectCleared => .arr [.str "globalObjectCleared"]
  | .frameSelected f => .arr [.str "callFrameSelected", .orNull CallFrame.tag f]
  | .breakpointsActiveChanged active => .arr [.str "breakpointsActiveChanged", .bool active]

/-- A call of a console method. -/
def ConsoleMessage.snapshot (m : ConsoleMessage) : Json :=
  .object
    [("kind", .str m.kind), ("args", .arr (m.args.map Value.snapshot)),
      ("contextId", .int m.contextId), ("timestamp", m.time.snapshot),
      ("stackTrace", .orNull Wire.StackTrace.codec.write m.stackTrace),
      ("context", .orNull .str m.context)]

/-- An event of the runtime. -/
def RuntimeEvent.snapshot : RuntimeEvent → Json
  | .contextCreated c => .arr [.str "contextCreated", c.snapshot]
  | .contextDestroyed c => .arr [.str "contextDestroyed", .int c.id]
  | .contextChanged c => .arr [.str "contextChanged", .int c.id, .str c.label]
  | .contextOrderChanged => .arr [.str "contextOrderChanged"]
  | .exceptionThrown time details =>
    .arr [.str "exceptionThrown", time.snapshot, Wire.ExceptionDetails.codec.write details]
  | .exceptionRevoked id => .arr [.str "exceptionRevoked", .int id]
  | .console m => .arr [.str "console", m.snapshot]

/-- An order to the source maps. -/
def MapOrder.snapshot : MapOrder → Json
  | .attach s url => .arr [.str "attach", .str s.scriptId, .str s.sourceUrl, .str url]
  | .detach s => .arr [.str "detach", .str s.scriptId]
  | .setEnabled enabled => .arr [.str "enabled", .bool enabled]
  | .dispose => .arr [.str "dispose"]

/-- A question to a policy. -/
def Inquiry.snapshot : Inquiry → Json
  | .expand frames => .arr [.str "expand", .nat frames.length]
  | .skipRanges mode frame => .arr [.str "autoStep", .str mode.word, frame.tag]
  | .evaluate frame options => .arr [.str "evaluator", frame.tag, .str options.expression]
  | .synchronize script => .arr [.str "synchronize", .str script.scriptId]

/-- What left a session under the word for its kind; none for a timer. -/
def Signal.line : Signal → Option (List Json)
  | .request _ command => some [.str "call", .str command.method, command.params]
  | .inquiry _ question => some [.str "policy", question.snapshot]
  | .judged d verdict =>
    some [.str "policy",
      .arr [.str "beforePaused", .str d.reason.spelling, .nat d.frames.length, .bool verdict]]
  | .debugger event => some [.str "event", event.snapshot]
  | .runtime event => some [.str "event", event.snapshot]
  | .maps order => some [.str "map", order.snapshot]
  | .resolved listener location => some [.str "resolved", .str listener, location.snapshot]
  | .reached listener => some [.str "reached", .str listener]
  | .timer _ _ => none

/-- A line of the log. A request that was held back has its number at the
end. -/
def Entry.snapshot? (e : Entry) : Option Json :=
  e.signal.line.map fun line => .arr (.nat e.seat :: line ++ (e.held.map Json.nat).toList)

end DebugClient
