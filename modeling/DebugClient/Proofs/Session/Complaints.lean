import DebugClient.Proofs.Session.Releases
/-!
# Complaints — what an assignment says went wrong

An assignment gives the error, if there is one. Its expression can fail or
throw, the scope can be without a frame, the session can be gone, and the
request can be refused or throw in turn: in the end all of that is one text or
none. None is given where the request was carried out. But where the expression
throws, the error is the text of what was thrown, and not everything has one:
of a thrown `undefined` nothing is said, though nothing was assigned
(`no_complaint_iff`, `thrown_in_silence`).
-/

namespace DebugClient

/-- A value has no text: it is a text that did not come along, or anything else
that came without a description. -/
inductive Wire.RemoteObject.Textless (o : Wire.RemoteObject) : Prop where
  /-- A text that is missing. -/
  | text (is : o.type = .string) (missing : ∀ s, o.value ≠ some (.str s))
  /-- Something that is not described. -/
  | other (isnt : o.type ≠ .string) (undescribed : o.description = none)

/-- What was thrown is not told exactly if it has no text. -/
theorem Wire.RemoteObject.thrownText?_eq_none {o : Wire.RemoteObject} :
    o.thrownText? = none ↔ o.Textless := by
  have missing : o.value.bind Json.str? = none ↔ ∀ s, o.value ≠ some (.str s) := by
    cases o.value with
    | none => simp
    | some j => cases j <;> simp [Json.str?]
  rw [thrownText?]
  split
  case isTrue is =>
    rw [missing]
    refine ⟨.text is, fun less => ?_⟩
    cases less with
    | text _ missing => exact missing
    | other isnt _ => exact absurd is isnt
  case isFalse isnt =>
    refine ⟨.other isnt, fun less => ?_⟩
    cases less with
    | text is _ => exact absurd is isnt
    | other _ undescribed => exact undescribed

namespace Session

/-- **An assignment was carried out**: its expression gave a result and did not
throw, and the request that assigns this result was sent and carried out. -/
def AssignErrand.CarriedOut (answers : Ticket → Reply) (v : Value) (e : AssignErrand) : Prop :=
  ∃ r ticket command, AssignErrand.Gave answers e r ∧ r.exceptionDetails.isSome = false ∧
    v.assignment? e.call.name r.result = some command ∧
    (ticket, command) ∈ requestsOf (AssignErrand.said e) ∧
    command.carriedOut (answers ticket) = true

/-- **What an assignment has thrown is silenced**: it has no text. -/
def AssignErrand.Silenced (answers : Ticket → Reply) (e : AssignErrand) : Prop :=
  ∃ r, AssignErrand.Gave answers e r ∧ r.exceptionDetails.isSome = true ∧ r.result.Textless

variable {answers : Ticket → Reply} {v : Value} {h : Handle} {start s : Session}
  {past : List AssignErrand} {name expression : String} {result : Wire.RemoteObject}
  {new said : List Signal} {listed : List (Key × List Property)} {error : Option String}
  {command : Wire.Command} {ticket : Ticket}

/-! ## One assignment -/

/-- The request that assigns is among what is said to put the result into the
property: what comes before evaluates, and what comes after releases. -/
theorem mem_put_iff (is : v.assignment? name result = some command) (last first : Ticket)
    (id : Option ObjectId) (question : Wire.Evaluate) :
    (ticket, command) ∈
        requestsOf (releasing last id ++ (new ++ [.request first (.evaluate question)])) ↔
      (ticket, command) ∈ requestsOf new := by
  have others : (∀ id, command ≠ .releaseObject id) ∧ ∀ question, command ≠ .evaluate question := by
    cases v with
    | handle h =>
      obtain rfl := Option.some.inj is
      simp
    | scope h ref =>
      obtain ⟨frame, -, rfl⟩ := Option.map_eq_some_iff.1 is
      simp
    | primitive p => cases is
    | json j => cases is
  rw [requestsOf_append, requestsOf_append, requestsOf_releasing]
  cases id <;> simp [requestsOf, Signal.request?, others]

/-- Nothing went wrong with putting a result into a property exactly if the
request was sent and carried out. -/
theorem Tells.none_iff (tells : Tells answers v name result new error) :
    error = none ↔ ∃ ticket command, v.assignment? name result = some command ∧
      (ticket, command) ∈ requestsOf new ∧ command.carriedOut (answers ticket) = true := by
  cases tells with
  | unsent => simp [requestsOf]
  | @sent ticket command _ is told =>
    rw [← Option.isNone_iff_eq_none, told]
    refine ⟨fun done => ⟨ticket, command, is, .head _, done⟩, ?_⟩
    rintro ⟨ticket', command', -, there, done⟩
    obtain ⟨rfl, rfl⟩ : ticket' = ticket ∧ command' = command := by
      simpa [requestsOf, Signal.request?] using there
    exact done

/-- What an assignment has evaluated, and what that gave. -/
theorem Ends.gave_iff {key : Key} {e : AssignErrand} {r : Wire.EvaluateReply}
    (ends : Ends answers v key e.before e.call.name e.call.expression e.result
      (AssignErrand.said e) e.after.scopeListings) :
    AssignErrand.Gave answers e r ↔ evaluated? (answers e.before.nextTicket) = some r := by
  constructor
  · rintro ⟨ticket, question, asked, gave⟩
    rwa [ends.assigned.ticket asked] at gave
  · intro gave
    refine ⟨_, { expression := e.call.expression, silent := true }, ?_, gave⟩
    rw [mem_requestsOf]
    generalize AssignErrand.said e = said, e.after.scopeListings = listed, e.result = error at ends
    cases ends <;> simp

/-- **Nothing is said** at the end of an assignment if it was carried out, or
if what was thrown has no text. -/
theorem Ends.none_iff {key : Key}
    (ends : Ends answers v key s name expression error said listed) :
    error = none ↔
      (∃ r ticket command, evaluated? (answers s.nextTicket) = some r ∧
        r.exceptionDetails.isSome = false ∧ v.assignment? name r.result = some command ∧
        (ticket, command) ∈ requestsOf said ∧ command.carriedOut (answers ticket) = true) ∨
      ∃ r, evaluated? (answers s.nextTicket) = some r ∧ r.exceptionDetails.isSome = true ∧
        r.result.Textless := by
  cases ends with
  | failed gave => simp [gave]
  | @thrown r gave threw =>
    rw [Wire.RemoteObject.thrownText?_eq_none]
    refine ⟨fun less => .inr ⟨r, gave, threw, less⟩, ?_⟩
    rintro (⟨r', _, _, gave', quiet, -⟩ | ⟨r', gave', -, less⟩)
    · obtain rfl := Option.some.inj (gave.symm.trans gave')
      simp [threw] at quiet
    · obtain rfl := Option.some.inj (gave.symm.trans gave')
      exact less
  | @put r _ new _ gave threw does tells ticket =>
    rw [tells.none_iff]
    constructor
    · rintro ⟨asked, command, is, there, done⟩
      exact .inl ⟨r, asked, command, gave, threw, is, (mem_put_iff is _ _ _ _).2 there, done⟩
    · rintro (⟨r', asked, command, gave', -, is, there, done⟩ | ⟨r', gave', threw', -⟩)
      · obtain rfl := Option.some.inj (gave.symm.trans gave')
        exact ⟨asked, command, is, (mem_put_iff is _ _ _ _).1 there, done⟩
      · obtain rfl := Option.some.inj (gave.symm.trans gave')
        simp [threw] at threw'

/-! ## One assignment after another -/

/-- **No complaint**: of all assignments made one after another, whatever the
backend answers, those say that nothing went wrong that were carried out, and
those whose expression threw what has no text. -/
theorem no_complaint_iff (is : v.handle? = some h)
    (unasked : ∀ r ∈ start.replies, r.1 < start.nextTicket)
    (run : Flow.Run (assigning v answers) start past s) :
    ∀ e ∈ past, e.result = none ↔
      AssignErrand.CarriedOut answers v e ∨ AssignErrand.Silenced answers e := by
  intro e there
  have ends := (ends_of_run is unasked run).2 e there
  simp only [AssignErrand.CarriedOut, AssignErrand.Silenced, ends.gave_iff]
  exact ends.none_iff

/-- An object. -/
def subject : Handle := ⟨⟨0, 0⟩, "subject", .object, none, none, none, none, none⟩

/-- An expression throws undefined. The next gives a text, which is assigned;
so does the last, but the connection is closed before that is assigned. -/
def undefinedThrown : Ticket → Reply
  | 0 =>
    .ok (.obj
      [("exceptionDetails", .obj
        [("columnNumber", .int 0), ("exceptionId", .int 1), ("lineNumber", .int 0),
          ("text", .str "Uncaught")]),
        ("result", .obj [("type", .str "undefined")])])
  | 1 | 3 => .ok (.obj [("result", .obj [("type", .str "string"), ("value", .str "new")])])
  | 2 => .ok (.obj [("result", .obj [("type", .str "undefined")])])
  | _ => .error .closed

/-- Three assignments to one property. The newest is the first. -/
def assignedThrice : List (Assignment × List (List ScopeNews)) :=
  [(⟨"x", "h()"⟩, [[.answer 3], [.answer 4]]), (⟨"x", "g()"⟩, [[.answer 1], [.answer 2]]),
    (⟨"x", "f()"⟩, [[.answer 0]])]

theorem no_complaint_of_three :
    ∃ past s, Flow.Run (assigning (.handle subject) undefinedThrown)
        (connect 0 (.root ⟨0, "page", .frame⟩) {}) past s ∧
      past.map (fun e : AssignErrand => e.result.isNone) = [false, true, true] ∧
      ∀ e ∈ past, e.result = none ↔ AssignErrand.CarriedOut undefinedThrown (.handle subject) e ∨
        AssignErrand.Silenced undefinedThrown e := by
  have made : Flow.errands (assigning (.handle subject) undefinedThrown)
      (connect 0 (.root ⟨0, "page", .frame⟩) {}) assignedThrice = some (_, _) := rfl
  have run := Flow.run_of_errands made
  exact ⟨_, _, run, rfl, no_complaint_iff rfl (fun r hr => by cases hr) run⟩

/-- **Thrown in silence**: an expression throws undefined, nothing is sent to
assign anything, and the assignment says that nothing went wrong. -/
theorem thrown_in_silence :
    ∃ past s, Flow.Run (assigning (.handle subject) undefinedThrown)
        (connect 0 (.root ⟨0, "page", .frame⟩) {}) past s ∧
      ∃ e ∈ past, e.result = none ∧
        ¬ AssignErrand.CarriedOut undefinedThrown (.handle subject) e := by
  have made : Flow.errands (assigning (.handle subject) undefinedThrown)
      (connect 0 (.root ⟨0, "page", .frame⟩) {}) assignedThrice = some ([_, _, _], _) := rfl
  refine ⟨_, _, Flow.run_of_errands made, _, .tail _ (.tail _ (.head _)), rfl, ?_⟩
  rintro ⟨r, ticket, command, -, -, is, there, -⟩
  obtain rfl := Option.some.inj is
  -- All it has said is the evaluation.
  cases there with
  | tail _ none => cases none

end Session
end DebugClient
