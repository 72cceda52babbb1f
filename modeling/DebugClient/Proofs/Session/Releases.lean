import DebugClient.Proofs.Session.Scopes
/-!
# Releases — what becomes of the result of an assignment

The backend keeps the result of an expression until it is released. An
assignment releases it at its end, once, whether or not it was written, but
not if the expression threw. So what was thrown is never released; and where
a variable was written that its scope has listed, the value that is listed
from then on is an object that has been released.

Every other result is accounted for (`result_accounted_iff`);
`dead_value_listed` is a run with one result of either kind.
-/

namespace DebugClient

/-- The object a signal releases. -/
def Signal.release? : Signal → Option ObjectId
  | .request _ (.releaseObject id) => some id
  | _ => none

/-- The objects that are released among signals. -/
def releasedIn (said : List Signal) : List ObjectId := said.filterMap Signal.release?

theorem releasedIn_append (new said : List Signal) :
    releasedIn (new ++ said) = releasedIn new ++ releasedIn said :=
  List.filterMap_append

/-- Whether the value of a property is an object of an identifier. -/
def Property.Holds (id : ObjectId) (p : Property) : Prop := p.value.bind Value.objectId = some id

instance (id : ObjectId) (p : Property) : Decidable (p.Holds id) :=
  inferInstanceAs (Decidable (_ = _))

theorem Property.PatchedTo.holds {name : String} {result : Wire.RemoteObject} {p q : Property}
    {id : ObjectId} (patched : p.PatchedTo name result q) (named : result.objectId = some id) :
    q.Holds id ↔ p.Holds id ∨ p.name = name := by
  by_cases same : p.name = name
  · rw [PatchedTo, if_pos same] at patched
    obtain ⟨key, rfl⟩ := patched
    have holds : (Value.ofRemote result key).1.objectId = some id := by
      rw [Value.ofRemote_handle named]
      rfl
    exact iff_of_true holds (.inr same)
  · rw [PatchedTo, if_neg same] at patched
    rw [patched]
    exact ⟨.inl, fun either => either.resolve_right same⟩

/-- Where an object was written, properties hold it that held it before, and
those of the name. -/
theorem exists_holds_patched {name : String} {result : Wire.RemoteObject} {ps qs : List Property}
    {id : ObjectId} (changed : List.Forall₂ (Property.PatchedTo name result) ps qs)
    (named : result.objectId = some id) :
    (∃ q ∈ qs, q.Holds id) ↔ (∃ p ∈ ps, p.Holds id) ∨ ∃ p ∈ ps, p.name = name := by
  induction changed with
  | nil => simp
  | @cons p q ps qs patched rest ih =>
    simp only [List.exists_mem_cons_iff]
    rw [ih, patched.holds named]
    exact or_or_or_comm

namespace Session

/-- Whether an object is the value of a variable a scope has listed. -/
def Keeps (key : Key) (id : ObjectId) (s : Session) : Prop :=
  ∃ p ∈ (s.scopeListing key).getD [], p.Holds id

instance (key : Key) (id : ObjectId) (s : Session) : Decidable (s.Keeps key id) :=
  inferInstanceAs (Decidable (∃ p ∈ _, _))

/-- Whether a scope has listed a variable. -/
def Lists (key : Key) (name : String) (s : Session) : Prop :=
  ∃ p ∈ (s.scopeListing key).getD [], p.name = name

/-! ## The system -/

/-- An assignment: the result of an expression to a property. -/
structure Assignment where
  /-- The property. -/
  name : String
  /-- The expression. -/
  expression : String

/-- Assignments to the properties of a value. -/
def assigning (v : Value) (answers : Ticket → Reply) :
    Flow.System Assignment ScopeNews Session (Option String) Unit where
  program c := v.assign c.name c.expression
  outside := ScopeNews.apply answers
  note _ _ _ _ := []

/-- An assignment that was made and has ended. -/
abbrev AssignErrand := Flow.Errand Assignment ScopeNews Session (Option String)

/-- What a session has said during an assignment, newest first. -/
def AssignErrand.said (e : AssignErrand) : List Signal :=
  e.after.saidSince e.before.journal.length

/-- An assignment has evaluated its expression, and the backend gave a result. -/
def AssignErrand.Gave (answers : Ticket → Reply) (e : AssignErrand) (r : Wire.EvaluateReply) :
    Prop :=
  ∃ ticket question, (ticket, .evaluate question) ∈ requestsOf e.said ∧
    evaluated? (answers ticket) = some r

/-- **An object is accounted for** by an assignment: the scope has it as a
value and it was not released, or it was released once and no value that is
listed is of it. -/
def AccountedFor (key : Key) (e : AssignErrand) (id : ObjectId) : Prop :=
  e.after.Keeps key id ∧ id ∉ releasedIn e.said ∨
    ¬ e.after.Keeps key id ∧ (releasedIn e.said).count id = 1

instance (key : Key) (e : AssignErrand) (id : ObjectId) : Decidable (AccountedFor key e id) :=
  inferInstanceAs (Decidable (_ ∧ _ ∨ _ ∧ _))

/-! ## One assignment -/

section Assignments

variable {answers : Ticket → Reply} {key : Key} {s t : Session} {name expression : String}
  {result : Wire.RemoteObject} {id : ObjectId} {listed patched : List (Key × List Property)}
  {new said : List Signal} {r : Wire.EvaluateReply}

theorem releasedIn_releasing (ticket : Ticket) (id : Option ObjectId) :
    releasedIn (releasing ticket id) = id.toList := by
  cases id <;> rfl

theorem requestsOf_releasing (ticket : Ticket) (id : Option ObjectId) :
    requestsOf (releasing ticket id) = (id.map fun id => (ticket, .releaseObject id)).toList := by
  cases id <;> rfl

theorem Put.released (does : Put answers key listed name result new patched) :
    releasedIn new = [] := by
  cases does <;> rfl

theorem Put.evaluates (does : Put answers key listed name result new patched) {ticket : Ticket}
    {question : Wire.Evaluate} : (ticket, .evaluate question) ∉ requestsOf new := by
  cases does <;> simp [requestsOf, Signal.request?]

/-- **Values are of the object** that was put into a property if they were
before, or if the write of a variable that is listed was accepted. -/
theorem Put.keeps (does : Put answers key listed name result new patched)
    (named : result.objectId = some id) :
    (∃ p ∈ (patched.lookup key).getD [], p.Holds id) ↔
      (∃ p ∈ (listed.lookup key).getD [], p.Holds id) ∨
        acceptedIn answers new ≠ [] ∧ ∃ p ∈ (listed.lookup key).getD [], p.name = name := by
  cases does with
  | unsent => simp [acceptedIn]
  | assigned => simp [acceptedIn, Signal.write?]
  | refused scope frame is =>
    rw [acceptedIn_write, is]
    simp [acceptedIn]
  | @accepted ticket _ scope frame is changed others =>
    have some : acceptedIn answers [.request ticket (.setVariableValue scope name
        (Primitive.argumentOfRemote result) frame)] ≠ [] := by
      simp [acceptedIn_write, is]
    -- Only a scope that has a listing has values to patch.
    generalize listed.lookup key = before at changed
    generalize patched.lookup key = after at changed
    cases changed with
    | none => simp
    | some changed => simpa [some] using exists_holds_patched changed named

/-- An assignment evaluates once: what the backend gave is the answer to that. -/
theorem Assigned.ticket (does : Assigned answers key s name expression said listed) {ticket : Ticket}
    {question : Wire.Evaluate} (there : (ticket, .evaluate question) ∈ requestsOf said) :
    ticket = s.nextTicket := by
  cases does with
  | unput => exact congrArg Prod.fst (List.mem_singleton.1 there)
  | put gave threw does ticket' =>
    -- Neither the write nor the release evaluates anything.
    rw [requestsOf_append, requestsOf_append, requestsOf_releasing] at there
    rcases List.mem_append.1 there with last | there
    · simp at last
    rcases List.mem_append.1 there with then' | first
    · exact absurd then' does.evaluates
    · exact congrArg Prod.fst (List.mem_singleton.1 first)

/-- **A result is released once**, at the end, unless it was thrown. -/
theorem Assigned.released (does : Assigned answers key s name expression said listed)
    (gave : evaluated? (answers s.nextTicket) = some r) (named : r.result.objectId = some id) :
    releasedIn said = if r.exceptionDetails.isSome then [] else [id] := by
  cases does with
  | unput threw => rw [if_pos (threw r gave)]; rfl
  | put gave' threw does ticket =>
    obtain rfl := Option.some.inj (gave'.symm.trans gave)
    rw [releasedIn_append, releasedIn_append, does.released, releasedIn_releasing, named,
      if_neg (by simp [threw])]
    rfl

theorem Assigned.keeps (does : Assigned answers key s name expression said listed)
    (gave : evaluated? (answers s.nextTicket) = some r) (named : r.result.objectId = some id)
    (now : t.scopeListings = listed) :
    t.Keeps key id ↔ s.Keeps key id ∨ acceptedIn answers said ≠ [] ∧ s.Lists key name := by
  rw [Keeps, Keeps, Lists, scopeListing, scopeListing, now]
  cases does with
  | unput => simp [acceptedIn, Signal.write?]
  | put gave' threw does ticket =>
    obtain rfl := Option.some.inj (gave'.symm.trans gave)
    rw [does.keeps named, acceptedIn_put]

end Assignments

/-! ## One assignment after another -/

section Runs

variable {answers : Ticket → Reply} {v : Value} {h : Handle} {start s : Session}
  {past : List AssignErrand}

/-- **What becomes of an object** an evaluation gave: when it is released, when
it is the value of a variable that is listed, and when it is accounted for. -/
structure Disposal (answers : Ticket → Reply) (key : Key) (e : AssignErrand)
    (r : Wire.EvaluateReply) (id : ObjectId) : Prop where
  /-- It is released once, unless it was thrown. -/
  released : releasedIn e.said = if r.exceptionDetails.isSome then [] else [id]
  /-- It is listed if it was before, or if the write of a variable that was
  listed was accepted. -/
  keeps : e.after.Keeps key id ↔
    e.before.Keeps key id ∨ acceptedIn answers e.said ≠ [] ∧ e.before.Lists key e.call.name
  /-- It is accounted for if it was either thrown and is listed or neither. -/
  accounted : AccountedFor key e id ↔ (r.exceptionDetails.isSome ↔ e.after.Keeps key id)

/-- What was released and is listed says whether an object is accounted for. -/
theorem accountedFor_iff {key : Key} {e : AssignErrand} {id : ObjectId} {threw : Bool}
    (released : releasedIn e.said = if threw then [] else [id]) :
    AccountedFor key e id ↔ (threw ↔ e.after.Keeps key id) := by
  rw [AccountedFor, released]
  cases threw <;> simp

/-- How every assignment of a run ends. -/
theorem ends_of_run (is : v.handle? = some h)
    (unasked : ∀ r ∈ start.replies, r.1 < start.nextTicket)
    (run : Flow.Run (assigning v answers) start past s) :
    (start.nextTicket ≤ s.nextTicket ∧ Truthful answers start.nextTicket s) ∧
      ∀ e ∈ past, Ends answers v h.key e.before e.call.name e.call.expression e.result
        (AssignErrand.said e) e.after.scopeListings := by
  induction run with
  | start =>
    refine ⟨⟨Nat.le_refl _, fun r hr asked => ?_⟩, by simp⟩
    exact absurd (unasked r hr) (Nat.not_lt.2 asked)
  | @call past s s' c waits a run ends ih =>
    obtain ⟨⟨tickets, truthful⟩, older⟩ := ih
    -- An assignment starts where the last one ended: with nothing said, and true answers.
    have since : Since answers start.nextTicket s [] s.scopeListings s :=
      ⟨rfl, rfl, tickets, truthful⟩
    have outcome : ∃ said listed, Ends answers v h.key s c.name c.expression a said listed ∧
        Since answers start.nextTicket s said listed s' :=
      (yields_ends is since).finish (fun events _ t => aside_meanwhile events t) ends
    obtain ⟨said, listed, does, since⟩ := outcome
    refine ⟨⟨since.tickets, since.truthful⟩, fun e he => ?_⟩
    rcases List.mem_cons.1 he with rfl | old
    · have is : AssignErrand.said ⟨c, waits, s, a, s'⟩ = said := saidSince_eq since.journal
      rw [is, since.listings]
      exact does
    · exact older e old

/-- **What becomes of the result of every assignment** made one after another,
whatever the backend answers: it is released once unless it was thrown, and it
is accounted for unless a scope has it as a value all the same. -/
theorem result_accounted_iff (is : v.handle? = some h)
    (unasked : ∀ r ∈ start.replies, r.1 < start.nextTicket)
    (run : Flow.Run (assigning v answers) start past s) :
    ∀ e ∈ past, ∀ r id, AssignErrand.Gave answers e r → r.result.objectId = some id →
      Disposal answers h.key e r id := by
  intro e there r id gave named
  have does := ((ends_of_run is unasked run).2 e there).assigned
  obtain ⟨ticket, question, asked, gave⟩ := gave
  rw [does.ticket asked] at gave
  have released := does.released gave named
  exact ⟨released, does.keeps gave named rfl, accountedFor_iff released⟩

end Runs

/-- An evaluation gives an object, which is written and released; the one that
follows throws one. -/
def objectThenThrown : Ticket → Reply
  | 0 =>
    .ok (.obj [("result", .obj [("type", .str "object"), ("objectId", .str "made")])])
  | 1 | 2 => .ok (.obj [])
  | _ =>
    .ok (.obj
      [("exceptionDetails", .obj
        [("columnNumber", .int 0), ("exceptionId", .int 1), ("lineNumber", .int 0),
          ("text", .str "Uncaught")]),
        ("result", .obj [("type", .str "object"), ("objectId", .str "thrown")])])

/-- A variable is written twice. The newest assignment is the first. -/
def writtenTwice : List (Assignment × List (List ScopeNews)) :=
  [(⟨"x", "g()"⟩, [[.answer 3]]), (⟨"x", "f()"⟩, [[.answer 0], [.answer 1], [.answer 2]])]

theorem result_accounted_once_written :
    ∃ past s, Flow.Run (assigning (.scope localScope ⟨0, some "frame"⟩) objectThenThrown)
        listedTwice past s ∧
      past.map (fun e : AssignErrand => releasedIn e.said) = [[], ["made"]] ∧
      ∀ e ∈ past, ∀ r id, AssignErrand.Gave objectThenThrown e r → r.result.objectId = some id →
        Disposal objectThenThrown localScope.key e r id := by
  have made : Flow.errands (assigning (.scope localScope ⟨0, some "frame"⟩) objectThenThrown)
      listedTwice writtenTwice = some (_, _) := rfl
  have run := Flow.run_of_errands made
  exact ⟨_, _, run, rfl, result_accounted_iff rfl (fun r hr => by cases hr) run⟩

/-- **A value that is listed is dead**: an object is written to a variable that
its scope has listed, and then released. And what the next expression throws is
released by nobody. -/
theorem dead_value_listed :
    ∃ past s, Flow.Run (assigning (.scope localScope ⟨0, some "frame"⟩) objectThenThrown)
        listedTwice past s ∧
      (∃ e ∈ past, ∃ r, AssignErrand.Gave objectThenThrown e r ∧ r.result.objectId = some "made" ∧
        e.after.Keeps localScope.key "made" ∧ ¬ AccountedFor localScope.key e "made") ∧
      ∃ e ∈ past, ∃ r, AssignErrand.Gave objectThenThrown e r ∧ r.result.objectId = some "thrown" ∧
        ¬ e.after.Keeps localScope.key "thrown" ∧ ¬ AccountedFor localScope.key e "thrown" := by
  have made : Flow.errands (assigning (.scope localScope ⟨0, some "frame"⟩) objectThenThrown)
      listedTwice writtenTwice = some ([_, _], _) := rfl
  refine ⟨_, _, Flow.run_of_errands made,
    ⟨_, .tail _ (.head _), _, ⟨0, _, .tail _ (.tail _ (.head _)), rfl⟩, rfl, ?_, ?_⟩,
    ⟨_, .head _, _, ⟨3, _, .head _, rfl⟩, rfl, ?_, ?_⟩⟩
  all_goals decide

end Session
end DebugClient
