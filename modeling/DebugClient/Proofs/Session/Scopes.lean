import DebugClient.Proofs.Flow.Errands
import DebugClient.Proofs.Lookup
import DebugClient.Proofs.Session.Journal
import DebugClient.Proofs.Session.Requests
import DebugClient.Session.Assignment
import Mathlib.Data.List.Forall2
/-!
# Scopes — what a scope has listed

What a scope has listed is kept, and a variable that is written is changed
there. A write goes through an evaluation, a look at the scope and the
session, and a command, and each can fail; what was listed changes only
where the command was accepted, and then only in the values of that name.
No variable is listed again. How an assignment ends, with which error and what
is listed then, is one relation (`Ends`).

The backend is a function here: `answers` is what it answers to the
request of each ticket, and only when an answer comes in is left open.
-/

namespace DebugClient

/-- Whether a command lists properties. -/
def Wire.Command.lists : Wire.Command → Bool
  | .getProperties _ => true
  | _ => false

/-- The variable a signal asks to be written: the ticket of the request, the
name and the value. -/
def Signal.write? : Signal → Option (Ticket × String × Wire.CallArgument)
  | .request ticket (.setVariableValue _ name value _) => some (ticket, name, value)
  | _ => none

/-- Whether an answer accepts the request. -/
def accepts : Reply → Bool
  | .ok j => (Wire.Reply.acknowledged j).isSome
  | .error _ => false

/-- The writes among signals that were accepted. -/
def acceptedIn (answers : Ticket → Reply) (signals : List Signal) :
    List (Ticket × String × Wire.CallArgument) :=
  (signals.filterMap Signal.write?).filter fun w => accepts (answers w.1)

theorem acceptedIn_append (answers : Ticket → Reply) (new said : List Signal) :
    acceptedIn answers (new ++ said) = acceptedIn answers new ++ acceptedIn answers said := by
  simp [acceptedIn]

theorem acceptedIn_write (answers : Ticket → Reply) (ticket : Ticket) (scope : Nat) (name : String)
    (value : Wire.CallArgument) (frame : CallFrameId) (said : List Signal) :
    acceptedIn answers (.request ticket (.setVariableValue scope name value frame) :: said) =
      if accepts (answers ticket) then (ticket, name, value) :: acceptedIn answers said
      else acceptedIn answers said := by
  rw [acceptedIn, List.filterMap_cons_some (by rfl), List.filter_cons]
  rfl

/-- What an evaluation gave, if its answer can be read. -/
def evaluated? : Reply → Option Wire.EvaluateReply
  | .ok j => Wire.Reply.evaluation j
  | .error _ => none

/-- An answer to an evaluation can be read, or is an error. -/
theorem decode_evaluation (command : Wire.Command) (reply : Reply) :
    (∃ e, Work.decode command Wire.Reply.evaluation reply = .error e ∧ evaluated? reply = none) ∨
      ∃ r, Work.decode command Wire.Reply.evaluation reply = .ok r ∧ evaluated? reply = some r := by
  cases reply with
  | error e => exact .inl ⟨e, rfl, rfl⟩
  | ok j =>
    rw [Work.decode, evaluated?]
    cases Wire.Reply.evaluation j with
    | none => exact .inl ⟨_, rfl, rfl⟩
    | some r => exact .inr ⟨r, rfl, rfl⟩

/-- An answer to a command accepts it, or is an error. -/
theorem decode_acknowledged (command : Wire.Command) (reply : Reply) :
    (∃ e, Work.decode command Wire.Reply.acknowledged reply = .error e ∧ accepts reply = false) ∨
      Work.decode command Wire.Reply.acknowledged reply = .ok () ∧ accepts reply = true := by
  cases reply with
  | error e => exact .inl ⟨e, rfl, rfl⟩
  | ok j =>
    rw [Work.decode, accepts]
    cases Wire.Reply.acknowledged j with
    | none => exact .inl ⟨_, rfl, rfl⟩
    | some u => exact .inr ⟨rfl, rfl⟩

/-- Whether an answer says that a command was carried out: a call has given
something and thrown nothing, and any other command is accepted. -/
def Wire.Command.carriedOut (reply : Reply) : Wire.Command → Bool
  | .callFunctionOn _ => (evaluated? reply).any (·.exceptionDetails.isNone)
  | _ => accepts reply

/-- The request that assigns a value to a property: a call on an object, and
the write of a variable of a scope that is bound to a frame. -/
def Value.assignment? (name : String) (value : Wire.RemoteObject) : Value → Option Wire.Command
  | .handle h =>
    some (.callFunctionOn
      { declaration := Handle.assigning, objectId := h.objectId,
        arguments := [.ofString name, Primitive.argumentOfRemote value] })
  | .scope _ ref =>
    ref.callFrameId.map
      (.setVariableValue ref.number name (Primitive.argumentOfRemote value) ·)
  | _ => none

/-- A property and what it is changed to where a variable of a name was
written: of that name only the value is another, and else nothing is. -/
def Property.PatchedTo (name : String) (result : Wire.RemoteObject) (p q : Property) : Prop :=
  if p.name = name then ∃ key, q = { p with value := some (Value.ofRemote result key).1 } else q = p

/-- **Every property of the name is changed**, and nothing else. -/
theorem Property.patch_patched (name : String) (result : Wire.RemoteObject) (ps : List Property)
    (key : Key) :
    List.Forall₂ (Property.PatchedTo name result) ps (Property.patch name result ps key).1 := by
  induction ps generalizing key with
  | nil => exact .nil
  | cons p rest ih =>
    by_cases same : p.name = name
    · have is : (Property.patch name result (p :: rest) key).1 =
          { p with value := some (Value.ofRemote result key).1 } ::
            (Property.patch name result rest (Value.ofRemote result key).2).1 := by
        rw [Property.patch, if_pos same]
        rfl
      rw [is]
      refine .cons ?_ (ih _)
      rw [PatchedTo, if_pos same]
      exact ⟨key, rfl⟩
    · have is : (Property.patch name result (p :: rest) key).1 =
          p :: (Property.patch name result rest key).1 := by
        rw [Property.patch, if_neg same]
        rfl
      rw [is]
      refine .cons ?_ (ih _)
      rw [PatchedTo, if_neg same]

namespace Session

/-! ## The system -/

/-- What is done with the object of a scope. -/
inductive ScopeCall where
  /-- Its own properties are listed. -/
  | listOwn (preview nonIndexedOnly : Bool)
  /-- All its properties are listed. -/
  | listAll (accessorsOnly preview nonIndexedOnly : Bool)
  /-- Its properties are listed with the accessors it inherits. -/
  | listInherited (preview nonIndexedOnly : Bool)
  /-- The result of an expression is written to a property. -/
  | assign (name expression : String)

/-- The work of a call on the object of a scope. -/
def ScopeCall.work (h : Handle) (ref : ScopeRef) : ScopeCall → Work (Listing ⊕ Option String)
  | listOwn preview nonIndexedOnly => do
    return .inl (← (Value.scope h ref).listOwn preview nonIndexedOnly)
  | listAll accessorsOnly preview nonIndexedOnly => do
    return .inl (← (Value.scope h ref).listAll accessorsOnly preview nonIndexedOnly)
  | listInherited preview nonIndexedOnly => do
    return .inl (← (Value.scope h ref).listInherited preview nonIndexedOnly)
  | assign name expression => do
    return .inr (← (Value.scope h ref).assign name expression)

/-- What happens outside. -/
inductive ScopeNews where
  /-- The request of a ticket is answered. -/
  | answer (ticket : Ticket)
  /-- The target is let go. -/
  | gone

/-- What news does to a session. -/
def ScopeNews.apply (answers : Ticket → Reply) : ScopeNews → Session → Session
  | answer ticket, s => s.answer ticket (answers ticket)
  | gone, s => s.letGo

/-- Whatever is done with the object of a scope. -/
def scoping (h : Handle) (ref : ScopeRef) (answers : Ticket → Reply) :
    Flow.System ScopeCall ScopeNews Session (Listing ⊕ Option String) Unit where
  program := ScopeCall.work h ref
  outside := ScopeNews.apply answers
  note _ _ _ _ := []

/-- A call on the object of a scope that was made and has ended. -/
abbrev ScopeErrand := Flow.Errand ScopeCall ScopeNews Session (Listing ⊕ Option String)

/-- What a session has said during a call, newest first. -/
def ScopeErrand.said (e : ScopeErrand) : List Signal := e.after.saidSince e.before.journal.length

/-- **A call keeps what was listed** under a key: it lists nothing, and
changes only the values of a name it has written, if that was accepted. -/
structure KeepsListing (answers : Ticket → Reply) (key : Key) (e : ScopeErrand) : Prop where
  /-- Nothing is listed again. -/
  lists : ∀ command ∈ commandsOf e.said, command.lists = false
  /-- Unless a write was accepted, everything is as it was. -/
  same : acceptedIn answers e.said = [] → e.after.scopeListings = e.before.scopeListings
  /-- A write that was accepted is the only one, and of the variable of the
  call: what was written is what the variable is changed to. -/
  written : ∀ w ∈ acceptedIn answers e.said, acceptedIn answers e.said = [w] ∧
    ∃ expression result properties patched, e.call = .assign w.2.1 expression ∧
      w.2.2 = Primitive.argumentOfRemote result ∧
      e.before.scopeListing key = some properties ∧ e.after.scopeListing key = some patched ∧
      List.Forall₂ (Property.PatchedTo w.2.1 result) properties patched ∧
      ∀ other ≠ key, e.after.scopeListing other = e.before.scopeListing other

/-! ## What comes of a call -/

section Calls

variable {answers : Ticket → Reply} {mark : Ticket} {key : Key} {said : List Signal}
  {listings : List (Key × List Property)} {s₀ s t : Session}

/-- The answers there are to requests from a ticket on are the backend's. -/
def Truthful (answers : Ticket → Reply) (mark : Ticket) (s : Session) : Prop :=
  ∀ r ∈ s.replies, mark ≤ r.1 → r.2 = answers r.1

/-- **Since a state** a session has said something, and has listings. -/
structure Since (answers : Ticket → Reply) (mark : Ticket) (s₀ : Session) (said : List Signal)
    (listings : List (Key × List Property)) (s : Session) : Prop where
  /-- What it has said. -/
  journal : s.journal = said ++ s₀.journal
  /-- What scopes have listed. -/
  listings : s.scopeListings = listings
  /-- Tickets go on from the mark. -/
  tickets : mark ≤ s.nextTicket
  /-- Answers are the backend's. -/
  truthful : Truthful answers mark s

/-- What may happen while a call waits. -/
def Aside (answers : Ticket → Reply) (mark : Ticket) (s t : Session) : Prop :=
  t.journal = s.journal ∧ t.scopeListings = s.scopeListings ∧ t.nextTicket = s.nextTicket ∧
    (Truthful answers mark s → Truthful answers mark t)

theorem aside_meanwhile (events : List ScopeNews) (s : Session) :
    Aside answers mark s (Flow.meanwhile (ScopeNews.apply answers) events s) := by
  induction events generalizing s with
  | nil => exact ⟨rfl, rfl, rfl, id⟩
  | cons event rest ih =>
    obtain ⟨journal, listings, tickets, truthful⟩ := ih (event.apply answers s)
    cases event with
    | gone => exact ⟨journal, listings, tickets, truthful⟩
    | answer ticket =>
      refine ⟨journal, listings, tickets, fun before => truthful fun r hr _ => ?_⟩
      rcases List.mem_cons.1 hr with rfl | old
      · rfl
      · exact before r old ‹_›

theorem Since.aside (h : Since answers mark s₀ said listings s) (aside : Aside answers mark s t) :
    Since answers mark s₀ said listings t := by
  obtain ⟨journal, same, tickets, truthful⟩ := aside
  exact ⟨journal.trans h.journal, same.trans h.listings, tickets ▸ h.tickets, truthful h.truthful⟩

/-- Who holds the session does not matter. -/
theorem Since.held (h : Since answers mark s₀ said listings s) (n : Nat) :
    Since answers mark s₀ said listings { s with holders := n } :=
  ⟨h.journal, h.listings, h.tickets, h.truthful⟩

theorem Since.issue (h : Since answers mark s₀ said listings s) (command : Wire.Command) :
    Since answers mark s₀ (.request s.nextTicket command :: said) listings (s.issue command).2 :=
  ⟨congrArg (_ :: ·) h.journal, h.listings, Nat.le_succ_of_le h.tickets, h.truthful⟩

theorem Since.take (h : Since answers mark s₀ said listings s) (ticket : Ticket) :
    Since answers mark s₀ said listings (s.takeReply ticket).2 :=
  ⟨h.journal, h.listings, h.tickets, fun r hr => h.truthful r (List.mem_of_mem_filter hr)⟩

/-- What is taken is what the backend answers. -/
theorem Truthful.taken (h : Truthful answers mark s) {ticket : Ticket} (asked : mark ≤ ticket)
    (answered : s.isAnswered ticket = true) : (s.takeReply ticket).1 = answers ticket := by
  obtain ⟨reply, found⟩ := Lookup.exists_lookup answered
  have is := h _ (Lookup.mem_of_lookup found) asked
  simp [takeReply, found, ← is]

/-- Where answers are the backend's, a call takes what the backend answers. -/
theorem Truthful.obeys_call {P ρ α : Type} {π : Flow.Protocol P Session ρ} {p : P}
    {command : Wire.Command} {read : Json → Option α}
    {Q : P → Session → Except LinkError α → Session → Prop}
    (given : ∀ t, π.given t → Truthful answers mark t) (asked : mark ≤ s.nextTicket) :
    (Work.call command read).Obeys π Q p s₀ s ↔
      ∃ q, π.moves p s₀ q (s.issue command).2 ∧ ∀ t, π.given t → t.isAnswered s.nextTicket = true →
        Q q t (Work.decode command read (answers s.nextTicket)) (t.takeReply s.nextTicket).2 := by
  rw [Session.obeys_call]
  refine exists_congr fun q => and_congr_right fun _ => ?_
  refine forall_congr' fun t => forall_congr' fun is => forall_congr' fun answered => ?_
  rw [(given t is).taken asked answered]

/-- A command is sent, and its answer taken. -/
theorem yields_call {α : Type} {command : Wire.Command} {read : Json → Option α}
    {Q : Except LinkError α → Session → Prop} (h : Since answers mark s₀ said listings s)
    (next : ∀ t, Since answers mark s₀ (.request s.nextTicket command :: said) listings t →
      Q (Work.decode command read (answers s.nextTicket)) t) :
    (Work.call command read).Yields (Aside answers mark) Q s := by
  intro t aside answered
  have waited := (h.issue command).aside aside
  have is := waited.truthful.taken h.tickets answered
  change Q (Work.decode command read (t.takeReply s.nextTicket).1) (t.takeReply s.nextTicket).2
  rw [is]
  exact next _ (waited.take _)

theorem yields_send {command : Wire.Command} {Q : Unit → Session → Prop}
    (h : Since answers mark s₀ said listings s)
    (next : ∀ t,
      Since answers mark s₀ (.request s.nextTicket command :: said) listings t → Q () t) :
    (Work.send command).Yields (Aside answers mark) Q s := by
  intro t aside _
  exact next _ (((h.issue command).aside aside).take _)

/-- What listings have become of what a call has said: nothing was written,
or the variable of the call, and what was listed is changed there. -/
def Wrote (answers : Ticket → Reply) (key : Key) (s₀ : Session) (c : ScopeCall)
    (said : List Signal) (listings : List (Key × List Property)) : Prop :=
  acceptedIn answers said = [] ∧ listings = s₀.scopeListings ∨
    ∃ ticket name expression result properties patched, c = .assign name expression ∧
      acceptedIn answers said = [(ticket, name, Primitive.argumentOfRemote result)] ∧
      s₀.scopeListing key = some properties ∧ listings.lookup key = some patched ∧
      List.Forall₂ (Property.PatchedTo name result) properties patched ∧
      ∀ other ≠ key, listings.lookup other = s₀.scopeListing other

/-- What comes of a call. -/
def ScopeOutcome (answers : Ticket → Reply) (mark : Ticket) (key : Key) (s₀ : Session)
    (c : ScopeCall) (t : Session) : Prop :=
  ∃ said listings, Since answers mark s₀ said listings t ∧
    (∀ command ∈ commandsOf said, command.lists = false) ∧ Wrote answers key s₀ c said listings

/-- A variable is changed in what its scope has listed, and all else but the
next key is as it was. -/
theorem patchListing_eq (name : String) (result : Wire.RemoteObject) {properties : List Property}
    (cached : s.scopeListing key = some properties) :
    ∃ next patched, List.Forall₂ (Property.PatchedTo name result) properties patched ∧
      s.patchListing key name result =
        { s with
          nextKey := next
          scopeListings := (key, patched) :: s.scopeListings.filter (·.1 != key) } := by
  refine ⟨(Property.patch name result properties s.nextKey).2, _,
    Property.patch_patched name result properties s.nextKey, ?_⟩
  rw [patchListing, cached]
  rfl

/-- A variable is written, without error where the write is accepted. -/
theorem yields_setVariable {scope : Nat} {name : String} {value : Wire.CallArgument}
    {frame : CallFrameId} {Q : Option String → Session → Prop}
    (h : Since answers mark s₀ said listings s)
    (next : ∀ error t, error.isNone = accepts (answers s.nextTicket) →
      Since answers mark s₀
        (.request s.nextTicket (.setVariableValue scope name value frame) :: said) listings t →
      Q error t) :
    (setVariable scope name value frame).Yields (Aside answers mark) Q s := by
  rw [setVariable, Work.command, Flow.yields_seq]
  refine yields_call h fun t since => ?_
  obtain ⟨e, is, refused⟩ | ⟨is, accepted⟩ :=
    decode_acknowledged (.setVariableValue scope name value frame) (answers s.nextTicket)
  · rw [is]
    exact next _ t (by rw [refused]; rfl) since
  · rw [is]
    exact next none t (by rw [accepted]; rfl) since

section Writes

variable {h : Handle} {ref : ScopeRef} {name expression : String} {result : Wire.RemoteObject}
  {properties : List Property} {listed : List (Key × List Property)} {v : Value}

/-- **What comes of putting a result** into a property: what is said, and what
scopes have listed then. -/
inductive Put (answers : Ticket → Reply) (key : Key) (listed : List (Key × List Property))
    (name : String) (result : Wire.RemoteObject) :
    List Signal → List (Key × List Property) → Prop where
  /-- The scope has no frame, or the session is gone. -/
  | unsent : Put answers key listed name result [] listed
  /-- A property of an object is assigned. -/
  | assigned (ticket : Ticket) (call : Wire.FunctionCall) :
      Put answers key listed name result [.request ticket (.callFunctionOn call)] listed
  /-- The write of a variable is not accepted. -/
  | refused {ticket : Ticket} (scope : Nat) (frame : CallFrameId)
      (is : accepts (answers ticket) = false) :
      Put answers key listed name result
        [.request ticket (.setVariableValue scope name (Primitive.argumentOfRemote result) frame)]
        listed
  /-- The write of a variable is accepted. What its scope has listed, if it
  has, is changed in the values of that name. -/
  | accepted {ticket : Ticket} {patched : List (Key × List Property)} (scope : Nat)
      (frame : CallFrameId) (is : accepts (answers ticket) = true)
      (changed : Option.Rel (List.Forall₂ (Property.PatchedTo name result)) (listed.lookup key)
        (patched.lookup key))
      (others : ∀ other ≠ key, patched.lookup other = listed.lookup other) :
      Put answers key listed name result
        [.request ticket (.setVariableValue scope name (Primitive.argumentOfRemote result) frame)]
        patched

/-- **What is said to put a result** into a property, and the error that is
given. -/
inductive Tells (answers : Ticket → Reply) (v : Value) (name : String)
    (result : Wire.RemoteObject) : List Signal → Option String → Prop where
  /-- Nothing is sent, which is an error. -/
  | unsent (error : String) : Tells answers v name result [] (some error)
  /-- The request is sent, and there is an error unless it is carried out. -/
  | sent {ticket : Ticket} {command : Wire.Command} {error : Option String}
      (is : v.assignment? name result = some command)
      (told : error.isNone = command.carriedOut (answers ticket)) :
      Tells answers v name result [.request ticket command] error

/-- What a session has become where a result was put into a property. -/
def PutTo (answers : Ticket → Reply) (mark : Ticket) (s₀ : Session) (said : List Signal)
    (listed : List (Key × List Property)) (v : Value) (key : Key) (name : String)
    (result : Wire.RemoteObject) (error : Option String) (t : Session) : Prop :=
  ∃ new patched, Put answers key listed name result new patched ∧
    Tells answers v name result new error ∧ Since answers mark s₀ (new ++ said) patched t

/-- The release of an object, if there is one. -/
def releasing (ticket : Ticket) (id : Option ObjectId) : List Signal :=
  (id.map fun id => Signal.request ticket (.releaseObject id)).toList

/-- **How an assignment ends**: with which error, what is said, newest first,
and what scopes have listed then. -/
inductive Ends (answers : Ticket → Reply) (v : Value) (key : Key) (s : Session)
    (name expression : String) :
    Option String → List Signal → List (Key × List Property) → Prop where
  /-- The evaluation fails, which is an error. -/
  | failed (gave : evaluated? (answers s.nextTicket) = none) (error : String) :
      Ends answers v key s name expression (some error)
        [.request s.nextTicket (.evaluate { expression, silent := true })] s.scopeListings
  /-- The evaluation throws. The error is the text of what was thrown. -/
  | thrown {r : Wire.EvaluateReply} (gave : evaluated? (answers s.nextTicket) = some r)
      (threw : r.exceptionDetails.isSome = true) :
      Ends answers v key s name expression r.result.thrownText?
        [.request s.nextTicket (.evaluate { expression, silent := true })] s.scopeListings
  /-- The result is put into the property, and then released. -/
  | put {r : Wire.EvaluateReply} {error : Option String} {new : List Signal}
      {listed : List (Key × List Property)}
      (gave : evaluated? (answers s.nextTicket) = some r) (threw : r.exceptionDetails.isSome = false)
      (does : Put answers key s.scopeListings name r.result new listed)
      (tells : Tells answers v name r.result new error) (ticket : Ticket) :
      Ends answers v key s name expression error
        (releasing ticket r.result.objectId ++
          (new ++ [.request s.nextTicket (.evaluate { expression, silent := true })])) listed

/-- **What comes of an assignment**: what is said, newest first, and what
scopes have listed then. -/
inductive Assigned (answers : Ticket → Reply) (key : Key) (s : Session) (name expression : String) :
    List Signal → List (Key × List Property) → Prop where
  /-- The evaluation fails, or throws. -/
  | unput (threw : ∀ r, evaluated? (answers s.nextTicket) = some r →
        r.exceptionDetails.isSome = true) :
      Assigned answers key s name expression
        [.request s.nextTicket (.evaluate { expression, silent := true })] s.scopeListings
  /-- The result is put into the property, and then released. -/
  | put {r : Wire.EvaluateReply} {new : List Signal} {listed : List (Key × List Property)}
      (gave : evaluated? (answers s.nextTicket) = some r) (threw : r.exceptionDetails.isSome = false)
      (does : Put answers key s.scopeListings name r.result new listed) (ticket : Ticket) :
      Assigned answers key s name expression
        (releasing ticket r.result.objectId ++
          (new ++ [.request s.nextTicket (.evaluate { expression, silent := true })])) listed

/-- A write of a variable of a frame changes what its scope has listed if it
is accepted, and nothing otherwise, which is an error. -/
theorem yields_putIn {frame : CallFrameId} (bound : ref.callFrameId = some frame)
    (since : Since answers mark s₀ said listed s) :
    (ref.putIn frame h name result).Yields (Aside answers mark)
      (PutTo answers mark s₀ said listed (.scope h ref) h.key name result) s := by
  have asks : (Value.scope h ref).assignment? name result = some
      (.setVariableValue ref.number name (Primitive.argumentOfRemote result) frame) := by
    rw [Value.assignment?, bound]
    rfl
  rw [ScopeRef.putIn, Flow.yields_seq]
  refine yields_setVariable since fun error t is written => ?_
  -- There is an error exactly if the write is not accepted.
  cases error with
  | some error =>
    exact ⟨[_], listed, .refused ref.number frame is.symm, .sent asks is, written⟩
  | none =>
    have same : t.scopeListing h.key = listed.lookup h.key := by
      rw [scopeListing, written.listings]
    change PutTo answers mark s₀ said listed _ h.key name result none
      (t.patchListing h.key name result)
    cases cached : listed.lookup h.key with
    | none =>
      have unchanged : t.patchListing h.key name result = t := by
        rw [patchListing, same, cached]
      rw [unchanged]
      refine ⟨[_], listed, .accepted ref.number frame is.symm ?_ fun _ _ => rfl, .sent asks is,
        written⟩
      rw [cached]
      exact .none
    | some properties =>
      obtain ⟨next, patched, changed, patches⟩ := patchListing_eq name result (same.trans cached)
      rw [patches]
      refine ⟨[_], (h.key, patched) :: t.scopeListings.filter (·.1 != h.key),
        .accepted ref.number frame is.symm ?_ fun other different => ?_, .sent asks is,
        ⟨written.journal, rfl, written.tickets, written.truthful⟩⟩
      · rw [cached, Lookup.lookup_cons_ite, if_pos rfl]
        exact .some changed
      · rw [Lookup.lookup_cons_ite, if_neg different, Lookup.lookup_filter_ne different,
          written.listings]

/-- A write of a variable takes a frame, and a session that exists. -/
theorem yields_putScope (since : Since answers mark s₀ said listed s) :
    (ref.put h name result).Yields (Aside answers mark)
      (PutTo answers mark s₀ said listed (.scope h ref) h.key name result) s := by
  unfold ScopeRef.put
  cases bound : ref.callFrameId with
  | none => exact ⟨[], listed, .unsent, .unsent _, since⟩
  | some frame =>
    dsimp only
    rw [Flow.yields_seq, Flow.yields_look]
    split
    · rw [holding, Flow.yields_between]
      refine (yields_putIn bound (since.held _)).mono fun error t outcome => ?_
      obtain ⟨new, patched, put, tells, since⟩ := outcome
      exact ⟨new, patched, put, tells, since.held _⟩
    · exact ⟨[], listed, .unsent, .unsent _, since⟩

theorem yields_put (is : v.handle? = some h) (since : Since answers mark s₀ said listed s) :
    (v.put h name result).Yields (Aside answers mark)
      (PutTo answers mark s₀ said listed v h.key name result) s := by
  cases v with
  | scope h' ref =>
    obtain rfl := Option.some.inj is
    exact yields_putScope since
  | handle h' =>
    obtain rfl := Option.some.inj is
    change Flow.Yields _ _ (Handle.put h' name result) s
    rw [Handle.put, Flow.yields_seq]
    refine yields_call since fun t called => ?_
    have sent (error : Option String)
        (told : error.isNone = (evaluated? (answers s.nextTicket)).any
          (·.exceptionDetails.isNone)) :
        PutTo answers mark s₀ said listed (.handle h') h'.key name result error t :=
      ⟨[_], listed, .assigned _ _, .sent rfl told, called⟩
    obtain ⟨e, decoded, gave⟩ | ⟨r, decoded, gave⟩ := decode_evaluation
        (.callFunctionOn
          { declaration := Handle.assigning, objectId := h'.objectId,
            arguments := [.ofString name, Primitive.argumentOfRemote result] })
        (answers s.nextTicket) <;> rw [decoded]
    · exact sent _ (by rw [gave]; rfl)
    · refine sent r.complaint? ?_
      rw [gave, Wire.EvaluateReply.complaint?]
      cases threw : r.exceptionDetails <;> simp [threw]
  | primitive p => cases is
  | json j => cases is

/-- **An assignment** evaluates its expression, puts the result into the
property unless it threw, and then releases it. -/
theorem yields_ends (is : v.handle? = some h)
    (since : Since answers mark s [] s.scopeListings s) :
    (v.assign name expression).Yields (Aside answers mark)
      (fun error t => ∃ said listed, Ends answers v h.key s name expression error said listed ∧
        Since answers mark s said listed t) s := by
  unfold Value.assign
  rw [is]
  dsimp only
  rw [Flow.yields_seq]
  refine yields_call since fun t evaluated => ?_
  obtain ⟨e, decoded, gave⟩ | ⟨r, decoded, gave⟩ := decode_evaluation
      (.evaluate { expression, silent := true }) (answers s.nextTicket) <;> rw [decoded]
  · exact ⟨_, _, .failed gave _, evaluated⟩
  dsimp only
  cases threw : r.exceptionDetails.isSome with
  | true => exact ⟨_, _, .thrown gave threw, evaluated⟩
  | false =>
    simp only [Bool.false_eq_true, if_false]
    rw [Flow.yields_seq]
    refine (yields_put is evaluated).mono fun error u outcome => ?_
    obtain ⟨new, listed, put, tells, since⟩ := outcome
    have ends (ticket : Ticket) : Ends answers v h.key s name expression error _ listed :=
      .put gave threw put tells ticket
    cases named : r.result.objectId with
    | none =>
      have is := ends 0
      rw [named] at is
      exact ⟨_, listed, is, since⟩
    | some id =>
      have is := ends u.nextTicket
      rw [named] at is
      rw [Flow.yields_seq]
      exact yields_send since fun v released => ⟨_, listed, is, released⟩

theorem Ends.assigned {error : Option String}
    (ends : Ends answers v key s name expression error said listed) :
    Assigned answers key s name expression said listed := by
  cases ends with
  | failed gave => exact .unput fun r other => by simp [gave] at other
  | thrown gave threw =>
    refine .unput fun r' other => ?_
    obtain rfl := Option.some.inj (gave.symm.trans other)
    exact threw
  | put gave threw does _ ticket => exact .put gave threw does ticket

theorem yields_assign (is : v.handle? = some h)
    (since : Since answers mark s [] s.scopeListings s) :
    (v.assign name expression).Yields (Aside answers mark)
      (fun _ t => ∃ said listed, Assigned answers h.key s name expression said listed ∧
        Since answers mark s said listed t) s := by
  refine (yields_ends is since).mono fun error t outcome => ?_
  obtain ⟨said, listed, ends, since⟩ := outcome
  exact ⟨said, listed, ends.assigned, since⟩

/-- Only what is said to put a result into a property can be a write. -/
theorem acceptedIn_put (answers : Ticket → Reply) (new : List Signal) (ticket ticket' : Ticket)
    (id : Option ObjectId) (question : Wire.Evaluate) :
    acceptedIn answers (releasing ticket id ++ (new ++ [.request ticket' (.evaluate question)])) =
      acceptedIn answers new := by
  have released : acceptedIn answers (releasing ticket id) = [] := by cases id <;> rfl
  rw [acceptedIn_append, acceptedIn_append, released, List.nil_append]
  exact List.append_nil _

/-- Of a scope that has listed its variables, an assignment lists nothing, and
changes what was listed if its write is accepted. -/
theorem Assigned.wrote (cached : s.scopeListing key = some properties)
    (does : Assigned answers key s name expression said listings) :
    (∀ command ∈ commandsOf said, command.lists = false) ∧
      Wrote answers key s (.assign name expression) said listings := by
  cases does with
  | unput threw => exact ⟨by simp [commandsOf, Signal.command?, Wire.Command.lists], .inl ⟨rfl, rfl⟩⟩
  | @put r new listed gave threw does ticket =>
    have released : ∀ command ∈ commandsOf (releasing ticket r.result.objectId),
        command.lists = false := by
      cases r.result.objectId <;> simp [releasing, commandsOf, Signal.command?, Wire.Command.lists]
    have quiet : ∀ command ∈ commandsOf new, command.lists = false := by
      cases does <;> simp [commandsOf, Signal.command?, Wire.Command.lists]
    constructor
    · intro command there
      rw [commandsOf_append, commandsOf_append] at there
      rcases List.mem_append.1 there with last | there
      · exact released command last
      rcases List.mem_append.1 there with then' | first
      · exact quiet command then'
      · obtain rfl := List.mem_singleton.1 first
        rfl
    rw [Wrote, acceptedIn_put]
    cases does with
    | unsent => exact .inl ⟨rfl, rfl⟩
    | assigned => exact .inl ⟨rfl, rfl⟩
    | refused scope frame is =>
      rw [acceptedIn_write, is]
      exact .inl ⟨rfl, rfl⟩
    | @accepted ticket' _ scope frame is changed others =>
      rw [acceptedIn_write, if_pos is]
      rw [← scopeListing, cached] at changed
      cases now : listings.lookup key with
      | none =>
        rw [now] at changed
        cases changed
      | some patched =>
        rw [now] at changed
        cases changed with
        | some changed =>
          exact .inr ⟨ticket', name, expression, r.result, properties, patched, rfl, rfl, cached, rfl,
            changed, others⟩

end Writes

/-! ## Listings -/

section Listings

variable {h : Handle} {ref : ScopeRef} {properties : List Property}

/-- A scope that has listed its variables does nothing to list them. -/
theorem yields_list {own : Bool} (cached : s.scopeListing h.key = some properties) :
    (ref.list h own).Yields (Aside answers mark) (fun _ t => t = s) s := by
  rw [ScopeRef.list, Flow.yields_seq, Flow.yields_look, cached]
  rfl

theorem yields_listAll {accessorsOnly preview nonIndexedOnly own : Bool}
    (cached : s.scopeListing h.key = some properties) :
    ((Value.scope h ref).list own accessorsOnly nonIndexedOnly preview).Yields (Aside answers mark)
      (fun _ t => t = s) s := by
  cases accessorsOnly with
  | true => rfl
  | false => exact yields_list cached

theorem yields_listInherited {preview nonIndexedOnly : Bool}
    (cached : s.scopeListing h.key = some properties) :
    ((Value.scope h ref).listInherited preview nonIndexedOnly).Yields (Aside answers mark)
      (fun _ t => t = s) s := by
  rw [Value.listInherited, Flow.yields_seq]
  -- The accessors a scope inherits are none, so only its own variables are left to list.
  change (((Value.scope h ref).listOwn preview nonIndexedOnly).bind _).Yields _ _ s
  rw [Flow.yields_bind]
  exact yields_listAll cached

/-- **What comes of every call** on the object of a scope. -/
theorem yields_scoping (c : ScopeCall) (cached : s.scopeListing h.key = some properties)
    (tickets : mark ≤ s.nextTicket) (truthful : Truthful answers mark s) :
    ((scoping h ref answers).program c).Yields (Aside answers mark)
      (fun _ t => ScopeOutcome answers mark h.key s c t) s := by
  have since : Since answers mark s [] s.scopeListings s := ⟨rfl, rfl, tickets, truthful⟩
  have nothing : ∀ (a : Listing) t, t = s → ScopeOutcome answers mark h.key s c t := by
    rintro a t rfl
    exact ⟨[], _, since, by simp [commandsOf], .inl ⟨rfl, rfl⟩⟩
  change (c.work h ref).Yields _ _ s
  cases c with
  | listOwn preview nonIndexedOnly =>
    rw [ScopeCall.work, Flow.yields_seq]
    exact (yields_listAll cached).mono nothing
  | listAll accessorsOnly preview nonIndexedOnly =>
    rw [ScopeCall.work, Flow.yields_seq]
    exact (yields_listAll cached).mono nothing
  | listInherited preview nonIndexedOnly =>
    rw [ScopeCall.work, Flow.yields_seq]
    exact (yields_listInherited cached).mono nothing
  | assign name expression =>
    rw [ScopeCall.work, Flow.yields_seq]
    refine (yields_assign rfl since).mono fun error t outcome => ?_
    obtain ⟨said, listings, does, since⟩ := outcome
    obtain ⟨quiet, wrote⟩ := does.wrote cached
    exact ⟨said, listings, since, quiet, wrote⟩

end Listings

end Calls

/-! ## One call after another -/

section Runs

variable {answers : Ticket → Reply} {h : Handle} {ref : ScopeRef} {start s : Session}
  {past : List ScopeErrand}

/-- What comes of a call keeps what was listed. -/
theorem ScopeOutcome.keepsListing {mark : Ticket} {e : ScopeErrand}
    (outcome : ScopeOutcome answers mark h.key e.before e.call e.after) :
    KeepsListing answers h.key e := by
  obtain ⟨said, listings, since, quiet, wrote⟩ := outcome
  have is : e.said = said := saidSince_eq since.journal
  constructor
  case lists => exact is ▸ quiet
  case same =>
    rw [is, since.listings]
    intro none
    rcases wrote with ⟨-, same⟩ | ⟨_, _, _, _, _, _, -, one, -⟩
    · exact same
    · cases none.symm.trans one
  case written =>
    rw [is]
    intro w hw
    rcases wrote with ⟨none, -⟩ | ⟨ticket, name, expression, result, properties, patched, call, one,
      cached, now, changed, others⟩
    · rw [none] at hw
      cases hw
    · rw [one, List.mem_singleton] at hw
      subst hw
      refine ⟨one, expression, result, properties, patched, call, rfl, cached, ?_, changed, ?_⟩
      · rw [scopeListing, since.listings, now]
      · intro other different
        rw [scopeListing, since.listings, others other different]

/-- What was listed is still there after a call. -/
theorem ScopeOutcome.cached {mark : Ticket} {c : ScopeCall} {t : Session}
    (outcome : ScopeOutcome answers mark h.key s c t)
    (cached : (s.scopeListing h.key).isSome = true) :
    (t.scopeListing h.key).isSome = true := by
  obtain ⟨said, listings, since, -, wrote⟩ := outcome
  rw [scopeListing, since.listings]
  rcases wrote with ⟨-, same⟩ | ⟨_, _, _, _, _, patched, -, -, -, now, -, -⟩
  · rw [same]
    exact cached
  · rw [now]
    rfl

/-- **What a scope has listed is kept** by all calls made one after another,
whatever the backend answers and whether or not the target is let go: each
call keeps it. -/
theorem listing_kept (cached : (start.scopeListing h.key).isSome = true)
    (unasked : ∀ r ∈ start.replies, r.1 < start.nextTicket)
    (run : Flow.Run (scoping h ref answers) start past s) :
    ∀ e ∈ past, KeepsListing answers h.key e := by
  -- That something is listed has to be carried along: without it a call would list anew.
  have kept : ((s.scopeListing h.key).isSome = true ∧ start.nextTicket ≤ s.nextTicket ∧
      Truthful answers start.nextTicket s) ∧ ∀ e ∈ past, KeepsListing answers h.key e := by
    induction run with
    | start =>
      refine ⟨⟨cached, Nat.le_refl _, fun r hr asked => ?_⟩, by simp⟩
      exact absurd (unasked r hr) (Nat.not_lt.2 asked)
    | @call past s s' c waits a run ends ih =>
      obtain ⟨⟨there, tickets, truthful⟩, older⟩ := ih
      obtain ⟨properties, is⟩ := Option.isSome_iff_exists.1 there
      have outcome : ScopeOutcome answers start.nextTicket h.key s c s' :=
        (yields_scoping c is tickets truthful).finish
          (fun events _ t => aside_meanwhile events t) ends
      have ⟨_, _, since, _⟩ := outcome
      refine ⟨⟨outcome.cached there, since.tickets, since.truthful⟩, fun e he => ?_⟩
      rcases List.mem_cons.1 he with rfl | old
      · exact outcome.keepsListing
      · exact older e old
  exact kept.2

end Runs

/-- The object of the scope of a frame. -/
def localScope : Handle := ⟨⟨0, 0⟩, "scope", .object, none, none, none, none, none⟩

/-- A session in which it has listed two variables of one name. -/
def listedTwice : Session :=
  keepListing localScope.key
    [{ name := "x", value := some (.primitive (.ofPrimitive .null)) },
      { name := "y", value := some (.primitive (.ofPrimitive .null)) },
      { name := "x", writable := false }]
    (connect 0 (.root ⟨0, "page", .frame⟩) {})

/-- Two evaluations give a text, and the one that follows throws. Only the
first write is accepted. -/
def textsThenThrown : Ticket → Reply
  | 0 | 2 => .ok (.obj [("result", .obj [("type", .str "string"), ("value", .str "new")])])
  | 1 => .ok (.obj [])
  | 4 =>
    .ok (.obj
      [("exceptionDetails", .obj
        [("columnNumber", .int 0), ("exceptionId", .int 1), ("lineNumber", .int 0),
          ("text", .str "Uncaught")]),
        ("result", .obj [("type", .str "object")])])
  | _ => .error .closed

/-- The variables are written, listed, and written twice more; then the
target is let go while a last evaluation is waited for. The newest call is
the first. -/
def writesAndListing : List (ScopeCall × List (List ScopeNews)) :=
  [(.assign "x" "f()", [[.gone, .answer 4]]), (.assign "x" "b", [[.answer 2], [.answer 3]]),
    (.listInherited true false, []), (.assign "x" "a", [[.answer 0], [.answer 1]])]

theorem listing_kept_once_written :
    ∃ past s, Flow.Run (scoping localScope ⟨0, some "frame"⟩ textsThenThrown) listedTwice past s ∧
      past.map (fun e : ScopeErrand => (acceptedIn textsThenThrown e.said).length) = [0, 0, 0, 1] ∧
      ∀ e ∈ past, KeepsListing textsThenThrown localScope.key e := by
  have made : Flow.errands (scoping localScope ⟨0, some "frame"⟩ textsThenThrown) listedTwice
      writesAndListing = some (_, _) := rfl
  have run := Flow.run_of_errands made
  exact ⟨_, _, run, rfl, listing_kept rfl (fun r hr => by cases hr) run⟩

end Session
end DebugClient
