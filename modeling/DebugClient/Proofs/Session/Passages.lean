import DebugClient.Proofs.Flow.Protocol
import DebugClient.Proofs.Session.Variables
/-!
# Passages — what a call on a scope does between two waits

A call on the object of a scope waits for one answer after another. When it
goes on it takes the answer, and what becomes of what was listed depends on
that answer alone (`Took`): a listing is kept, whatever was kept, a write that
was accepted changes what is kept, and any other answer has no effect.
-/

namespace DebugClient

/-! ## What takes effect -/

/-- An effect on what a scope has listed: of the answer to a request. -/
inductive CacheEffect where
  /-- The variables were listed. -/
  | listed (ticket : Ticket)
  /-- A variable was written. -/
  | wrote (ticket : Ticket) (name : String)

/-- The ticket of the request. -/
def CacheEffect.ticket : CacheEffect → Ticket
  | listed ticket => ticket
  | wrote ticket _ => ticket

/-- The ticket of a listing. -/
def CacheEffect.listing? : CacheEffect → Option Ticket
  | listed ticket => some ticket
  | wrote _ _ => none

/-- Whether an effect concerns a variable. -/
def CacheEffect.concerns (name : String) : CacheEffect → Bool
  | listed _ => true
  | wrote _ other => other = name

/-- The effect of the answer to a command. -/
def Wire.Command.cacheEffect? (answers : Ticket → Reply) (ticket : Ticket) :
    Wire.Command → Option CacheEffect
  | .getProperties _ => if (listed? (answers ticket)).isSome then some (.listed ticket) else none
  | .setVariableValue _ name _ _ =>
    if accepts (answers ticket) then some (.wrote ticket name) else none
  | _ => none

theorem Wire.Command.cacheEffect?_listing {answers : Ticket → Reply} {ticket : Ticket}
    {r : Wire.Reply.Properties} (listed : listed? (answers ticket) = some r)
    (query : Wire.PropertyQuery) :
    (getProperties query).cacheEffect? answers ticket = some (.listed ticket) := by
  simp [cacheEffect?, listed]

theorem Wire.Command.cacheEffect?_write {answers : Ticket → Reply} {ticket : Ticket}
    (accepted : accepts (answers ticket) = true) (scope : Nat) (name : String)
    (value : Wire.CallArgument) (frame : CallFrameId) :
    (setVariableValue scope name value frame).cacheEffect? answers ticket =
      some (.wrote ticket name) := by
  simp [cacheEffect?, accepted]

theorem Wire.Command.cacheEffect?_ticket {answers : Ticket → Reply} {ticket : Ticket}
    {command : Wire.Command} {e : CacheEffect} (is : command.cacheEffect? answers ticket = some e) :
    e.ticket = ticket := by
  cases command with
  | getProperties query =>
    obtain ⟨-, ⟨⟩⟩ := Option.ite_none_right_eq_some.1 is
    rfl
  | setVariableValue scope name value frame =>
    obtain ⟨-, ⟨⟩⟩ := Option.ite_none_right_eq_some.1 is
    rfl
  | _ => cases is

namespace Session

/-- The command that was sent under a ticket. -/
def commandUnder (ticket : Ticket) (s : Session) : Option Wire.Command :=
  (requestsOf s.journal).lookup ticket

/-- The ticket whose answer was taken between two states. -/
def takenIn (before after : Session) : Option Ticket :=
  (before.replies.find? fun r => !after.isAnswered r.1).map (·.1)

/-- The effect of the answer that was taken between two states. -/
def effectIn (answers : Ticket → Reply) (before after : Session) : Option CacheEffect := do
  let ticket ← takenIn before after
  let command ← commandUnder ticket before
  command.cacheEffect? answers ticket

/-- Whatever is done with the object of a scope, at the same time. Of a call
that goes on, the effect of the answer it took is noted. -/
def caching (h : Handle) (ref : ScopeRef) (answers : Ticket → Reply) :
    Flow.System ScopeCall ScopeNews Session (Listing ⊕ Option String) CacheEffect where
  program := ScopeCall.work h ref
  outside := ScopeNews.apply answers
  note _ _ before after := (effectIn answers before after).toList

/-! ## What a call does between two waits -/

/-- A call has not begun, or waits for the answer to a request. -/
abbrev ScopePhase := Option (Ticket × Wire.Command)

/-- Properties as they are made of a listing. -/
structure MadeOf (r : Wire.Reply.Properties) (properties : List Property) : Prop where
  /-- There is one for each entry, in order. -/
  names : properties.map (·.name) = r.entries.map (·.1)
  /-- Every value is that of an entry of the name. -/
  values : ∀ p ∈ properties, ∀ v, p.value = some v →
    ∃ o key, (p.name, some o) ∈ r.entries ∧ v = (Value.ofRemote o key).1

/-- What becomes of what was listed when the answer a call waited for is
taken. -/
inductive Took (answers : Ticket → Reply) :
    ScopePhase → Option (List Property) → Option (List Property) → Prop where
  /-- Nothing, if the answer has no effect. -/
  | idle {p : ScopePhase} {kept : Option (List Property)}
      (none : (p.bind fun r => r.2.cacheEffect? answers r.1) = none) : Took answers p kept kept
  /-- A listing is kept, whatever was kept. -/
  | listing {ticket : Ticket} {question : Wire.PropertyQuery} {r : Wire.Reply.Properties}
      {kept : Option (List Property)} {properties : List Property}
      (listed : listed? (answers ticket) = some r) (made : MadeOf r properties) :
      Took answers (some (ticket, .getProperties question)) kept (some properties)
  /-- A write changes what was listed, if anything was. -/
  | write {ticket : Ticket} {scope : Nat} {name : String} {result : Wire.RemoteObject}
      {frame : CallFrameId} {kept patched : Option (List Property)}
      (accepted : accepts (answers ticket) = true)
      (changed : Option.Rel (List.Forall₂ (Property.PatchedTo name result)) kept patched) :
      Took answers
        (some (ticket, .setVariableValue scope name (Primitive.argumentOfRemote result) frame)) kept
        patched

/-- What a call has done since it left a wait. -/
structure Passage (answers : Ticket → Reply) (mark : Ticket) (key : Key) (p : ScopePhase)
    (s t : Session) : Prop where
  /-- Tickets go on from the mark. -/
  marked : mark ≤ s.nextTicket
  /-- It has sent nothing. -/
  tickets : t.nextTicket = s.nextTicket
  /-- So what it has said are no requests. -/
  journal : ∃ new, t.journal = new ++ s.journal ∧ requestsOf new = []
  /-- What it waited for was there. -/
  answered : ∀ r ∈ p, s.isAnswered r.1 = true
  /-- It took that, and nothing else. -/
  replies : t.replies = s.replies.filter fun r => p.all (·.1 != r.1)
  /-- What has become of what was listed. -/
  took : Took answers p (s.scopeListing key) (t.scopeListing key)

/-- What a call does between two waits. -/
def cacheProtocol (answers : Ticket → Reply) (mark : Ticket) (key : Key) :
    Flow.Protocol ScopePhase Session (Listing ⊕ Option String) where
  given s := mark ≤ s.nextTicket ∧ Truthful answers mark s
  moves p s q t := ∃ command u, Passage answers mark key p s u ∧ q = some (u.nextTicket, command) ∧
    t = (u.issue command).2
  ends p s _ t := Passage answers mark key p s t

section Calls

variable {answers : Ticket → Reply} {mark : Ticket} {key : Key} {p : ScopePhase} {s s₀ t : Session}

theorem Passage.begin (marked : mark ≤ s.nextTicket) : Passage answers mark key none s s :=
  ⟨marked, rfl, ⟨[], rfl, rfl⟩, by simp, by simp, .idle rfl⟩

theorem Passage.held (h : Passage answers mark key p s t) (n : Nat) :
    Passage answers mark key p s { t with holders := n } :=
  ⟨h.marked, h.tickets, h.journal, h.answered, h.replies, h.took⟩

theorem replies_taken (ticket : Ticket) (command : Wire.Command) :
    (t.takeReply ticket).2.replies =
      t.replies.filter fun r => Option.all (fun q : Ticket × Wire.Command => q.1 != r.1)
        (some (ticket, command)) := by
  simp [takeReply, bne_comm]

/-- An answer without effect was taken. -/
theorem Passage.taken {ticket : Ticket} {command : Wire.Command} (marked : mark ≤ t.nextTicket)
    (answered : t.isAnswered ticket = true) (none : command.cacheEffect? answers ticket = none) :
    Passage answers mark key (some (ticket, command)) t (t.takeReply ticket).2 :=
  ⟨marked, rfl, ⟨[], rfl, rfl⟩, by simpa using answered, replies_taken ticket command, .idle none⟩

/-- A call may send a command, and then waits for the answer. -/
theorem Passage.sends (h : Passage answers mark key p s₀ s) (command : Wire.Command) :
    (cacheProtocol answers mark key).moves p s₀ (some (s.nextTicket, command)) (s.issue command).2 :=
  ⟨command, s, h, rfl, rfl⟩

/-- A command is sent, and its answer taken. -/
theorem Passage.obeys_call {α : Type} {command : Wire.Command} {read : Json → Option α}
    {Q : ScopePhase → Session → Except LinkError α → Session → Prop}
    (h : Passage answers mark key p s₀ s)
    (next : ∀ t, mark ≤ t.nextTicket → t.isAnswered s.nextTicket = true →
      Q (some (s.nextTicket, command)) t (Work.decode command read (answers s.nextTicket))
        (t.takeReply s.nextTicket).2) :
    (Work.call command read).Obeys (cacheProtocol answers mark key) Q p s₀ s :=
  (Truthful.obeys_call (fun _ => And.right) (h.tickets ▸ h.marked)).2
    ⟨_, h.sends command, fun t given => next t given.1⟩

section Listings

/-- **A listing is made of its entries.** -/
theorem madeOf_ofReply (r : Wire.Reply.Properties) {k : Key} {properties : List Property}
    (is : (Listing.ofReply r k).1.properties = some properties) : MadeOf r properties := by
  obtain rfl : (r.result.mapM Property.ofWire k).1 ++
      ((r.privates.getD []).mapM Property.ofPrivate (r.result.mapM Property.ofWire k).2).1 =
        properties := Option.some.inj is
  constructor
  case names =>
    rw [List.map_append, Fresh.map_mapM fun w k => (Property.ofWire_made w k).1,
      Fresh.map_mapM fun w k => (Property.ofPrivate_made w k).1]
    simp [Wire.Reply.Properties.entries, Function.comp_def]
  case values =>
    intro p there v value
    rcases List.mem_append.1 there with named | hidden
    · obtain ⟨w, hw, k', rfl⟩ := Fresh.mem_mapM named
      obtain ⟨name, made⟩ := Property.ofWire_made w k'
      obtain ⟨o, k'', has, is⟩ := Value.ofRemote?_made (made ▸ value)
      refine ⟨o, k'', List.mem_append_left _ (List.mem_map.2 ⟨w, hw, ?_⟩), is⟩
      rw [has, name]
    · obtain ⟨w, hw, k', rfl⟩ := Fresh.mem_mapM hidden
      obtain ⟨name, made⟩ := Property.ofPrivate_made w k'
      obtain ⟨o, k'', has, is⟩ := Value.ofRemote?_made (made ▸ value)
      refine ⟨o, k'', List.mem_append_right _ (List.mem_map.2 ⟨w, hw, ?_⟩), is⟩
      rw [has, name]

/-- What a scope shows has the same names and values. -/
theorem MadeOf.shown {r : Wire.Reply.Properties} {properties : List Property}
    (made : MadeOf r properties) (ref : ScopeRef) : MadeOf r (ref.shown properties) := by
  unfold ScopeRef.shown
  split
  · refine ⟨by simpa [Function.comp_def] using made.names, fun p there v value => ?_⟩
    obtain ⟨q, hq, rfl⟩ := List.mem_map.1 there
    exact made.values q hq v value
  · exact made

theorem scopeListing_keepListing (properties : List Property) :
    (s.keepListing key properties).scopeListing key = some properties :=
  (Lookup.lookup_cons_ite key key properties _).trans (if_pos rfl)

variable {h : Handle} {ref : ScopeRef}

/-- **Listing a scope** keeps what its answer lists, unless something was
listed already when it was begun. -/
theorem obeys_list {own : Bool} (marked : mark ≤ s.nextTicket) :
    (ref.list h own).Obeys (cacheProtocol answers mark h.key)
      (fun p s₀ _ t => Passage answers mark h.key p s₀ t) none s s := by
  rw [ScopeRef.list, Flow.obeys_seq, Flow.obeys_look]
  cases s.scopeListing h.key with
  | some properties => exact .begin marked
  | none =>
    -- Whether something is listed is asked here only, and not again when the answer is in.
    dsimp only
    rw [Flow.obeys_seq]
    change Flow.Obeys _ _ (Work.call _ _ >>= _) none s s
    rw [Flow.obeys_seq]
    refine (Passage.begin marked).obeys_call fun t marked answered => ?_
    cases reply : answers s.nextTicket with
    | error e =>
      refine .taken marked answered ?_
      simp [Wire.Command.cacheEffect?, listed?, reply]
    | ok j =>
      cases read : Wire.Reply.properties j with
      | none =>
        simp only [Work.decode, read]
        refine .taken marked answered ?_
        simp [Wire.Command.cacheEffect?, listed?, reply, read]
      | some r =>
        simp only [Work.decode, read]
        cases threw : r.exceptionDetails with
        | some details =>
          refine ⟨marked, rfl, ⟨[.runtime (.exceptionThrown .onReceipt details)], rfl, rfl⟩,
            by simpa using answered, replies_taken _ _, .idle ?_⟩
          simp [Wire.Command.cacheEffect?, listed?, reply, read, threw]
        | none =>
          have listed : listed? (answers s.nextTicket) = some r := by
            simp [listed?, reply, read, threw]
          have made : MadeOf r _ := madeOf_ofReply r (k := t.nextKey) rfl
          refine ⟨marked, rfl, ⟨[], rfl, rfl⟩, by simpa using answered, replies_taken _ _, ?_⟩
          rw [scopeListing_keepListing]
          exact .listing listed (made.shown ref)

theorem obeys_listAll {accessorsOnly preview nonIndexedOnly own : Bool}
    (marked : mark ≤ s.nextTicket) :
    ((Value.scope h ref).list own accessorsOnly nonIndexedOnly preview).Obeys
      (cacheProtocol answers mark h.key) (fun p s₀ _ t => Passage answers mark h.key p s₀ t) none s
      s := by
  cases accessorsOnly with
  | true => exact .begin marked
  | false => exact obeys_list marked

theorem obeys_listInherited {preview nonIndexedOnly : Bool} (marked : mark ≤ s.nextTicket) :
    ((Value.scope h ref).listInherited preview nonIndexedOnly).Obeys
      (cacheProtocol answers mark h.key) (fun p s₀ _ t => Passage answers mark h.key p s₀ t) none s
      s := by
  rw [Value.listInherited, Flow.obeys_seq]
  -- The accessors a scope inherits are none, so only its own variables are left to list.
  change (((Value.scope h ref).listOwn preview nonIndexedOnly).bind _).Obeys _ _ none s s
  rw [Flow.obeys_bind]
  exact obeys_listAll marked

end Listings

/-! ## Writes -/

section Writes

variable {h : Handle} {ref : ScopeRef} {name : String} {result : Wire.RemoteObject}

/-- What was listed is changed where it is, if anything was, and nothing else
is but the next key. -/
theorem patchListing_changed (key : Key) (name : String) (result : Wire.RemoteObject)
    (t : Session) :
    ∃ next listings,
      t.patchListing key name result = { t with nextKey := next, scopeListings := listings } ∧
        Option.Rel (List.Forall₂ (Property.PatchedTo name result)) (t.scopeListing key)
          (listings.lookup key) := by
  cases cached : t.scopeListing key with
  | none =>
    refine ⟨t.nextKey, t.scopeListings, by rw [patchListing, cached], ?_⟩
    rw [← scopeListing, cached]
    exact .none
  | some properties =>
    obtain ⟨next, patched, changed, is⟩ := patchListing_eq name result cached
    refine ⟨next, _, is, ?_⟩
    rw [Lookup.lookup_cons_ite, if_pos rfl]
    exact .some changed

/-- **A write** changes what was listed if it is accepted, and when its answer
is taken. -/
theorem obeys_putIn {frame : CallFrameId} (passage : Passage answers mark h.key p s₀ s) :
    (ref.putIn frame h name result).Obeys (cacheProtocol answers mark h.key)
      (fun p s₀ _ t => Passage answers mark h.key p s₀ t) p s₀ s := by
  rw [ScopeRef.putIn, Flow.obeys_seq, setVariable, Work.command, Flow.obeys_seq]
  refine passage.obeys_call fun t marked answered => ?_
  obtain ⟨e, decoded, refused⟩ | ⟨decoded, accepted⟩ := decode_acknowledged
    (.setVariableValue ref.number name (Primitive.argumentOfRemote result) frame)
    (answers s.nextTicket)
  · rw [decoded]
    refine .taken marked answered ?_
    simp [Wire.Command.cacheEffect?, refused]
  · rw [decoded]
    -- What is changed is what is kept by now, which another call may have listed meanwhile.
    obtain ⟨next, listings, is, changed⟩ :=
      patchListing_changed h.key name result (t.takeReply s.nextTicket).2
    change Passage answers mark h.key _ t
      ((t.takeReply s.nextTicket).2.patchListing h.key name result)
    rw [is]
    exact ⟨marked, rfl, ⟨[], rfl, rfl⟩, by simpa using answered, replies_taken _ _,
      .write accepted changed⟩

/-- A write takes a frame, and a session that exists. -/
theorem obeys_put (passage : Passage answers mark h.key p s₀ s) :
    (ref.put h name result).Obeys (cacheProtocol answers mark h.key)
      (fun p s₀ _ t => Passage answers mark h.key p s₀ t) p s₀ s := by
  unfold ScopeRef.put
  cases ref.callFrameId with
  | none => exact passage
  | some frame =>
    dsimp only
    rw [Flow.obeys_seq, Flow.obeys_look]
    split
    · exact obeys_holding.2 ((obeys_putIn (passage.held _)).mono fun _ _ _ _ written => written.held _)
    · exact passage

theorem obeys_assign {expression : String} (marked : mark ≤ s.nextTicket) :
    ((Value.scope h ref).assign name expression).Obeys (cacheProtocol answers mark h.key)
      (fun p s₀ _ t => Passage answers mark h.key p s₀ t) none s s := by
  change Flow.Obeys _ _ (Work.call _ _ >>= _) none s s
  rw [Flow.obeys_seq]
  refine (Passage.begin marked).obeys_call fun t marked answered => ?_
  have evaluated : Passage answers mark h.key
      (some (s.nextTicket, .evaluate { expression, silent := true })) t _ :=
    .taken marked answered rfl
  cases Work.decode _ Wire.Reply.evaluation (answers s.nextTicket) with
  | error e => exact evaluated
  | ok r =>
    dsimp only
    split
    · exact evaluated
    · rw [Flow.obeys_seq]
      refine (obeys_put evaluated).mono fun p s₀ error u written => ?_
      cases r.result.objectId with
      | none => exact written
      | some id =>
        dsimp only
        rw [Flow.obeys_seq]
        exact obeys_send.2 ⟨_, written.sends _, fun v given released => .taken given.1 released rfl⟩

end Writes

/-- **Every call** on the object of a scope keeps to the protocol. -/
theorem obeys_caching {h : Handle} {ref : ScopeRef} (c : ScopeCall) (marked : mark ≤ s.nextTicket) :
    ((caching h ref answers).program c).Obeys (cacheProtocol answers mark h.key)
      (cacheProtocol answers mark h.key).ends none s s := by
  change (c.work h ref).Obeys _ _ none s s
  cases c with
  | listOwn preview nonIndexedOnly =>
    rw [ScopeCall.work, Flow.obeys_seq]
    exact obeys_listAll marked
  | listAll accessorsOnly preview nonIndexedOnly =>
    rw [ScopeCall.work, Flow.obeys_seq]
    exact obeys_listAll marked
  | listInherited preview nonIndexedOnly =>
    rw [ScopeCall.work, Flow.obeys_seq]
    exact obeys_listInherited marked
  | assign name expression =>
    rw [ScopeCall.work, Flow.obeys_seq]
    exact obeys_assign marked

end Calls

end Session

end DebugClient
