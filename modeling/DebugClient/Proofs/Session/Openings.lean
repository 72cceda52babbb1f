import DebugClient.Proofs.Flow.Pairs
import DebugClient.Proofs.Session.Variables
import DebugClient.Proofs.Value.Inheritance
/-!
# Openings — what a value lists with what it inherits

An object is opened by two requests at once: for the accessors of its
prototype chain, and for its own properties. Whatever else is done meanwhile,
and in whichever order the answers come in, the two listings are what the
answers make, and they become one listing (`inherited_merges`). It is not to
be had if one of the two is not.
-/

namespace DebugClient

/-- The listing that an answer makes: none if there is nothing listed. -/
def Listing.ofAnswer (reply : Reply) (key : Key) : Listing :=
  match listed? reply with
  | some r => (Listing.ofReply r key).1
  | none => .failed

theorem Listing.ofAnswer_of_none {reply : Reply} (h : listed? reply = none) (key : Key) :
    ofAnswer reply key = .failed := by
  rw [ofAnswer, h]

theorem Listing.ofAnswer_of_some {reply : Reply} {r : Wire.Reply.Properties}
    (h : listed? reply = some r) (key : Key) : ofAnswer reply key = (ofReply r key).1 := by
  rw [ofAnswer, h]

/-- A listing as a scope shows it. -/
def ScopeRef.shows (ref : ScopeRef) (l : Listing) : Listing :=
  { l with properties := l.properties.map ref.shown }

/-- A listing that is not to be had is not shown. -/
theorem ScopeRef.shows_of_none {ref : ScopeRef} {l : Listing} (none : l.properties = none) :
    ref.shows l = l := by
  rw [shows, none, Option.map_none, ← none]

namespace Session

/-- **Both listings of a value**: the accessors it inherits and its own
properties, if it is opened in a state and the backend answers as it does. -/
inductive Opens (answers : Ticket → Reply) (s : Session) (nonIndexedOnly : Bool) :
    Value → Listing → Listing → Prop where
  /-- The backend lists an object twice. -/
  | object (h : Handle) (key key' : Key) :
      Opens answers s nonIndexedOnly (.handle h) (.ofAnswer (answers s.nextTicket) key)
        (.ofAnswer (answers (s.nextTicket + 1)) key')
  /-- A scope inherits nothing, and shows what it has listed. -/
  | kept {h : Handle} {ref : ScopeRef} {properties : List Property}
      (listed : s.scopeListing h.key = some properties) :
      Opens answers s nonIndexedOnly (.scope h ref) { properties := some [], internal := some [] }
        { properties := some properties }
  /-- The first time the backend lists it. -/
  | scope {h : Handle} {ref : ScopeRef} (key : Key) (unlisted : s.scopeListing h.key = none) :
      Opens answers s nonIndexedOnly (.scope h ref) { properties := some [], internal := some [] }
        (ref.shows (.ofAnswer (answers s.nextTicket) key))
  /-- A primitive has no properties. -/
  | primitive (p : LocalPrimitive) : Opens answers s nonIndexedOnly (.primitive p) .failed .failed
  /-- What a JSON value shows is its own. -/
  | json (j : Json) :
      Opens answers s nonIndexedOnly (.json j) (.ofJson j true nonIndexedOnly)
        (.ofJson j false nonIndexedOnly)

/-- **An object is opened by two requests**, sent before either is answered:
first for the accessors it inherits, and then for its own properties. -/
def OpensTwice (h : Handle) (preview nonIndexedOnly : Bool) (s : Session) : Prop :=
  s.isAnswered s.nextTicket = false → s.isAnswered (s.nextTicket + 1) = false →
    (((Value.handle h).listInherited preview nonIndexedOnly).toWait s).2.journal =
      .request (s.nextTicket + 1)
          (.getProperties
            { objectId := h.objectId, ownProperties := true, accessorsOnly := false,
              nonIndexedOnly, generatePreview := preview }) ::
        .request s.nextTicket
          (.getProperties
            { objectId := h.objectId, ownProperties := false, accessorsOnly := true,
              nonIndexedOnly, generatePreview := preview }) :: s.journal

theorem opensTwice (h : Handle) (preview nonIndexedOnly : Bool) (s : Session) :
    OpensTwice h preview nonIndexedOnly s := by
  intro unanswered unanswered'
  -- The first request waits, and so the second is sent, and waits too.
  change (Flow.toWait (Flow.bind (if s.isAnswered s.nextTicket then _
    else Flow.zipWaiting _ _ _) _) (s.issue _).2).2.journal = _
  rw [if_neg (by simp [unanswered])]
  change (Flow.toWait (Flow.bind (if s.isAnswered (s.nextTicket + 1) then _
    else _) _) ((s.issue _).2.issue _).2).2.journal = _
  rw [if_neg (by simp [unanswered'])]
  rfl

section Calls

variable {answers : Ticket → Reply} {mark : Ticket} {J : Ticket → Prop} {s t : Session}

/-- Answers are the backend's, and something is so of the tickets. -/
def Honest (answers : Ticket → Reply) (mark : Ticket) (J : Ticket → Prop) (s : Session) : Prop :=
  Truthful answers mark s ∧ J s.nextTicket

/-- **Listing an object** gives what the answer makes. -/
theorem gives_list {h : Handle} {own accessorsOnly nonIndexedOnly preview : Bool}
    (truthful : Truthful answers mark s) (asks : mark ≤ s.nextTicket) (so : J (s.nextTicket + 1)) :
    (h.list own accessorsOnly nonIndexedOnly preview).Gives (Honest answers mark J)
      (fun l => ∃ key, l = .ofAnswer (answers s.nextTicket) key) s := by
  change Flow.Obeys _ _ (Work.call _ _ >>= _) () s s
  rw [Flow.obeys_seq]
  refine (Truthful.obeys_call (fun t (given : Honest answers mark J t) => given.1) asks).2
    ⟨(), ⟨truthful, so⟩, fun t given _ => ?_⟩
  have honest : Honest answers mark J (t.takeReply s.nextTicket).2 :=
    ⟨fun r there => given.1 r (List.mem_of_mem_filter there), given.2⟩
  cases reply : answers s.nextTicket with
  | error e => exact ⟨honest, s.nextKey, (Listing.ofAnswer_of_none rfl _).symm⟩
  | ok j =>
    cases read : Wire.Reply.properties j with
    | none =>
      simp only [Work.decode, read]
      exact ⟨honest, s.nextKey, (Listing.ofAnswer_of_none (by simp [listed?, read]) _).symm⟩
    | some r =>
      simp only [Work.decode, read]
      cases threw : r.exceptionDetails with
      | some details =>
        have none : listed? (.ok j) = none := by simp [listed?, read, threw]
        exact ⟨honest, s.nextKey, (Listing.ofAnswer_of_none none _).symm⟩
      | none =>
        have some : listed? (.ok j) = some r := by simp [listed?, read, threw]
        exact ⟨honest, t.nextKey, (Listing.ofAnswer_of_some some _).symm⟩

/-- **Listing a scope** gives what it has listed, or else what the answer
makes. -/
theorem gives_listScope {h : Handle} {ref : ScopeRef} {nonIndexedOnly : Bool}
    (truthful : Truthful answers mark s) (asks : mark ≤ s.nextTicket) :
    (ref.list h true).Gives (Honest answers mark fun _ => True)
      (fun l => Opens answers s nonIndexedOnly (.scope h ref)
        { properties := some [], internal := some [] } l) s := by
  change Flow.Obeys _ _ (Flow.look _ >>= _) () s s
  rw [Flow.obeys_seq, Flow.obeys_look]
  cases listed : s.scopeListing h.key with
  | some properties => exact ⟨⟨truthful, trivial⟩, .kept listed⟩
  | none =>
    change Flow.Obeys _ _ (h.list true false false true >>= _) () s s
    rw [Flow.obeys_seq]
    refine Flow.Obeys.mono (gives_list truthful asks trivial) fun _ _ l t given => ?_
    obtain ⟨honest, key, rfl⟩ := given
    have opens : Opens answers s nonIndexedOnly (.scope h ref) _ _ := .scope key listed
    cases is : (Listing.ofAnswer (answers s.nextTicket) key).properties with
    | none =>
      rw [ScopeRef.shows_of_none is] at opens
      exact ⟨honest, opens⟩
    | some properties =>
      rw [ScopeRef.shows, is] at opens
      exact ⟨honest, opens⟩

/-- **A value is opened** with what it inherits: both its listings become
one. -/
theorem gives_listInherited {v : Value} {preview nonIndexedOnly : Bool}
    (truthful : Truthful answers s.nextTicket s) :
    (v.listInherited preview nonIndexedOnly).Gives (Honest answers s.nextTicket fun _ => True)
      (fun l => ∃ accessors own, Opens answers s nonIndexedOnly v accessors own ∧
        l = .inherited accessors own) s := by
  change Flow.Obeys _ _ (Flow.zip _ _ >>= _) () s s
  rw [Flow.obeys_seq]
  refine Flow.Obeys.mono (Q := fun _ _ r t => Honest answers s.nextTicket (fun _ => True) t ∧
    Opens answers s nonIndexedOnly v r.1 r.2) ?_ fun _ _ r t given => ⟨given.1, r.1, r.2, given.2, rfl⟩
  have here : Honest answers s.nextTicket (fun _ => True) s := ⟨truthful, trivial⟩
  cases v with
  | handle h =>
    have lists {J : Ticket → Prop} (so : J (s.nextTicket + 1)) :
        (h.list false true nonIndexedOnly preview).Gives (Honest answers s.nextTicket J)
          (fun l => ∃ key, l = .ofAnswer (answers s.nextTicket) key) s :=
      gives_list truthful (Nat.le_refl _) so
    -- The first request was sent when the second is, so the second has the next ticket.
    have sent := (lists (J := (· = s.nextTicket + 1)) rfl).run_id
    have own : (h.list true false nonIndexedOnly preview).Gives
        (Honest answers s.nextTicket fun _ => True)
        (fun l => ∃ key, l = .ofAnswer (answers (s.nextTicket + 1)) key)
        ((h.list false true nonIndexedOnly preview).run id s).2 := by
      rw [← sent.2]
      exact gives_list sent.1 (sent.2 ▸ Nat.le_succ _) trivial
    refine (Flow.gives_zip (lists trivial) own).mono fun r given => ?_
    obtain ⟨⟨key, first⟩, ⟨key', own⟩⟩ := given
    rw [first, own]
    exact .object h key key'
  | scope h ref =>
    have accessors : (Flow.done { properties := some [], internal := some [] } : Work Listing).Gives
        (Honest answers s.nextTicket fun _ => True)
        (fun l => l = { properties := some [], internal := some [] }) s := ⟨here, rfl⟩
    have own : (ref.list h true).Gives (Honest answers s.nextTicket fun _ => True)
        (fun l => Opens answers s nonIndexedOnly (.scope h ref)
          { properties := some [], internal := some [] } l) s :=
      gives_listScope truthful (Nat.le_refl _)
    refine (Flow.gives_zip accessors own).mono fun r given => ?_
    obtain ⟨first, opens⟩ := given
    exact first ▸ opens
  | primitive p => exact ⟨here, .primitive p⟩
  | json j => exact ⟨here, .json j⟩

/-- **A value shows what it inherits**, whatever happens while its listings are
waited for, as long as the backend's answers come in. Where both are there they
become one; otherwise nothing is shown. The answers are those to the requests for
the accessors and for the own properties. -/
theorem inherited_merges {v : Value} {preview nonIndexedOnly : Bool}
    (truthful : Truthful answers s.nextTicket s) :
    (v.listInherited preview nonIndexedOnly).Yields
      (fun t t' => Truthful answers s.nextTicket t → Truthful answers s.nextTicket t')
      (fun l _ => ∃ accessors own, Opens answers s nonIndexedOnly v accessors own ∧
        Listing.Inherits accessors own l) s ∧
      ∀ h, v = .handle h → OpensTwice h preview nonIndexedOnly s := by
  refine ⟨((gives_listInherited truthful).yields fun t t' honest stays => ?_).mono fun l _ given => ?_,
    fun h _ => opensTwice h preview nonIndexedOnly s⟩
  · exact ⟨stays honest.1, trivial⟩
  · obtain ⟨accessors, own, opens, rfl⟩ := given
    exact ⟨accessors, own, opens, Listing.inherits_inherited accessors own⟩

/-- **When an object shows what stands apart last**: in exactly those cases in
which no other property comes, under its name, to stand behind a private
member among the accessors. The answers are those to the requests for the
accessors and for the own properties. -/
theorem trails_iff {h : Handle} {preview nonIndexedOnly : Bool}
    (truthful : Truthful answers s.nextTicket s) :
    ((Value.handle h).listInherited preview nonIndexedOnly).Yields
      (fun t t' => Truthful answers s.nextTicket t → Truthful answers s.nextTicket t')
      (fun l _ => ∀ shown, l.properties = some shown → ∃ key key' accessors own,
        (Listing.ofAnswer (answers s.nextTicket) key).properties = some accessors ∧
        (Listing.ofAnswer (answers (s.nextTicket + 1)) key').properties = some own ∧
        (Listing.Trails shown ↔ Listing.PrivateLast accessors own)) s ∧
      OpensTwice h preview nonIndexedOnly s := by
  refine ⟨((gives_listInherited truthful).yields fun t t' honest stays => ?_).mono
    fun l _ given shown is => ?_, opensTwice h preview nonIndexedOnly s⟩
  · exact ⟨stays honest.1, trivial⟩
  · obtain ⟨_, _, ⟨_, key, key'⟩, rfl⟩ := given
    rw [Listing.inherited] at is
    split at is
    · rename_i accessors own inherited owned
      obtain rfl := Option.some.inj is
      exact ⟨key, key', accessors, own, inherited, owned, Listing.trails_merge_iff accessors own⟩
    · cases is

end Calls

/-- An object of the debugged program. -/
def counter : Handle := ⟨⟨0, 0⟩, "counter", .object, none, none, none, none, none⟩

/-- A session that has opened nothing. -/
def unopened : Session := connect 0 (.root ⟨0, "page", .frame⟩) {}

/-- The wire form of a function. -/
def functionJson (id : String) : Json := .obj [("objectId", .str id), ("type", .str "function")]

/-- The wire form of a text. -/
def textJson (text : String) : Json := .obj [("type", .str "string"), ("value", .str text)]

/-- The object inherits a size, a prototype and a tag, and has a size and a unit
of its own. -/
def sizedTwice : Ticket → Reply
  | 0 =>
    .ok (.obj [("result", .arr [
      .obj [("get", functionJson "size"), ("name", .str "size")],
      .obj [("get", functionJson "tag"), ("name", .str "Symbol(tag)"),
        ("symbol", .obj [("type", .str "symbol")])],
      .obj [("get", functionJson "proto"), ("name", .str "__proto__")]])])
  | _ =>
    .ok (.obj [("result", .arr [
      .obj [("isOwn", .bool true), ("name", .str "unit"), ("value", textJson "px")],
      .obj [("isOwn", .bool true), ("name", .str "size"), ("value", textJson "large")]])])

theorem inherited_merges_sizedTwice :
    ∃ l t, (Value.listInherited (.handle counter) false false).finish (ScopeNews.apply sizedTwice)
        [[.answer 1], [.answer 0]] unopened = some (l, t) ∧
      l.properties.map Property.names = some ["size", "unit", "Symbol(tag)"] ∧
      (∃ accessors own, Opens sizedTwice unopened false (.handle counter) accessors own ∧
        Listing.Inherits accessors own l) ∧
      OpensTwice counter false false unopened := by
  have ends : (Value.listInherited (.handle counter) false false).finish
      (ScopeNews.apply sizedTwice) [[.answer 1], [.answer 0]] unopened = some (_, _) := rfl
  have truthful : Truthful sizedTwice unopened.nextTicket unopened := fun _ there => by cases there
  obtain ⟨merges, twice⟩ :=
    @inherited_merges sizedTwice unopened (.handle counter) false false truthful
  have shows := merges.finish (fun events _ t => (aside_meanwhile events t).2.2.2) ends
  exact ⟨_, _, ends, rfl, shows, twice counter rfl⟩

theorem trails_sizedTwice :
    ∃ l t, (Value.listInherited (.handle counter) false false).finish (ScopeNews.apply sizedTwice)
        [[.answer 0], [.answer 1]] unopened = some (l, t) ∧
      (∃ shown, l.properties = some shown ∧ ∃ key key' accessors own,
        (Listing.ofAnswer (sizedTwice 0) key).properties = some accessors ∧
        (Listing.ofAnswer (sizedTwice 1) key').properties = some own ∧
        (Listing.Trails shown ↔ Listing.PrivateLast accessors own)) ∧
      OpensTwice counter false false unopened := by
  have ends : (Value.listInherited (.handle counter) false false).finish
      (ScopeNews.apply sizedTwice) [[.answer 0], [.answer 1]] unopened = some (_, _) := rfl
  have truthful : Truthful sizedTwice unopened.nextTicket unopened := fun _ there => by cases there
  obtain ⟨trails, twice⟩ := @trails_iff sizedTwice unopened counter false false truthful
  have iff := trails.finish (fun events _ t => (aside_meanwhile events t).2.2.2) ends
  exact ⟨_, _, ends, ⟨_, rfl, iff _ rfl⟩, twice⟩

/-- The object has a private accessor, and a property. -/
def hiddenThenNamed : Ticket → Reply
  | 0 =>
    .ok (.obj [("privateProperties", .arr [
        .obj [("get", functionJson "hidden"), ("name", .str "#hidden")]]),
      ("result", .arr [])])
  | _ =>
    .ok (.obj [("result", .arr [
      .obj [("isOwn", .bool true), ("name", .str "unit"), ("value", textJson "px")]])])

/-- **A private accessor comes first**: it stands in front of a property that is
neither private nor symbol-keyed. -/
theorem private_in_front :
    ∃ l t, (Value.listInherited (.handle counter) false false).finish
        (ScopeNews.apply hiddenThenNamed) [[.answer 0], [.answer 1]] unopened = some (l, t) ∧
      ∃ shown, l.properties = some shown ∧
        shown.map (fun p => (p.name, decide p.Apart)) = [("#hidden", true), ("unit", false)] ∧
        ¬ Listing.Trails shown :=
  ⟨_, _, rfl, _, rfl, rfl, by decide⟩

end Session

end DebugClient
