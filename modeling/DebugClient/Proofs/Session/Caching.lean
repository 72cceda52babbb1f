import DebugClient.Proofs.Session.Passages
/-!
# Caching — listings and writes side by side

What a scope has listed is filled in by one request and changed by another.
A listing is kept when its answer is taken, also over one that is there, and
a write changes what is kept when its answer is taken; and answers come in
any order. So what is kept of a variable is its value as of the request
whose answer was taken last (`cache_follows`). That is the newest one if no
write of the variable was sent after that request. Otherwise it need not be:
`overwritten_by_late_listing` is a listing that was sent before a write and
answered after it.
-/

namespace DebugClient

namespace Backend

variable {V : Type} (b : Backend V)

/-- The value of a variable after effects, newest first: as of the request of
the last one that concerns it. -/
def valueTaken (said : List Signal) (effects : List CacheEffect) (name : String) : V :=
  (effects.find? (·.concerns name)).elim (b.original name) fun e => b.valueAsOf said e.ticket name

/-- The names that are kept after effects: those of the last listing. -/
def namesTaken (effects : List CacheEffect) : Option (List String) := do
  let ticket ← effects.findSome? CacheEffect.listing?
  let r ← listed? (b.answers ticket)
  return r.entries.map (·.1)

end Backend

/-- The names of properties, if there are any. -/
def namesOf (kept : Option (List Property)) : Option (List String) :=
  kept.map fun properties => properties.map (·.name)

namespace Session

/-! ## The account of what is kept -/

/-- A property that was changed has the new value, and any other is as it
was. -/
theorem patched_of_mem {name : String} {result : Wire.RemoteObject} {ps qs : List Property}
    (changed : List.Forall₂ (Property.PatchedTo name result) ps qs) {q : Property}
    (there : q ∈ qs) :
    (q.name = name ∧ ∃ k, q.value = some (Value.ofRemote result k).1) ∨
      (q.name ≠ name ∧ q ∈ ps) := by
  induction changed with
  | nil => cases there
  | @cons p r ps qs patched rest ih =>
    rcases List.mem_cons.1 there with rfl | later
    · by_cases named : p.name = name
      · rw [Property.PatchedTo, if_pos named] at patched
        obtain ⟨k, rfl⟩ := patched
        exact .inl ⟨named, k, rfl⟩
      · rw [Property.PatchedTo, if_neg named] at patched
        exact .inr ⟨patched ▸ named, patched ▸ .head _⟩
    · exact (ih later).imp_right fun old => ⟨old.1, .tail _ old.2⟩

theorem map_name_patched {name : String} {result : Wire.RemoteObject} {ps qs : List Property}
    (changed : List.Forall₂ (Property.PatchedTo name result) ps qs) :
    qs.map (·.name) = ps.map (·.name) := by
  induction changed with
  | nil => rfl
  | @cons p q ps qs patched rest ih =>
    have same : q.name = p.name := by
      by_cases named : p.name = name
      · rw [Property.PatchedTo, if_pos named] at patched
        obtain ⟨k, rfl⟩ := patched
        rfl
      · rw [Property.PatchedTo, if_neg named] at patched
        rw [patched]
    rw [List.map_cons, List.map_cons, same, ih]

/-- A write changes no names. -/
theorem namesOf_patched {name : String} {result : Wire.RemoteObject}
    {kept patched : Option (List Property)}
    (changed : Option.Rel (List.Forall₂ (Property.PatchedTo name result)) kept patched) :
    namesOf patched = namesOf kept := by
  cases changed with
  | none => rfl
  | some changed => exact congrArg some (map_name_patched changed)

section Accounts

variable {V : Type} {b : Backend V} {answers : Ticket → Reply} {mark : Ticket} {key : Key}
  {start s u : Session} {said : List Signal} {effects : List CacheEffect} {p : ScopePhase}

/-- **Requests since a state**: later ones have greater tickets, and the
answers there are to them are the backend's. -/
structure Requests (answers : Ticket → Reply) (start : Session) (said : List Signal) (s : Session) :
    Prop where
  /-- What was said. -/
  journal : s.journal = said ++ start.journal
  /-- Tickets go on. -/
  tickets : start.nextTicket ≤ s.nextTicket
  /-- Answers are the backend's. -/
  truthful : Truthful answers start.nextTicket s
  /-- The next ticket is of none of them. -/
  below : ∀ r ∈ requestsOf said, r.1 < s.nextTicket
  /-- Later ones have greater tickets. -/
  apart : (requestsOf said).Pairwise fun r q => q.1 < r.1

theorem Requests.issue (h : Requests answers start said s) (command : Wire.Command) :
    Requests answers start (.request s.nextTicket command :: said) (s.issue command).2 := by
  have new : requestsOf (.request s.nextTicket command :: said) =
      (s.nextTicket, command) :: requestsOf said := rfl
  refine ⟨congrArg (_ :: ·) h.journal, Nat.le_succ_of_le h.tickets, h.truthful, ?_, ?_⟩
  · rw [new]
    intro r hr
    rcases List.mem_cons.1 hr with rfl | old
    · exact Nat.lt_succ_self _
    · exact Nat.lt_succ_of_lt (h.below r old)
  · rw [new]
    exact List.pairwise_cons.2 ⟨fun r hr => h.below r hr, h.apart⟩

theorem Requests.passage (h : Requests answers start said s)
    (does : Passage answers mark key p s u) :
    ∃ new, requestsOf new = [] ∧ Requests answers start (new ++ said) u := by
  obtain ⟨new, grown, silent⟩ := does.journal
  have same : requestsOf (new ++ said) = requestsOf said := by
    rw [requestsOf_append, silent, List.nil_append]
  refine ⟨new, silent, ?_, ?_, ?_, ?_, ?_⟩
  · rw [grown, h.journal, List.append_assoc]
  · exact does.tickets.symm ▸ h.tickets
  · exact fun r hr => h.truthful r (List.mem_of_mem_filter (does.replies ▸ hr))
  · exact same ▸ does.tickets ▸ h.below
  · exact same ▸ h.apart

/-- A ticket names what was sent under it. -/
theorem Requests.commandUnder (h : Requests answers start said s) {r : Ticket × Wire.Command}
    (asked : r ∈ requestsOf said) : s.commandUnder r.1 = some r.2 := by
  obtain ⟨later, earlier, split⟩ := List.append_of_mem asked
  have apart := split ▸ h.apart
  -- Those sent later have other tickets, so looking the ticket up goes past them.
  rw [Session.commandUnder, h.journal, requestsOf_append, split, List.append_assoc]
  refine List.lookup_eq_some_iff.2 ⟨later, _, rfl, fun q hq => ?_⟩
  have after := (List.pairwise_append.1 apart).2.2 q hq r (.head _)
  exact bne_iff_ne.2 (Nat.ne_of_lt after)

/-- Of the answers there were, those are left that the call did not wait
for. -/
theorem Passage.isAnswered (does : Passage answers mark key p s u) {e : Ticket × Reply}
    (there : e ∈ s.replies) : u.isAnswered e.1 = p.all (·.1 != e.1) := by
  rw [Session.isAnswered, does.replies, Bool.eq_iff_iff, List.any_eq_true]
  constructor
  · rintro ⟨e', left, same⟩
    exact eq_of_beq same ▸ (List.mem_filter.1 left).2
  · exact fun left => ⟨e, List.mem_filter.2 ⟨there, left⟩, beq_self_eq_true _⟩

/-- What a call took is what it waited for. -/
theorem Passage.takenIn (does : Passage answers mark key p s u) : takenIn s u = p.map (·.1) := by
  -- An answer that is gone is one the call waited for, so the first of them is its own.
  have is : Session.takenIn s u = (s.replies.find? fun e => !p.all (·.1 != e.1)).map (·.1) :=
    congrArg (Option.map _) (List.find?_congr fun e there => by rw [does.isAnswered there])
  rw [is]
  cases p with
  | none =>
    rw [List.find?_eq_none.2 (by simp)]
    rfl
  | some r =>
    obtain ⟨e, there, same⟩ := List.any_eq_true.1 (does.answered r rfl)
    obtain ⟨e', found⟩ := Option.isSome_iff_exists.1
      (List.find?_isSome.2 ⟨e, there, by simpa [bne] using (eq_of_beq same).symm⟩ :
        (s.replies.find? fun e => !(some r).all (·.1 != e.1)).isSome = true)
    have named := List.find?_some found
    rw [found]
    exact congrArg some (by simpa using named : r.1 = e'.1).symm

/-- The effect of what a call took. -/
theorem Passage.effectIn (does : Passage answers mark key p s u)
    (requests : Requests answers start said s) (asked : ∀ r ∈ p, r ∈ requestsOf said) :
    effectIn answers s u = p.bind fun r => r.2.cacheEffect? answers r.1 := by
  rw [Session.effectIn, does.takenIn]
  cases p with
  | none => rfl
  | some r =>
    have is := requests.commandUnder (asked r rfl)
    simp [is]

/-- Whether properties that are kept show what is due after effects. -/
def ShownAfter (b : Backend V) (said : List Signal) (effects : List CacheEffect)
    (kept : Option (List Property)) : Prop :=
  ∀ properties, kept = some properties → ∀ p ∈ properties, ∀ v, p.value = some v →
    b.Shows v (b.valueTaken said effects p.name)

/-- **The answer that is taken last** is what is shown of the variables it
concerns. -/
theorem Took.shown {before after : Option (List Property)} (took : Took b.answers p before after)
    (applies : b.AppliesInOrder said) (apart : (requestsOf said).Pairwise fun r q => q.1 < r.1)
    (asked : ∀ r ∈ p, r ∈ requestsOf said) (shown : ShownAfter b said effects before) :
    ShownAfter b said
      ((p.bind fun r => r.2.cacheEffect? b.answers r.1).toList ++ effects) after := by
  cases took with
  | idle none =>
    rw [none]
    exact shown
  -- A listing concerns every variable, and has the values as of its own request.
  | @listing ticket question r _ properties listed made =>
    have effect := Wire.Command.cacheEffect?_listing listed question
    rintro _ ⟨⟩ q there v value
    obtain ⟨o, k, entry, is⟩ := made.values q there v value
    have request := mem_requestsOf.1 (asked _ rfl)
    rw [Option.bind_some, effect]
    exact ⟨o, k, is, applies ticket question r q.name o request listed entry⟩
  | @write ticket scope name result frame _ _ accepted changed =>
    have effect := Wire.Command.cacheEffect?_write accepted scope name
      (Primitive.argumentOfRemote result) frame
    rw [Option.bind_some, effect]
    -- A write concerns the variables of its name, and leaves what is due of the others.
    rintro patched rfl q there v value
    cases changed with
    | @some properties _ changed =>
      rcases patched_of_mem changed there with ⟨rfl, k, now⟩ | ⟨other, old⟩
      · obtain rfl := Option.some.inj (value.symm.trans now)
        have concerns : (CacheEffect.wrote ticket q.name).concerns q.name = true := by
          simp [CacheEffect.concerns]
        have is : b.valueTaken said (.wrote ticket q.name :: effects) q.name =
            b.valueAsOf said ticket q.name := by
          rw [Backend.valueTaken, List.find?_cons_of_pos concerns]
          rfl
        refine ⟨result, k, rfl, ?_⟩
        exact (is.trans (Backend.valueAsOf_write apart (asked _ rfl) accepted)).symm
      · have aside : ¬ (CacheEffect.wrote ticket name).concerns q.name = true := by
          simpa [CacheEffect.concerns] using other.symm
        have is : b.valueTaken said (.wrote ticket name :: effects) q.name =
            b.valueTaken said effects q.name := by
          rw [Backend.valueTaken, List.find?_cons_of_neg aside]
          rfl
        exact is.symm ▸ shown properties rfl q old v value

/-- **The listing that is taken last** gives the names. -/
theorem Took.names {before after : Option (List Property)} (took : Took b.answers p before after)
    {first : Option (List String)} (names : namesOf before = (b.namesTaken effects).or first) :
    namesOf after =
      (b.namesTaken ((p.bind fun r => r.2.cacheEffect? b.answers r.1).toList ++ effects)).or
        first := by
  cases took with
  | idle none =>
    rw [none]
    exact names
  | @listing ticket question r _ properties listed made =>
    have effect := Wire.Command.cacheEffect?_listing listed question
    have taken : b.namesTaken (.listed ticket :: effects) = some (r.entries.map (·.1)) := by
      have newest : (CacheEffect.listed ticket :: effects).findSome? CacheEffect.listing? =
          some ticket := rfl
      simp [Backend.namesTaken, newest, listed]
    rw [Option.bind_some, effect]
    change some (properties.map (·.name)) = (b.namesTaken (.listed ticket :: effects)).or first
    rw [taken, made.names]
    rfl
  | @write ticket scope name result frame _ _ accepted changed =>
    have effect := Wire.Command.cacheEffect?_write accepted scope name
      (Primitive.argumentOfRemote result) frame
    rw [Option.bind_some, effect, namesOf_patched changed]
    exact names

/-- **What is kept is accounted for** by the effects there were. -/
structure CacheAccount (b : Backend V) (start : Session) (key : Key) (said : List Signal)
    (effects : List CacheEffect) (s : Session) : Prop where
  /-- The requests since the start. -/
  requests : Requests b.answers start said s
  /-- The effects are of requests that were sent. -/
  below : ∀ e ∈ effects, e.ticket < s.nextTicket
  /-- The names are those of the last listing. -/
  names : namesOf (s.scopeListing key) =
    (b.namesTaken effects).or (namesOf (start.scopeListing key))
  /-- What is kept shows what is due. -/
  shown : b.AppliesInOrder said → ShownAfter b said effects (s.scopeListing key)

/-- Later requests do not change what is due after effects. -/
theorem valueTaken_append {new : List Signal} (name : String)
    (later : ∀ e ∈ effects, ∀ r ∈ requestsOf new, e.ticket < r.1) :
    b.valueTaken (new ++ said) effects name = b.valueTaken said effects name := by
  rw [Backend.valueTaken, Backend.valueTaken]
  cases found : effects.find? (·.concerns name) with
  | none => rfl
  | some e => exact Backend.valueAsOf_append name (later e (List.mem_of_find?_eq_some found))

theorem ShownAfter.append {new : List Signal} {kept : Option (List Property)}
    (h : ShownAfter b said effects kept)
    (later : ∀ e ∈ effects, ∀ r ∈ requestsOf new, e.ticket < r.1) :
    ShownAfter b (new ++ said) effects kept := by
  intro properties is q there v value
  rw [valueTaken_append q.name later]
  exact h properties is q there v value

theorem CacheAccount.issue (h : CacheAccount b start key said effects s) (command : Wire.Command) :
    CacheAccount b start key (.request s.nextTicket command :: said) effects
      (s.issue command).2 := by
  refine ⟨h.requests.issue command, fun e he => Nat.lt_succ_of_lt (h.below e he), h.names,
    fun applies => ?_⟩
  have new : ∀ r ∈ requestsOf [.request s.nextTicket command], r.1 = s.nextTicket := by
    simp [requestsOf, Signal.request?]
  have after : b.AppliesInOrder ([.request s.nextTicket command] ++ said) := applies
  have before : b.AppliesInOrder said :=
    after.of_append fun r hr q hq => (new r hr).symm ▸ h.requests.below q hq
  have shown : ShownAfter b ([.request s.nextTicket command] ++ said) effects
      (s.scopeListing key) :=
    (h.shown before).append fun e he r hr => (new r hr).symm ▸ h.below e he
  exact shown

theorem CacheAccount.passage (h : CacheAccount b start key said effects s)
    (does : Passage b.answers mark key p s u) (asked : ∀ r ∈ p, r ∈ requestsOf said) :
    ∃ new, requestsOf new = [] ∧
      CacheAccount b start key (new ++ said) ((effectIn b.answers s u).toList ++ effects) u := by
  obtain ⟨new, silent, requests⟩ := h.requests.passage does
  refine ⟨new, silent, requests, ?_, ?_, fun applies => ?_⟩
  · rw [does.effectIn h.requests asked, does.tickets]
    intro e he
    rcases List.mem_append.1 he with here | old
    · obtain ⟨r, waited, effect⟩ := Option.bind_eq_some_iff.1 (Option.mem_toList.1 here)
      exact Wire.Command.cacheEffect?_ticket effect ▸ h.requests.below r (asked r waited)
    · exact h.below e old
  · rw [does.effectIn h.requests asked]
    exact does.took.names h.names
  · have before : b.AppliesInOrder said :=
      applies.of_append (by simp [silent])
    have same : requestsOf (new ++ said) = requestsOf said := by
      rw [requestsOf_append, silent, List.nil_append]
    rw [does.effectIn h.requests asked]
    exact does.took.shown applies requests.apart (same.symm ▸ asked)
      ((h.shown before).append (by simp [silent]))

theorem CacheAccount.outside (h : CacheAccount b start key said effects s) (news : ScopeNews) :
    CacheAccount b start key said effects (news.apply b.answers s) := by
  obtain ⟨⟨journal, tickets, truthful, below, apart⟩, noted, names, shown⟩ := h
  cases news with
  | gone => exact ⟨⟨journal, tickets, truthful, below, apart⟩, noted, names, shown⟩
  | answer ticket =>
    refine ⟨⟨journal, tickets, fun r hr _ => ?_, below, apart⟩, noted, names, shown⟩
    rcases List.mem_cons.1 hr with rfl | old
    · rfl
    · exact truthful r old ‹_›

end Accounts

/-! ## All calls -/

section Pools

variable {V : Type} {b : Backend V} {h : Handle} {ref : ScopeRef} {start : Session}

/-- The calls under way wait for answers to what they have sent, and what is
kept is accounted for. -/
def CacheLedger (b : Backend V) (key : Key) (start : Session)
    (pool : Flow.Pool ScopeCall ScopePhase Session (Listing ⊕ Option String) CacheEffect) : Prop :=
  ∃ said, CacheAccount b start key said pool.notes pool.state ∧
    ∀ w ∈ pool.waiting, ∃ r ∈ requestsOf said, w.place = some r

/-- **Every step keeps the ledger.** -/
theorem CacheLedger.step
    {a c : Flow.Pool ScopeCall ScopePhase Session (Listing ⊕ Option String) CacheEffect}
    (ledger : CacheLedger b h.key start a)
    (st : Flow.Pool.Shadow (caching h ref b.answers)
      (fun _ => cacheProtocol b.answers start.nextTicket h.key) none (fun _ => True) a c) :
    CacheLedger b h.key start c := by
  obtain ⟨said, accounted, waiting⟩ := ledger
  -- What is said while a call ends is no request, so the others wait for what they waited for.
  have still : ∀ (new : List Signal) (w : Flow.Standing ScopeCall ScopePhase), w ∈ a.waiting →
      ∃ r ∈ requestsOf (new ++ said), w.place = some r := by
    intro new w there
    obtain ⟨r, asked, place⟩ := waiting w there
    exact ⟨r, requestsOf_append new said ▸ List.mem_append_right _ asked, place⟩
  cases st with
  | @opens call q s moves =>
    obtain ⟨command, u, does, rfl, rfl⟩ := moves
    obtain ⟨new, -, after⟩ := accounted.passage does (by simp)
    refine ⟨_, after.issue command, fun w there => ?_⟩
    rcases List.mem_append.1 there with old | last
    · exact still (_ :: new) _ old
    · obtain rfl := List.mem_singleton.1 last
      exact ⟨_, .head _, rfl⟩
  | @passes call result s ends =>
    obtain ⟨new, -, after⟩ := accounted.passage ends (by simp)
    exact ⟨_, after, still new⟩
  | @goes l r w q s was moves =>
    obtain ⟨command, u, does, rfl, rfl⟩ := moves
    obtain ⟨asked, there, place⟩ := waiting w (by simp [was])
    obtain ⟨new, -, after⟩ := accounted.passage does (by simpa [place] using there)
    refine ⟨_, after.issue command, fun v hv => ?_⟩
    rcases List.mem_append.1 hv with left | right
    · exact still (_ :: new) _ (was ▸ List.mem_append_left _ left)
    · rcases List.mem_cons.1 right with rfl | right
      · exact ⟨_, .head _, rfl⟩
      · exact still (_ :: new) _ (was ▸ List.mem_append_right _ (.tail _ right))
  | @closes l r w result s was ends =>
    obtain ⟨asked, there, place⟩ := waiting w (by simp [was])
    obtain ⟨new, -, after⟩ := accounted.passage ends (by simpa [place] using there)
    refine ⟨_, after, fun v hv => ?_⟩
    rcases List.mem_append.1 hv with left | right
    · exact still new _ (was ▸ List.mem_append_left _ left)
    · exact still new _ (was ▸ List.mem_append_right _ (.tail _ right))
  | @outside event =>
    exact ⟨said, accounted.outside event, waiting⟩

variable (b h ref start) in
/-- The calls on the object of a scope after moves. -/
def afterScopeCalls (moves : List (Flow.Move ScopeCall ScopeNews)) :
    Flow.Pool ScopeCall (Work (Listing ⊕ Option String)) Session (Listing ⊕ Option String)
      CacheEffect :=
  Flow.Pool.play (caching h ref b.answers) { state := start } moves

/-- What is due after effects is the newest value, if every write of the
variable was sent before the request of the last effect. -/
theorem valueTaken_eq_valueNow {said : List Signal} {effects : List CacheEffect} {name : String}
    (last : ∀ w ∈ acceptedIn b.answers said, w.2.1 = name →
      ∃ e, effects.find? (·.concerns name) = some e ∧ w.1 ≤ e.ticket) :
    b.valueTaken said effects name = b.valueNow said name := by
  cases found : effects.find? (·.concerns name) with
  | some e =>
    rw [Backend.valueTaken, found]
    refine Backend.valueAsOf_eq_valueNow fun w hw named => ?_
    obtain ⟨e', is, sent⟩ := last w hw named
    obtain rfl := Option.some.inj (found.symm.trans is)
    exact sent
  | none =>
    have unwritten : (acceptedIn b.answers said).find? (·.2.1 = name) = none := by
      refine List.find?_eq_none.2 fun w hw named => ?_
      obtain ⟨e, is, -⟩ := last w hw (of_decide_eq_true named)
      cases found.symm.trans is
    rw [Backend.valueTaken, found, Backend.valueNow, Backend.valueAfter, unwritten]
    rfl

/-- **What is kept of a scope follows the answers that were taken**, whatever
is called and answered, in any order. The names are those of the listing whose
answer was taken last. A variable shows its value as of the request whose
answer was taken last, of the listings and of the writes of that variable.
This is the newest one if no write of the variable that was accepted was sent
after that request. -/
theorem cache_follows (fresh : ShownAfter b [] [] (start.scopeListing h.key))
    (unasked : ∀ r ∈ start.replies, r.1 < start.nextTicket)
    (moves : List (Flow.Move ScopeCall ScopeNews))
    (applies : b.AppliesInOrder
      ((afterScopeCalls b h ref start moves).state.saidSince start.journal.length)) :
    let pool := afterScopeCalls b h ref start moves
    let said := pool.state.saidSince start.journal.length
    namesOf (pool.state.scopeListing h.key) =
        (b.namesTaken pool.notes).or (namesOf (start.scopeListing h.key)) ∧
      ∀ properties, pool.state.scopeListing h.key = some properties →
        ∀ p ∈ properties, ∀ v, p.value = some v →
          b.Shows v (b.valueTaken said pool.notes p.name) ∧
            ((∀ w ∈ acceptedIn b.answers said, w.2.1 = p.name →
                ∃ e, pool.notes.find? (·.concerns p.name) = some e ∧ w.1 ≤ e.ticket) →
              b.Shows v (b.valueNow said p.name)) := by
  intro pool said
  have starts : Flow.Pool.Shadows (fun _ => cacheProtocol b.answers start.nextTicket h.key)
      (afterScopeCalls b h ref start []) { state := start } :=
    ⟨rfl, rfl, .nil, rfl, rfl⟩
  have first : CacheLedger b h.key start { state := start } := by
    refine ⟨[], ⟨⟨rfl, Nat.le_refl _, fun r hr asked => ?_, by simp [requestsOf], .nil⟩, by simp,
      rfl, fun _ => fresh⟩, by simp⟩
    exact absurd (unasked r hr) (Nat.not_lt.2 asked)
  obtain ⟨a, follows, said', accounted, -⟩ := Flow.Pool.play_shadow
    (fun a (ledger : CacheLedger b h.key start a) _ => by
      obtain ⟨_, accounted, -⟩ := ledger
      exact ⟨accounted.requests.tickets, accounted.requests.truthful⟩)
    (fun c s given => obeys_caching c given.1) (fun _ _ ledger st => ledger.step st) starts first
    moves (fun _ _ => trivial)
  -- The ledger is of the shadow, which shares the state and the notes with the calls.
  have same : said' = said := by
    have journal := accounted.requests.journal
    rw [follows.state] at journal
    exact (saidSince_eq journal).symm
  rw [same, follows.state, follows.notes] at accounted
  refine ⟨accounted.names, fun properties kept p there v value => ?_⟩
  have shows := accounted.shown applies properties kept p there v value
  exact ⟨shows, fun last => valueTaken_eq_valueNow last ▸ shows⟩

end Pools

/-! ## Two listings and a write -/

/-- The argument that is a text stands for the text. -/
theorem ofRemote_text {o : Wire.RemoteObject} {text : String}
    (is : Primitive.argumentOfRemote o = { value := some (.str text) }) (k : Key) :
    (Value.ofRemote o k).1 = .primitive (.ofRemote o) ∧ Primitive.ofRemote o = .string text := by
  unfold Primitive.argumentOfRemote at is
  split at is
  · cases is
  · cases is
  · rename_i spelling identifier
    split at is
    · cases is
    · have json : o.value.getD .null = .str text := by simpa using is
      cases value : o.value with
      | none => simp [value] at json
      | some j =>
        rw [value, Option.getD_some] at json
        exact ⟨by rw [Value.ofRemote_primitive identifier],
          by simp [Primitive.ofRemote, spelling, value, json, Primitive.ofJson]⟩

/-- The text a backend sends for the variable it is asked to list or to
evaluate. -/
def textObject (text : String) : Json := .obj [("type", .str "string"), ("value", .str text)]

/-- The variable `x` is an old text. It is listed twice; an evaluation gives a
new text, and the write that follows is accepted. -/
def oldThenNew : Backend Wire.CallArgument where
  answers
    | 0 | 1 =>
      .ok (.obj [("result", .arr [.obj [("name", .str "x"), ("value", textObject "old")]])])
    | 2 => .ok (.obj [("result", textObject "new")])
    | _ => .ok (.obj [])
  denotes := id
  original _ := .ofString "old"

/-- A session with a scope whose variables were not listed. -/
def unlisted : Session := connect 0 (.root ⟨0, "page", .frame⟩) {}

/-- What is said if the scope is listed twice and the variable written. -/
def twoListingsAndWrite : List Signal :=
  let question : Wire.PropertyQuery :=
    { objectId := "scope", ownProperties := true, accessorsOnly := false, nonIndexedOnly := false,
      generatePreview := true }
  [.request 3 (.setVariableValue 0 "x" (.ofString "new") "frame"),
    .request 2 (.evaluate { expression := "f()", silent := true }),
    .request 1 (.getProperties question), .request 0 (.getProperties question)]

theorem oldThenNew_applies : oldThenNew.AppliesInOrder twoListingsAndWrite := by
  intro ticket question r name o there listed entry
  have request := mem_requestsOf.2 there
  simp only [twoListingsAndWrite, requestsOf, List.filterMap_cons, Signal.request?,
    List.filterMap_nil, List.mem_cons, Prod.mk.injEq, reduceCtorEq, and_false, false_or,
    List.not_mem_nil, or_false] at request
  have before : oldThenNew.valueAsOf twoListingsAndWrite ticket name = .ofString "old" := by
    rcases request with ⟨rfl, -⟩ | ⟨rfl, -⟩ <;> rfl
  have has : (listed? (oldThenNew.answers ticket)).map (·.entries) =
      some [("x", some { type := .string, value := some (.str "old") })] := by
    rcases request with ⟨rfl, -⟩ | ⟨rfl, -⟩ <;> rfl
  rw [listed, Option.map_some, Option.some.injEq] at has
  rw [has, List.mem_singleton] at entry
  cases entry
  exact before.symm

/-- The answers to the listings come in, and then those of the write. -/
def listedBeforeWrite : List (Flow.Move ScopeCall ScopeNews) :=
  [.begin (.listOwn true false), .begin (.listOwn true false), .outside (.answer 1), .carry 1,
    .outside (.answer 0), .carry 0, .begin (.assign "x" "f()"), .outside (.answer 2), .carry 0,
    .outside (.answer 3), .carry 0]

theorem newest_once_written :
    let pool := afterScopeCalls oldThenNew localScope ⟨0, some "frame"⟩ unlisted listedBeforeWrite
    pool.Quiet ∧ ∃ p v, pool.state.scopeListing localScope.key = some [p] ∧ p.name = "x" ∧
      p.value = some v ∧ oldThenNew.Shows v (.ofString "new") := by
  refine ⟨rfl, _, _, rfl, rfl, rfl, ?_⟩
  have follows := (@cache_follows _ oldThenNew localScope ⟨0, some "frame"⟩ unlisted
    (fun _ listed => by cases listed) (fun _ hr => by cases hr) listedBeforeWrite
    oldThenNew_applies).2 _ rfl _ (.head _) _ rfl
  refine follows.2 fun w hw _ => ⟨.wrote 3 "x", rfl, ?_⟩
  obtain rfl := List.mem_singleton.1 hw
  exact Nat.le_refl 3

/-- One of the answers to the listings comes in last. -/
def listedAfterWrite : List (Flow.Move ScopeCall ScopeNews) :=
  [.begin (.listOwn true false), .begin (.listOwn true false), .outside (.answer 0), .carry 0,
    .begin (.assign "x" "f()"), .outside (.answer 2), .carry 1, .outside (.answer 3), .carry 1,
    .outside (.answer 1), .carry 0]

/-- **A late listing undoes a write** in what is kept: all calls have ended,
the write was accepted, and the variable shows the old text. -/
theorem overwritten_by_late_listing :
    let pool := afterScopeCalls oldThenNew localScope ⟨0, some "frame"⟩ unlisted listedAfterWrite
    let said := pool.state.saidSince unlisted.journal.length
    pool.Quiet ∧ oldThenNew.AppliesInOrder said ∧
      ∃ p v, pool.state.scopeListing localScope.key = some [p] ∧ p.name = "x" ∧ p.value = some v ∧
        ¬ oldThenNew.Shows v (oldThenNew.valueNow said "x") := by
  refine ⟨rfl, oldThenNew_applies, _, _, rfl, rfl, rfl, ?_⟩
  rintro ⟨o, k, made, denotes⟩
  obtain ⟨is, text⟩ := ofRemote_text denotes k
  rw [is] at made
  injection made with same
  have old : Primitive.string "old" = Primitive.ofRemote o := congrArg LocalPrimitive.value same
  rw [text] at old
  simp at old

end Session

end DebugClient
