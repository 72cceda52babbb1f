import DebugClient.Proofs.Flow.Records
import DebugClient.Proofs.Hub.Agreement
import DebugClient.Proofs.Hub.Handover
/-!
# Renewals — what is found while sessions are renewed

After a navigation the first lookup renews all sessions, one after another.
It alone waits; lookups that are made meanwhile see that nothing is stale any
more and answer at once, from what the registry holds by then. So what a
lookup gives is what is found once the sessions have been renewed that were
renewed when it ended (`resolved`).

That need not be the session that has the identity. `lost_to_a_handover` is a
run in which two sessions exchange their identities, and one is lost, and in
which another lookup answers too early.
-/

namespace DebugClient

/-- Takes the answer that names an identity, and takes the identity on. -/
def Session.learn (ticket : Ticket) (command : Wire.Command) : Work Unit := do
  match ← Work.reply ticket command Wire.Reply.identity with
  | .ok id => Flow.modify (identify id)
  | .error _ => return ()

namespace Hub

/-! ## What is left of a lookup -/

/-- Sessions are renewed, and then an identity is looked up. -/
def finding (seats : List Nat) (id : DebuggerId) : Flow Hub (Option Nat) :=
  (Flow.forEach renewHeld seats).bind fun _ => Flow.look (·.find? id)

/-- A session was asked for its identity, and others are to follow. -/
def learning (k : Nat) (ticket : Ticket) (command : Wire.Command) (later : List Nat)
    (id : DebuggerId) : Flow Hub (Option Nat) :=
  (within k (Session.learn ticket command)).bind fun _ =>
    (Flow.modify (letGo k)).bind fun _ => finding later id

/-- The command that asks a session for its identity. -/
def asking (s : Session) : Wire.Command := .enableDebugger s.settings.cacheSize

variable {start h : Hub} {new : Nat → DebuggerId} {k : Nat} {id : DebuggerId}

/-- The next session is asked for its identity. -/
theorem toWait_finding_cons (enabled : (h.desk k).isEnabled = true) (later : List Nat)
    (id : DebuggerId) :
    (finding (k :: later) id).toWait h =
      (learning k (h.desk k).nextTicket (asking (h.desk k)) later id,
        h.put k ((h.desk k).issue (asking (h.desk k))).2) := by
  -- The session is looked at first: only one that is enabled is asked.
  have goes : (finding (k :: later) id).toWait h =
      (((within k (if (h.desk k).isEnabled = true then Session.syncIdentity else pure ())).bind
        fun _ => Flow.modify (letGo k)).bind fun _ => finding later id).toWait h := by
    rw [finding, Flow.forEach, Flow.bind_assoc]
    rfl
  rw [goes, if_pos enabled, Flow.bind_assoc]
  rfl

/-- Its answer is taken, and the rest follow. -/
theorem pass_learning {ticket : Ticket} {reply : Reply} {name : DebuggerId}
    (answered : (h.desk k).replies.lookup ticket = some reply) (names : reply.Names name)
    (inside : k < h.sessions.length) (command : Wire.Command) (later : List Nat) (id : DebuggerId) :
    (learning k ticket command later id).pass h =
      (finding later id).toWait
        ((h.put k (((h.desk k).takeReply ticket).2.identify name)).letGo k) := by
  obtain ⟨json, rfl, is⟩ := names
  have read : Work.decode command Wire.Reply.identity ((h.desk k).takeReply ticket).1 = .ok name := by
    simp [Session.takeReply, answered, Work.decode, is]
  have goes : (learning k ticket command later id).pass h =
      ((within k (match Work.decode command Wire.Reply.identity ((h.desk k).takeReply ticket).1 with
        | .ok id => Flow.modify (Session.identify id)
        | .error _ => pure ())).bind fun _ =>
          (Flow.modify (letGo k)).bind fun _ => finding later id).toWait
            (h.put k ((h.desk k).takeReply ticket).2) := rfl
  have seen := desk_put inside ((h.desk k).takeReply ticket).2
  rw [goes, read]
  change (finding later id).toWait (letGo k ((h.put k ((h.desk k).takeReply ticket).2).put k
    (((h.put k ((h.desk k).takeReply ticket).2).desk k).identify name))) = _
  rw [seen, put_put]

/-- A lookup begins with the mark that identities are stale. -/
theorem toWait_resolve (h : Hub) (id : DebuggerId) :
    (resolve id).toWait h =
      (if h.registry.stale = true then renewAll >>= fun _ => Flow.look (·.find? id)
        else Flow.look (·.find? id)).toWait h.takeStale.2 := rfl

theorem toWait_resolve_current (current : h.registry.stale = false) (id : DebuggerId) :
    (resolve id).toWait h = (.done (h.find? id), h) := by
  have same : h.takeStale.2 = h := by
    obtain ⟨sessions, entries, stale⟩ := h
    cases current
    rfl
  rw [toWait_resolve, current, same]
  rfl

theorem toWait_resolve_stale (stale : h.registry.stale = true) (id : DebuggerId) :
    (resolve id).toWait h =
      (finding h.registered id).toWait
        (h.registered.foldl (fun h k => h.acquire k) h.takeStale.2) := by
  rw [toWait_resolve, if_pos stale]
  rfl

/-! ## What becomes of the registry -/

theorem registry_put (inside : k < h.sessions.length) {s : Session}
    (same : s.registry = (h.desk k).registry) : (h.put k s).registry = h.registry :=
  same.trans (desk_registry inside)

theorem registry_change {f : Session → Session} (same : ∀ s, (f s).registry = s.registry) (k : Nat)
    (h : Hub) : (h.change k f).registry = h.registry := by
  by_cases inside : k < h.sessions.length
  · rw [change_eq_put inside]
    exact registry_put inside (same _)
  · rw [change_of_length_le (Nat.le_of_not_lt inside)]

theorem registry_acquireAll (seats : List Nat) (h : Hub) :
    (seats.foldl (fun h k => h.acquire k) h).registry = h.registry := by
  induction seats generalizing h with
  | nil => rfl
  | cons k rest ih => exact (ih _).trans (registry_change (f := Session.acquire) (fun _ => rfl) k h)

/-- A session that is renewed makes nothing stale. -/
theorem stale_identify (s : Session) (id : DebuggerId) :
    (s.identify id).registry.stale = s.registry.stale := by
  unfold Session.identify Session.withdraw
  split <;> [split; skip] <;> rfl

/-! ## The system -/

/-- Lookups of identities, while the backends answer. Noted of a lookup is, each
time it goes on, who has been renewed by then. -/
def lookups (start : Hub) (answers : Nat → Ticket → Reply) :
    Flow.System DebuggerId (Nat × Ticket) Hub (Option Nat) (Nat × List Nat) where
  program := resolve
  outside e h := h.change e.1 (·.answer e.2 (answers e.1 e.2))
  note number _ _ h := [(number, renewedSince start h)]

/-- Lookups side by side. -/
abbrev Lookups := Flow.Pool DebuggerId (Flow Hub (Option Nat)) Hub (Option Nat) (Nat × List Nat)

/-- Lookups in a hub, and answers of its backends, in any order. -/
def lookedUp (start : Hub) (answers : Nat → Ticket → Reply)
    (moves : List (Flow.Move DebuggerId (Nat × Ticket))) : Lookups :=
  Flow.Pool.play (lookups start answers) { state := start } moves

/-- **How lookups stand**: none was made yet; the first renews sessions and
waits for one of them; or all sessions have been renewed. -/
inductive Stage (start : Hub) (new : Nat → DebuggerId) (pool : Lookups) : Prop where
  | fresh (begun : pool.begun = 0) (waiting : pool.waiting = []) (ended : pool.ended = [])
      (registry : pool.state.registry = start.registry) (midway : Midway start new [] [] pool.state)
  | amid {renewed later : List Nat} {k : Nat} {ticket : Ticket} {command : Wire.Command}
      {id : DebuggerId} (begun : 0 < pool.begun) (order : start.registered = renewed ++ k :: later)
      (waiting : pool.waiting = [⟨0, id, learning k ticket command later id⟩])
      (asked : (start.desk k).nextTicket ≤ ticket) (current : pool.state.registry.stale = false)
      (midway : Midway start new renewed (k :: later) pool.state)
  | rested (begun : 0 < pool.begun) (waiting : pool.waiting = [])
      (current : pool.state.registry.stale = false)
      (midway : Midway start new start.registered [] pool.state)

/-- What is due of a lookup that has ended: it has found who is found once those
sessions have been renewed that were renewed by then. -/
def Due (start : Hub) (new : Nat → DebuggerId) (id : DebuggerId) (path : List (List Nat))
    (result : Option Nat) : Prop :=
  ∃ renewed older, path = renewed :: older ∧ renewed <+: start.registered ∧
    ∀ k, result = some k ↔ Found start new renewed id k

/-- **What is so of lookups** at all times. -/
structure Watched (start : Hub) (new : Nat → DebuggerId) (pool : Lookups) : Prop where
  /-- The notes are a record, and what is due has been found. -/
  logged : Flow.Pool.Logged (fun _ _ _ => True) (Due start new) pool
  /-- Ever more sessions are renewed. -/
  grows : pool.notes.Pairwise fun later earlier => earlier.2 <+: later.2
  /-- The last note is not ahead of the hub. -/
  below : ∀ n ∈ pool.notes, n.2 <+: renewedSince start pool.state
  /-- The first lookup ends when all have been renewed. -/
  first : ∀ w ∈ pool.ended, w.number = 0 → ∃ older,
    Flow.Pool.noted 0 pool.notes = start.registered :: older
  /-- The lookups stand somewhere. -/
  stage : Stage start new pool

section Steps

variable {answers : Nat → Ticket → Reply} {a b : Lookups} {renewed todo rest : List Nat}

/-- Who has been renewed is noted. -/
theorem Watched.note (h : Watched start new a) {n : Nat}
    (notes : b.notes = (n, renewedSince start b.state) :: a.notes)
    (on : renewedSince start a.state <+: renewedSince start b.state) :
    b.notes.Pairwise (fun later earlier => earlier.2 <+: later.2) ∧
      ∀ n ∈ b.notes, n.2 <+: renewedSince start b.state := by
  have older : ∀ n ∈ a.notes, n.2 <+: renewedSince start b.state :=
    fun n hn => (h.below n hn).trans on
  rw [notes]
  refine ⟨List.pairwise_cons.2 ⟨older, h.grows⟩, fun n hn => ?_⟩
  rcases List.mem_cons.1 hn with rfl | hn
  · exact List.prefix_refl _
  · exact older n hn

/-- What a lookup finds is due. -/
theorem Midway.due {h : Hub} (midway : Midway start new renewed todo h) (assembled : start.Assembled)
    (order : start.registered = renewed ++ rest) (id : DebuggerId) (older : List (List Nat)) :
    Due start new id (renewedSince start h :: older) (h.find? id) := by
  have sub : renewed <+: start.registered := order ▸ List.prefix_append renewed rest
  refine ⟨_, older, rfl, ?_, fun k => ?_⟩
  · rw [midway.renewedSince_eq assembled order]
    exact sub
  · rw [midway.renewedSince_eq assembled order]
    exact midway.find_iff assembled sub.subset

/-- Wherever lookups stand, some sessions have been renewed. -/
theorem Stage.midway (stage : Stage start new a) :
    ∃ renewed todo rest, start.registered = renewed ++ rest ∧ Midway start new renewed todo a.state := by
  cases stage with
  | fresh _ _ _ _ midway => exact ⟨[], [], _, rfl, midway⟩
  | amid _ order _ _ _ midway => exact ⟨_, _, _, order, midway⟩
  | rested _ _ _ midway => exact ⟨_, [], [], (List.append_nil _).symm, midway⟩

/-- While nobody was renewed, the same sessions are registered. -/
theorem Midway.registered_eq {h : Hub} (midway : Midway start new renewed todo h)
    (assembled : start.Assembled) (sub : renewed ⊆ start.registered)
    (registry : h.registry = start.registry) : h.registered = start.registered := by
  rw [assembled.registered_eq, registered, registry]
  refine List.filter_eq_self.2 fun k hk => ?_
  obtain ⟨e, there, rfl⟩ := List.mem_map.1 hk
  have hk : e.2 ∈ start.registered := ((midway.mem_iff e.1 e.2).1 (registry ▸ there)).mem sub
  exact midway.live assembled hk

/-- Sessions that are still to be renewed: if there are none, the identity is
looked up, and otherwise the next one is asked. -/
theorem Midway.goesOn {h : Hub} {seats : List Nat} (midway : Midway start new renewed seats h)
    (assembled : start.Assembled) (order : start.registered = renewed ++ seats)
    (current : h.registry.stale = false) (id : DebuggerId) :
    seats = [] ∧ (finding seats id).toWait h = (.done (h.find? id), h) ∨
      ∃ k later ticket command h', seats = k :: later ∧
        (finding seats id).toWait h = (learning k ticket command later id, h') ∧
        (start.desk k).nextTicket ≤ ticket ∧ h'.registry.stale = false ∧
        Midway start new renewed seats h' := by
  cases seats with
  | nil => exact .inl ⟨rfl, rfl⟩
  | cons k later =>
    have hk : k ∈ start.registered := order ▸ List.mem_append_right _ List.mem_cons_self
    have enrolled := midway.enrolled k hk
    have inside : k < h.sessions.length := midway.inside assembled hk
    refine .inr ⟨k, later, _, _, _, rfl, toWait_finding_cons enrolled.enabled later id,
      enrolled.tickets, ?_, midway.issue assembled hk _⟩
    exact (congrArg Registry.stale (registry_put inside (s := ((h.desk k).issue _).2) rfl)).trans current

variable (assembled : start.Assembled)
include assembled

/-- Who has been renewed, when an answer has come in. -/
theorem Watched.answer (h : Watched start new a) (named : ∀ k ticket, (answers k ticket).Names (new k))
    (e : Nat × Ticket) :
    Watched start new (a.step (lookups start answers) (.outside e)) := by
  have names := named e.1 e.2
  have registry : ((lookups start answers).outside e a.state).registry = a.state.registry :=
    registry_change (f := fun s => s.answer e.2 (answers e.1 e.2)) (fun _ => rfl) e.1 a.state
  have same : renewedSince start ((lookups start answers).outside e a.state) =
      renewedSince start a.state := by
    obtain ⟨renewed, todo, rest, order, midway⟩ := h.stage.midway
    rw [midway.renewedSince_eq assembled order]
    exact (midway.answer assembled e.2 names).renewedSince_eq assembled order
  obtain ⟨⟨apart, below⟩, owned, waiting, ended⟩ := h.logged
  refine ⟨⟨⟨apart, below⟩, owned, waiting, ended⟩, h.grows, fun n hn => ?_, h.first, ?_⟩
  · rw [Flow.Pool.step, same]
    exact h.below n hn
  · cases h.stage with
    | fresh begun waiting ended was midway =>
      exact .fresh begun waiting ended (registry.trans was) (midway.answer assembled e.2 names)
    | amid begun order waiting asked current midway =>
      exact .amid begun order waiting asked ((congrArg Registry.stale registry).trans current)
        (midway.answer assembled e.2 names)
    | rested begun waiting current midway =>
      exact .rested begun waiting ((congrArg Registry.stale registry).trans current)
        (midway.answer assembled e.2 names)

/-- A lookup that is made once another was answers at once. -/
theorem Watched.passes (h : Watched start new a) (begun : 0 < a.begun)
    (current : a.state.registry.stale = false) (id : DebuggerId)
    (stage : Stage start new a → Stage start new
      { a.reach (lookups start answers) a.begun id a.state with
        begun := a.begun + 1, ended := ⟨a.begun, id, a.state.find? id⟩ :: a.ended }) :
    Watched start new (a.step (lookups start answers) (.begin id)) := by
  have goes : a.step (lookups start answers) (.begin id) =
      a.opened (lookups start answers) id ((resolve id).toWait a.state) := rfl
  rw [goes, toWait_resolve_current current]
  obtain ⟨renewed, todo, rest, order, midway⟩ := h.stage.midway
  have due := midway.due assembled order id []
  obtain ⟨grows, below⟩ := h.note (n := a.begun) (b := a.opened (lookups start answers) id
    (.done (a.state.find? id), a.state)) rfl (List.prefix_refl _)
  have notes : [(a.begun, renewedSince start a.state)] ++ a.notes =
      [renewedSince start a.state].map (a.begun, ·) ++ a.notes := rfl
  refine ⟨h.logged.passes rfl rfl rfl notes due, grows, below, fun w hw zero => ?_, stage h.stage⟩
  rcases List.mem_cons.1 hw with rfl | hw
  · exact absurd zero (Nat.pos_iff_ne_zero.1 begun)
  · obtain ⟨older, is⟩ := h.first w hw zero
    refine ⟨older, ?_⟩
    rw [← is]
    exact Flow.Pool.noted_append_other (Nat.pos_iff_ne_zero.1 begun).symm
      [renewedSince start a.state] a.notes

omit assembled in
theorem opened_learning (a : Lookups) (sys : Flow.System DebuggerId (Nat × Ticket) Hub (Option Nat)
      (Nat × List Nat)) (k : Nat) (ticket : Ticket) (command : Wire.Command) (later : List Nat)
    (id : DebuggerId) (s : Hub) :
    a.opened sys id (learning k ticket command later id, s) =
      { a.reach sys a.begun id s with
        begun := a.begun + 1
        waiting := a.waiting ++ [⟨a.begun, id, learning k ticket command later id⟩] } := rfl

omit assembled in
theorem moved_learning (a : Lookups) (sys : Flow.System DebuggerId (Nat × Ticket) Hub (Option Nat)
      (Nat × List Nat)) (place : Nat) (w : Flow.Standing DebuggerId (Flow Hub (Option Nat))) (k : Nat)
    (ticket : Ticket) (command : Wire.Command) (later : List Nat) (id : DebuggerId) (s : Hub) :
    a.moved sys place w (learning k ticket command later id, s) =
      { a.reach sys w.number w.call s with
        waiting := a.waiting.set place { w with place := learning k ticket command later id } } := rfl

/-- **The first lookup** holds all sessions, and asks the first of them. -/
theorem Watched.begins (h : Watched start new a) (begun : a.begun = 0) (waiting : a.waiting = [])
    (ended : a.ended = []) (registry : a.state.registry = start.registry)
    (midway : Midway start new [] [] a.state) (id : DebuggerId) :
    Watched start new (a.step (lookups start answers) (.begin id)) := by
  have goes : a.step (lookups start answers) (.begin id) =
      a.opened (lookups start answers) id ((resolve id).toWait a.state) := rfl
  have stale : a.state.registry.stale = true := registry ▸ assembled.stale
  have same := midway.registered_eq assembled (by simp) registry
  rw [goes, toWait_resolve_stale stale, same]
  -- All sessions are held, and none has been renewed yet.
  have held : Midway start new [] start.registered
      (start.registered.foldl (fun h k => h.acquire k) a.state.takeStale.2) :=
    (midway.remark assembled false).acquireAll assembled (fun _ hk => hk) (by simp)
  have current : (start.registered.foldl (fun h k => h.acquire k)
      a.state.takeStale.2).registry.stale = false := by
    rw [registry_acquireAll]
    rfl
  have nobody : renewedSince start a.state = [] := midway.renewedSince_eq assembled rfl
  generalize start.registered.foldl (fun h k => h.acquire k) a.state.takeStale.2 = s at held current
  obtain ⟨none, reached⟩ | ⟨k, later, ticket, command, s', is, reached, asked, current', held'⟩ :=
    held.goesOn assembled rfl current id
  · rw [reached]
    have due := held.due assembled rfl id []
    have renewed := held.renewedSince_eq assembled rfl
    obtain ⟨grows, below⟩ := h.note (n := a.begun)
      (b := a.opened (lookups start answers) id (.done (s.find? id), s)) rfl
      (nobody ▸ List.nil_prefix)
    have notes : [(a.begun, renewedSince start s)] ++ a.notes =
        [renewedSince start s].map (a.begun, ·) ++ a.notes := rfl
    refine ⟨h.logged.passes rfl rfl rfl notes due, grows, below, fun w hw zero => ?_, ?_⟩
    · refine ⟨Flow.Pool.noted 0 a.notes, ?_⟩
      have all : renewedSince start s = start.registered := renewed.trans none.symm
      change Flow.Pool.noted 0 ([(a.begun, renewedSince start s)] ++ a.notes) = _
      rw [begun, all]
      exact Flow.Pool.noted_append_self 0 [start.registered] a.notes
    · rw [none] at held
      exact .rested (Nat.succ_pos _) waiting current (none ▸ held)
  · rw [reached, opened_learning]
    have renewed := held'.renewedSince_eq assembled rfl
    obtain ⟨grows, below⟩ := h.note (n := a.begun)
      (b := a.opened (lookups start answers) id (learning k ticket command later id, s')) rfl
      (nobody ▸ List.nil_prefix)
    have notes : [(a.begun, renewedSince start s')] ++ a.notes =
        [renewedSince start s'].map (a.begun, ·) ++ a.notes := rfl
    refine ⟨h.logged.opens rfl rfl rfl notes trivial, grows, below, fun w hw _ => ?_, ?_⟩
    · have none : w ∈ a.ended := hw
      rw [ended] at none
      cases none
    · have waits : a.waiting ++ [⟨a.begun, id, learning k ticket command later id⟩] =
          [⟨0, id, learning k ticket command later id⟩] := by
        rw [waiting, begun]
        rfl
      exact .amid (Nat.succ_pos _) (is.trans (List.nil_append _).symm) waits asked current'
        (is ▸ held')

/-- **The first lookup goes on** when its session has answered: the session is
renewed, and the next one is asked. -/
theorem Watched.carries (h : Watched start new a)
    (apart : ∀ i ∈ start.registered, ∀ j ∈ start.registered, new i = new j → i = j)
    {later : List Nat} {k : Nat} {ticket : Ticket} {command : Wire.Command} {id : DebuggerId}
    (begun : 0 < a.begun) (order : start.registered = renewed ++ k :: later)
    (waiting : a.waiting = [⟨0, id, learning k ticket command later id⟩])
    (asked : (start.desk k).nextTicket ≤ ticket) (current : a.state.registry.stale = false)
    (midway : Midway start new renewed (k :: later) a.state)
    (answered : (a.state.desk k).isAnswered ticket = true) :
    let b := a.moved (lookups start answers) 0 ⟨0, id, learning k ticket command later id⟩
      ((learning k ticket command later id).pass a.state)
    Watched start new b ∧ renewedSince start b.state = renewed ++ [k] := by
  intro b
  unfold b
  have hk : k ∈ start.registered := order ▸ List.mem_append_right _ List.mem_cons_self
  have inside : k < a.state.sessions.length := midway.inside assembled hk
  have sub : renewed ⊆ start.registered := by rw [order]; exact List.subset_append_left _ _
  have once := assembled.nodup_registered
  rw [order, List.nodup_append] at once
  obtain ⟨-, distinct, disjoint⟩ := once
  have left : k ∉ renewed := fun there => disjoint k there k List.mem_cons_self rfl
  -- The answer names the new identity.
  obtain ⟨reply, found⟩ := Lookup.exists_lookup answered
  have names : reply.Names (new k) :=
    (midway.enrolled k hk).replies _ (Lookup.mem_of_lookup found) asked
  rw [pass_learning found names inside]
  have renewal := midway.renew assembled apart sub hk left (List.nodup_cons.1 distinct).1 ticket
  have still : ((a.state.put k (((a.state.desk k).takeReply ticket).2.identify (new k))).letGo
      k).registry.stale = false := by
    have named : ((a.state.desk k).takeReply ticket).2.registry = (a.state.desk k).registry := rfl
    rw [Hub.letGo, registry_change (f := Session.letGo) (fun _ => rfl)]
    change (((a.state.desk k).takeReply ticket).2.identify (new k)).registry.stale = false
    rw [stale_identify, named, desk_registry inside]
    exact current
  generalize (a.state.put k (((a.state.desk k).takeReply ticket).2.identify (new k))).letGo k = s
    at renewal still
  have order' : start.registered = (renewed ++ [k]) ++ later := by rw [order]; simp
  have before := midway.renewedSince_eq assembled order
  have now := renewal.renewedSince_eq assembled order'
  obtain ⟨none, reached⟩ | ⟨k', later', ticket', command', s', is, reached, asked', current', renewal'⟩ :=
    renewal.goesOn assembled order' still id
  · rw [reached]
    rw [none, List.append_nil] at order'
    have due := renewal.due assembled (order'.trans (List.append_nil _).symm) id
      (Flow.Pool.noted 0 a.notes)
    obtain ⟨grows, below⟩ := h.note (n := 0) (b := a.moved (lookups start answers) 0
      ⟨0, id, learning k ticket command later id⟩ (.done (s.find? id), s)) rfl
      (by rw [before]; exact now ▸ List.prefix_append _ _)
    have notes : [(0, renewedSince start s)] ++ a.notes =
        [renewedSince start s].map (0, ·) ++ a.notes := rfl
    have rested : a.waiting.eraseIdx 0 = [] := by rw [waiting]; rfl
    refine ⟨⟨h.logged.closes (l := []) (r := []) waiting rfl rested rfl notes due, grows, below,
      fun w hw _ => ⟨Flow.Pool.noted 0 a.notes, ?_⟩, .rested begun rested still ?_⟩, now⟩
    · change Flow.Pool.noted 0 ([(0, renewedSince start s)] ++ a.notes) = _
      rw [now, ← order']
      exact Flow.Pool.noted_append_self 0 [start.registered] a.notes
    · rw [none, ← order'] at renewal
      exact renewal
  · rw [reached, moved_learning]
    subst is
    have now' := renewal'.renewedSince_eq assembled order'
    obtain ⟨grows, below⟩ := h.note (n := 0) (b := a.moved (lookups start answers) 0
      ⟨0, id, learning k ticket command (k' :: later') id⟩
      (learning k' ticket' command' later' id, s')) rfl
      (by rw [before]; exact now' ▸ List.prefix_append _ _)
    have notes : [(0, renewedSince start s')] ++ a.notes =
        [renewedSince start s'].map (0, ·) ++ a.notes := rfl
    have waits : a.waiting.set 0 ⟨0, id, learning k' ticket' command' later' id⟩ =
        [⟨0, id, learning k' ticket' command' later' id⟩] := by
      rw [waiting]
      rfl
    refine ⟨⟨h.logged.goes (l := []) (r := []) waiting rfl waits rfl notes trivial, grows, below,
      fun w hw zero => ?_, .amid begun order' waits asked' current' renewal'⟩, now'⟩
    -- The first lookup has not ended.
    have others := (h.logged.numbered.others (l := []) (r := []) waiting).2 w hw
    exact absurd zero others

/-- **Every move** keeps what is so of lookups. -/
theorem Watched.step (h : Watched start new a)
    (apart : ∀ i ∈ start.registered, ∀ j ∈ start.registered, new i = new j → i = j)
    (named : ∀ k ticket, (answers k ticket).Names (new k))
    (move : Flow.Move DebuggerId (Nat × Ticket)) :
    Watched start new (a.step (lookups start answers) move) := by
  cases move with
  | begin id =>
    cases h.stage with
    | fresh begun waiting ended registry midway =>
      exact h.begins assembled begun waiting ended registry midway id
    | amid begun order waiting asked current midway =>
      exact h.passes assembled begun current id fun _ =>
        .amid (Nat.succ_pos _) order waiting asked current midway
    | rested begun waiting current midway =>
      exact h.passes assembled begun current id fun _ =>
        .rested (Nat.succ_pos _) waiting current midway
  | carry place =>
    rw [Flow.Pool.step]
    cases found : a.waiting[place]? with
    | none => exact h
    | some w =>
      dsimp only
      split
      · rename_i ready
        cases h.stage with
        | fresh begun waiting => simp [waiting] at found
        | amid begun order waiting asked current midway =>
          rw [waiting] at found
          obtain ⟨rfl, rfl⟩ : place = 0 ∧ _ = w := by
            cases place with
            | zero => exact ⟨rfl, Option.some.inj found⟩
            | succ => cases found
          exact (h.carries assembled apart begun order waiting asked current midway ready).1
        | rested begun waiting => simp [waiting] at found
      · exact h
  | outside e => exact h.answer assembled named e

/-- Lookups come to rest once the backends have answered, without further ones. -/
theorem Watched.rests (h : Watched start new a)
    (apart : ∀ i ∈ start.registered, ∀ j ∈ start.registered, new i = new j → i = j)
    (named : ∀ k ticket, (answers k ticket).Names (new k)) :
    ∃ more, Flow.callsOf more = [] ∧ (a.play (lookups start answers) more).waiting = [] := by
  -- The number of sessions that are still to be renewed goes down.
  induction left : start.registered.length - (renewedSince start a.state).length
    generalizing a with
  | zero =>
    cases h.stage with
    | fresh begun waiting => exact ⟨[], rfl, waiting⟩
    | rested begun waiting => exact ⟨[], rfl, waiting⟩
    | amid begun order waiting asked current midway =>
      rw [midway.renewedSince_eq assembled order, order, List.length_append, List.length_cons] at left
      omega
  | succ n ih =>
    cases h.stage with
    | fresh begun waiting => exact ⟨[], rfl, waiting⟩
    | rested begun waiting => exact ⟨[], rfl, waiting⟩
    | @amid renewed later k ticket command id begun order waiting asked current midway =>
      have hk : k ∈ start.registered := order ▸ List.mem_append_right _ List.mem_cons_self
      have inside : k < a.state.sessions.length := midway.inside assembled hk
      let b := a.step (lookups start answers) (.outside (k, ticket))
      have hb : Watched start new b := h.answer assembled named (k, ticket)
      have still : b.state.registry.stale = false := by
        have same := registry_change (f := fun s => s.answer ticket (answers k ticket)) (fun _ => rfl)
          k a.state
        exact (congrArg Registry.stale same).trans current
      have answered : (b.state.desk k).isAnswered ticket = true := by
        have seen : b.state.desk k = (a.state.desk k).answer ticket (answers k ticket) := by
          change (a.state.change k _).desk k = _
          rw [change_eq_put inside, desk_put inside]
        rw [seen]
        simp [Session.isAnswered, Session.answer]
      have goes : b.step (lookups start answers) (.carry 0) =
          b.moved (lookups start answers) 0 ⟨0, id, learning k ticket command later id⟩
            ((learning k ticket command later id).pass b.state) := by
        have found : b.waiting[0]? = some ⟨0, id, learning k ticket command later id⟩ := by
          change a.waiting[0]? = _
          rw [waiting]
          rfl
        rw [Flow.Pool.step, found]
        exact if_pos answered
      obtain ⟨hc, now⟩ := hb.carries assembled apart begun order waiting asked still
        (midway.answer assembled ticket (named k ticket)) answered
      rw [← goes] at hc now
      rw [midway.renewedSince_eq assembled order] at left
      obtain ⟨more, none, quiet⟩ := ih hc (by rw [now, List.length_append, List.length_singleton]; omega)
      exact ⟨.outside (k, ticket) :: .carry 0 :: more, none, quiet⟩

end Steps

/-! ## What lookups give -/

/-- **What lookups come to**, whatever the order in which sessions are visited
and answers come in. -/
structure Resolved (start : Hub) (answers : Nat → Ticket → Reply) (new : Nat → DebuggerId)
    (pool : Lookups) : Prop where
  /-- Only the first one waits. -/
  waiting : ∀ w ∈ pool.waiting, w.number = 0
  /-- It ends once the backends have answered. -/
  rests : ∃ more, Flow.callsOf more = [] ∧ (pool.play (lookups start answers) more).waiting = []
  /-- Ever more sessions are renewed. -/
  grows : pool.notes.Pairwise fun later earlier => earlier.2 <+: later.2
  /-- A lookup that has ended gives who is found once those sessions have been
  renewed, in the order they were registered, that were renewed when it ended;
  if it is the first, all of them. -/
  found : ∀ w ∈ pool.ended, ∃ renewed older, Flow.Pool.noted w.number pool.notes = renewed :: older ∧
    renewed <+: start.registered ∧ (w.number = 0 → renewed = start.registered) ∧
    ∀ k, w.place = some k ↔ Found start new renewed w.call k

variable {answers : Nat → Ticket → Reply}

theorem watched (assembled : start.Assembled)
    (apart : ∀ i ∈ start.registered, ∀ j ∈ start.registered, new i = new j → i = j)
    (named : ∀ k ticket, (answers k ticket).Names (new k))
    (moves : List (Flow.Move DebuggerId (Nat × Ticket))) :
    Watched start new (lookedUp start answers moves) := by
  induction moves using List.reverseRecOn with
  | nil =>
    refine ⟨.empty rfl rfl rfl, .nil, fun n hn => absurd hn List.not_mem_nil,
      fun w hw => absurd hw List.not_mem_nil, .fresh rfl rfl rfl rfl assembled.midway⟩
  | append_singleton past move ih =>
    rw [lookedUp, Flow.Pool.play_snoc]
    exact ih.step assembled apart named move

/-- **What lookups give after a navigation**, for any number of sessions, every
order in which they are visited, all new identities that differ from each other
and every order of lookups and answers. -/
theorem resolved (assembled : start.Assembled)
    (apart : ∀ i ∈ start.registered, ∀ j ∈ start.registered, new i = new j → i = j)
    (named : ∀ k ticket, (answers k ticket).Names (new k))
    (moves : List (Flow.Move DebuggerId (Nat × Ticket))) :
    Resolved start answers new (lookedUp start answers moves) := by
  have h := watched assembled apart named moves
  refine ⟨fun w hw => ?_, h.rests assembled apart named, h.grows, fun w hw => ?_⟩
  · cases h.stage with
    | fresh begun waiting => simp [waiting] at hw
    | rested begun waiting => simp [waiting] at hw
    | amid begun order waiting =>
      rw [waiting] at hw
      rw [List.mem_singleton.1 hw]
  · obtain ⟨renewed, older, path, part, is⟩ := h.logged.ended w hw
    refine ⟨renewed, older, path, part, fun zero => ?_, is⟩
    obtain ⟨older', all⟩ := h.first w hw zero
    rw [← zero, path] at all
    exact (List.cons.inj all).1

/-- **The session that has an identity** after a navigation. -/
def Bears (start : Hub) (new : Nat → DebuggerId) (id : DebuggerId) (k : Nat) : Prop :=
  k ∈ start.registered ∧ new k = id

/-- Two agents are enabled, and then there is a navigation. -/
def navigation : List (Flow.Move (Call 2) (Event 2)) :=
  [.begin (.enable 0), .outside (.answer 0 0 (naming "first")), .outside (.answer 0 1 nothing),
    .outside (.answer 0 2 nothing), .carry 0, .carry 0, .carry 0,
    .begin (.enable 1), .outside (.answer 1 0 (naming "second")), .outside (.answer 1 1 nothing),
    .outside (.answer 1 2 nothing), .carry 0, .carry 0, .carry 0, .outside .stale]

/-- Two sessions after a navigation. -/
def navigated : Hub := (after [page, page] navigation).state

/-- The sessions exchange their identities. -/
def exchanged (k : Nat) : DebuggerId := if k = 0 then "second" else "first"

/-- Two lookups of one identity: the second is made while the first waits. -/
def overlapping : List (Flow.Move DebuggerId (Nat × Ticket)) :=
  [.begin "second", .begin "second", .outside (0, 3), .carry 0, .outside (1, 3), .carry 0]

theorem assembled_navigated : navigated.Assembled := by
  refine ⟨?_, ?_, ?_, ?_, ?_, ?_⟩
  all_goals decide

theorem resolved_once_exchanged :
    (lookedUp navigated (fun k _ => naming (exchanged k)) overlapping).ended.length = 2 ∧
      Resolved navigated (fun k _ => naming (exchanged k)) exchanged
        (lookedUp navigated (fun k _ => naming (exchanged k)) overlapping) := by
  refine ⟨rfl, resolved assembled_navigated ?_ (fun k _ => ⟨_, rfl, rfl⟩) overlapping⟩
  decide

/-- **Sessions that are not found.** Two sessions exchange their identities. The
first lookup ends when both have been renewed, and finds nobody; the one that is
made meanwhile finds the session that had the identity before. -/
theorem lost_to_a_handover :
    navigated.Assembled ∧ (exchanged 0 ≠ exchanged 1 ∧ navigated.registered = [0, 1]) ∧
      Bears navigated exchanged "second" 0 ∧
      (lookedUp navigated (fun k _ => naming (exchanged k)) overlapping).Quiet ∧
      (lookedUp navigated (fun k _ => naming (exchanged k)) overlapping).ended.map
        (fun w => (w.call, w.place)) = [("second", none), ("second", some 1)] :=
  ⟨assembled_navigated, ⟨by decide, rfl⟩, ⟨by decide, rfl⟩, rfl, rfl⟩

end Hub
end DebugClient
