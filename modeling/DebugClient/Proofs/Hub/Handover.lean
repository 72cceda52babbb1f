import DebugClient.Proofs.Hub.Desk
/-!
# Handover — identities that go from one session to another

After a navigation the backend may give a session an identity that another
session had before. The sessions are renewed one after another: each takes
on its new identity, whoever has it, and takes the old one out of the
registry, whosever it is by then.

`Found` says who is found in the midst of that, and `Midway` that the
registry holds exactly those. So a session that took on the identity of one
that was to be renewed later is lost.
-/

namespace DebugClient

/-- A session that is registered, while sessions are renewed: `renewed` says
whether it has been, and `held` whether it is held for it. -/
structure Session.Enrolled (start : Session) (new : DebuggerId) (renewed held : Prop)
    [Decidable renewed] [Decidable held] (s : Session) : Prop where
  /-- It is at its place. -/
  seat : s.seat = start.seat
  /-- Its agent is enabled. -/
  enabled : s.isEnabled = true
  /-- It exists, and goes on to exist when it is let go. -/
  holders : (if held then 1 else 0) < s.holders
  /-- It has the new identity once it was renewed. -/
  identity : s.debuggerId = if renewed then some new else start.debuggerId
  /-- That was announced. -/
  announced : s.post.announced = start.post.announced + if renewed then 1 else 0
  /-- Tickets go on. -/
  tickets : start.nextTicket ≤ s.nextTicket
  /-- Answers to new requests name the new identity. -/
  replies : ∀ r ∈ s.replies, start.nextTicket ≤ r.1 → Reply.Names r.2 new

/-- The registry of a session does not matter. -/
theorem Session.Enrolled.elsewhere {start s : Session} {new : DebuggerId}
    {renewed held renewed' held' : Prop} [Decidable renewed] [Decidable held] [Decidable renewed']
    [Decidable held'] (h : start.Enrolled new renewed held s) (hr : renewed' ↔ renewed)
    (ht : held' ↔ held) (registry : Registry) :
    start.Enrolled new renewed' held' { s with registry } := by
  refine ⟨h.seat, h.enabled, ?_, ?_, ?_, h.tickets, h.replies⟩
  · rw [if_congr ht rfl rfl]
    exact h.holders
  · rw [if_congr hr rfl rfl]
    exact h.identity
  · rw [if_congr hr rfl rfl]
    exact h.announced

/-- A session that is renewed takes its answer, takes on its new identity and
is let go. -/
theorem Session.Enrolled.renew {start s : Session} {new : DebuggerId}
    {renewed held renewed' held' : Prop} [Decidable renewed] [Decidable held] [Decidable renewed']
    [Decidable held'] (h : start.Enrolled new renewed held s) (left : ¬ renewed) (due : held)
    (done : renewed') (free : ¬ held') (ticket : Ticket) :
    start.Enrolled new renewed' held' ((s.takeReply ticket).2.identify new).letGo := by
  have calm := s.calm_takeReply ticket
  have post := (s.takeReply ticket).2.post_identify new
  have replies := (s.takeReply ticket).2.replies_identify new
  have rest : ((s.takeReply ticket).2.identify new).holders = s.holders ∧
      ((s.takeReply ticket).2.identify new).nextTicket = s.nextTicket := by
    rw [identify, withdraw_eq]
    exact ⟨rfl, rfl⟩
  rw [calm.post] at post
  generalize (s.takeReply ticket).2.identify new = t at post replies rest
  have holders := h.holders
  have announced := h.announced
  rw [if_pos due] at holders
  rw [if_neg left] at announced
  refine ⟨?_, ?_, ?_, ?_, ?_, ?_, fun r hr => ?_⟩
  · exact (congrArg Post.seat post).trans h.seat
  · have same : t.enablement = s.enablement := congrArg Post.enablement post
    exact (congrArg (· != Enablement.disabled) same).trans h.enabled
  · rw [if_neg free]
    change 0 < t.holders - 1
    omega
  · rw [if_pos done]
    exact congrArg Post.identity post
  · rw [if_pos done, show t.letGo.post = t.post from rfl, post]
    exact congrArg (· + 1) announced
  · exact le_of_le_of_eq h.tickets rest.2.symm
  · have there : r ∈ (s.takeReply ticket).2.replies := replies ▸ hr
    exact h.replies r (calm.replies r there)

namespace Hub

/-- **Sessions that await their renewal**: all that are registered exist and
are enabled, each under the identity it has, and nothing that was not asked
for was answered. -/
structure Assembled (h : Hub) : Prop where
  /-- Identities may have changed. -/
  stale : h.registry.stale = true
  /-- An identity is registered once. -/
  nodup : (h.registry.entries.map (·.1)).Nodup
  /-- A session that is registered is at its place. -/
  seat : ∀ e ∈ h.registry.entries, e.2 < h.sessions.length ∧ (h.desk e.2).seat = e.2
  /-- It is registered under its identity. -/
  identity : ∀ e ∈ h.registry.entries, (h.desk e.2).debuggerId = some e.1
  /-- It is enabled and exists. -/
  enabled : ∀ e ∈ h.registry.entries, (h.desk e.2).isEnabled = true ∧ (h.desk e.2).live = true
  /-- Only requests have answers. -/
  unasked : ∀ e ∈ h.registry.entries, ∀ r ∈ (h.desk e.2).replies, r.1 < (h.desk e.2).nextTicket

/-- **Who is found** under an identity when some sessions have been renewed, in
this order: who was given it, unless a session that was renewed later had it
before; or who has it and is still to be renewed, unless it was given to one
that has been. -/
def Found (start : Hub) (new : Nat → DebuggerId) (renewed : List Nat) (id : DebuggerId) (k : Nat) :
    Prop :=
  (∃ earlier later, renewed = earlier ++ k :: later ∧ new k = id ∧
      ∀ j ∈ later, (start.desk j).debuggerId ≠ some id) ∨
    k ∈ start.registered ∧ k ∉ renewed ∧ (start.desk k).debuggerId = some id ∧
      ∀ j ∈ renewed, new j ≠ id

/-- **In the midst of it**: some sessions have been renewed, and some are held
for it. -/
structure Midway (start : Hub) (new : Nat → DebuggerId) (renewed todo : List Nat) (h : Hub) : Prop where
  /-- No session was added. -/
  count : h.sessions.length = start.sessions.length
  /-- Who was registered is enrolled. -/
  enrolled : ∀ j ∈ start.registered,
    (start.desk j).Enrolled (new j) (j ∈ renewed) (j ∈ todo) (h.desk j)
  /-- An identity is registered once. -/
  nodup : (h.registry.entries.map (·.1)).Nodup
  /-- Who is registered is found. -/
  mem_iff : ∀ id j, (id, j) ∈ h.registry.entries ↔ Found start new renewed id j

variable {start h : Hub} {new : Nat → DebuggerId} {renewed todo : List Nat} {j k : Nat}
  {id : DebuggerId}

/-! ## Who is registered -/

theorem desk_live (hk : k < h.sessions.length) : h.isLive k = (h.desk k).live := by
  simp [isLive, desk, session?, hk, Session.live]

namespace Assembled

variable (assembled : start.Assembled)
include assembled

theorem registered_eq : start.registered = start.registry.entries.map (·.2) := by
  refine List.filter_eq_self.2 fun k hk => ?_
  obtain ⟨e, there, rfl⟩ := List.mem_map.1 hk
  rw [desk_live (assembled.seat e there).1]
  exact (assembled.enabled e there).2

/-- What is registered of a session is its identity. -/
theorem mem_entries : (id, k) ∈ start.registry.entries ↔
    k ∈ start.registered ∧ (start.desk k).debuggerId = some id := by
  rw [assembled.registered_eq]
  constructor
  · intro there
    exact ⟨List.mem_map_of_mem there, assembled.identity _ there⟩
  · rintro ⟨hk, is⟩
    obtain ⟨e, there, rfl⟩ := List.mem_map.1 hk
    have same : e.1 = id := Option.some.inj ((assembled.identity e there).symm.trans is)
    exact same ▸ there

theorem nodup_registered : start.registered.Nodup := by
  rw [assembled.registered_eq]
  refine (List.Nodup.of_map _ assembled.nodup).map_on fun e he f hf same => ?_
  have identity := (assembled.identity e he).symm.trans (same ▸ assembled.identity f hf)
  exact Prod.ext (Option.some.inj identity) same

/-- No two sessions have one identity. -/
theorem identity_inj (hj : j ∈ start.registered) (hk : k ∈ start.registered)
    (same : (start.desk j).debuggerId = (start.desk k).debuggerId) : j = k := by
  obtain ⟨e, there, rfl⟩ := List.mem_map.1 (assembled.registered_eq ▸ hk)
  rw [assembled.identity e there] at same
  have first := assembled.mem_entries.2 ⟨hj, same⟩
  have is := List.inj_on_of_nodup_map assembled.nodup first there rfl
  exact congrArg Prod.snd is

theorem inside (hk : k ∈ start.registered) : k < start.sessions.length ∧ (start.desk k).seat = k := by
  obtain ⟨e, there, rfl⟩ := List.mem_map.1 (assembled.registered_eq ▸ hk)
  exact assembled.seat e there

end Assembled

/-! ## Who is found -/

theorem Found.mem (found : Found start new renewed id k) (sub : renewed ⊆ start.registered) :
    k ∈ start.registered := by
  rcases found with ⟨earlier, later, rfl, -, -⟩ | ⟨hk, -, -, -⟩
  · exact sub (by simp)
  · exact hk

theorem found_nil : Found start new [] id k ↔
    k ∈ start.registered ∧ (start.desk k).debuggerId = some id := by
  simp [Found]

/-- One more session is renewed: it is found under its new identity, and under
its old one and its new one nobody else is. -/
theorem found_snoc (assembled : start.Assembled)
    (apart : ∀ i ∈ start.registered, ∀ j ∈ start.registered, new i = new j → i = j)
    (sub : renewed ⊆ start.registered) (hk : k ∈ start.registered) (left : k ∉ renewed) :
    Found start new (renewed ++ [k]) id j ↔
      Found start new renewed id j ∧ (start.desk k).debuggerId ≠ some id ∧ new k ≠ id ∨
        new k = id ∧ j = k := by
  constructor
  · rintro (⟨earlier, later, split, is, nobody⟩ | ⟨hj, away, was, nobody⟩)
    · -- The session that was renewed last is the one that is found, or comes after it.
      rcases List.eq_nil_or_concat later with rfl | ⟨later', last, rfl⟩
      · obtain ⟨-, same⟩ := List.append_inj' split rfl
        obtain rfl : k = j := by simpa using same
        exact .inr ⟨is, rfl⟩
      · rw [List.concat_eq_append] at split nobody
        have split' : renewed ++ [k] = (earlier ++ j :: later') ++ [last] := by simpa using split
        obtain ⟨rfl, same⟩ := List.append_inj' split' rfl
        obtain rfl : k = last := by simpa using same
        have before : ∀ i ∈ later', (start.desk i).debuggerId ≠ some id :=
          fun i hi => nobody i (List.mem_append_left _ hi)
        refine .inl ⟨.inl ⟨earlier, later', rfl, is, before⟩, nobody k (by simp), fun same => left ?_⟩
        have hj : j ∈ start.registered := sub (by simp)
        rw [apart k hk j hj (same.trans is.symm)]
        simp
    · have others : ∀ i ∈ renewed, new i ≠ id := fun i hi => nobody i (List.mem_append_left _ hi)
      have ne : j ≠ k := by
        rintro rfl
        exact away (by simp)
      refine .inl ⟨.inr ⟨hj, fun hr => away (List.mem_append_left _ hr), was, others⟩, fun same => ?_,
        nobody k (by simp)⟩
      exact ne (assembled.identity_inj hj hk (was.trans same.symm))
  · -- Who was found before stays found, under an identity that the session neither had nor gets.
    rintro (⟨⟨earlier, later, rfl, is, nobody⟩ | ⟨hj, away, was, nobody⟩, old, other⟩ | ⟨is, rfl⟩)
    · refine .inl ⟨earlier, later ++ [k], by simp, is, fun i hi => ?_⟩
      rcases List.mem_append.1 hi with before | last
      · exact nobody i before
      · rw [List.mem_singleton.1 last]
        exact old
    · have ne : j ≠ k := by
        rintro rfl
        exact old was
      refine .inr ⟨hj, fun there => ?_, was, fun i hi => ?_⟩
      · rcases List.mem_append.1 there with before | last
        · exact away before
        · exact ne (List.mem_singleton.1 last)
      · rcases List.mem_append.1 hi with before | last
        · exact nobody i before
        · rw [List.mem_singleton.1 last]
          exact other
    · exact .inl ⟨renewed, [], rfl, is, by simp⟩

/-! ## What goes on at a place -/

namespace Midway

variable {todo' : List Nat} {s : Session}

theorem inside (midway : Midway start new renewed todo h) (assembled : start.Assembled)
    (hk : k ∈ start.registered) : k < h.sessions.length :=
  midway.count ▸ (assembled.inside hk).1

/-- Who was registered still exists: whoever holds a session for its renewal is
not the only one. -/
theorem live (midway : Midway start new renewed todo h) (assembled : start.Assembled)
    (hk : k ∈ start.registered) : h.isLive k = true := by
  have holders := (midway.enrolled k hk).holders
  rw [desk_live (midway.inside assembled hk), Session.live, decide_eq_true_iff]
  omega

/-- What is put at a place is seen there, and elsewhere only its registry. -/
theorem put (midway : Midway start new renewed todo h) (assembled : start.Assembled)
    {renewed' : List Nat} (inside : k < h.sessions.length)
    (enrolled : k ∈ start.registered →
      (start.desk k).Enrolled (new k) (k ∈ renewed') (k ∈ todo') s)
    (others : ∀ j ≠ k, (j ∈ renewed' ↔ j ∈ renewed) ∧ (j ∈ todo' ↔ j ∈ todo))
    (nodup : (s.registry.entries.map (·.1)).Nodup)
    (mem_iff : ∀ id j, (id, j) ∈ s.registry.entries ↔ Found start new renewed' id j) :
    Midway start new renewed' todo' (h.put k s) := by
  refine ⟨by simp [Hub.put, midway.count], fun j hj => ?_, nodup, mem_iff⟩
  by_cases same : j = k
  · subst same
    rw [desk_put inside]
    exact enrolled hj
  · have there : j < h.sessions.length := midway.inside assembled hj
    have seen : (h.put k s).desk j = { h.desk j with registry := s.registry } := by
      simp [desk, session?, Hub.put, there, Ne.symm same]
    rw [seen]
    exact (midway.enrolled j hj).elsewhere (others j same).1 (others j same).2 s.registry

/-- Nobody is renewed by it. -/
theorem keep (midway : Midway start new renewed todo h) (assembled : start.Assembled)
    (inside : k < h.sessions.length) (registry : s.registry = (h.desk k).registry)
    (enrolled : k ∈ start.registered →
      (start.desk k).Enrolled (new k) (k ∈ renewed) (k ∈ todo') s)
    (others : ∀ j ≠ k, (j ∈ todo' ↔ j ∈ todo)) : Midway start new renewed todo' (h.put k s) := by
  rw [desk_registry inside] at registry
  refine midway.put assembled inside enrolled (fun j ne => ⟨Iff.rfl, others j ne⟩) ?_ ?_
  · rw [registry]
    exact midway.nodup
  · rw [registry]
    exact midway.mem_iff

theorem remark (midway : Midway start new renewed todo h) (assembled : start.Assembled)
    (stale : Bool) :
    Midway start new renewed todo { h with registry := { h.registry with stale } } := by
  refine ⟨midway.count, fun j hj => ?_, midway.nodup, midway.mem_iff⟩
  have there : j < h.sessions.length := midway.inside assembled hj
  have seen : desk j { h with registry := { h.registry with stale } } =
      { h.desk j with registry := { h.registry with stale } } := by
    simp [desk, session?, there]
  rw [seen]
  exact (midway.enrolled j hj).elsewhere Iff.rfl Iff.rfl _

theorem issue (midway : Midway start new renewed todo h) (assembled : start.Assembled)
    (hk : k ∈ start.registered) (command : Wire.Command) :
    Midway start new renewed todo (h.put k ((h.desk k).issue command).2) := by
  have inside : k < h.sessions.length := midway.inside assembled hk
  have before := midway.enrolled k hk
  refine midway.keep assembled inside rfl (fun _ => ?_) fun _ _ => Iff.rfl
  have announced := congrArg Post.announced ((h.desk k).calm_issue command).post
  exact ⟨before.seat, before.enabled, before.holders, before.identity,
    announced.trans before.announced, Nat.le_succ_of_le before.tickets, before.replies⟩

theorem answer (midway : Midway start new renewed todo h) (assembled : start.Assembled)
    (ticket : Ticket) {reply : Reply} (names : reply.Names (new k)) :
    Midway start new renewed todo (h.change k (·.answer ticket reply)) := by
  by_cases inside : k < h.sessions.length
  · rw [change_eq_put inside]
    refine midway.keep assembled inside rfl (fun hk => ?_) fun _ _ => Iff.rfl
    have before := midway.enrolled k hk
    refine ⟨before.seat, before.enabled, before.holders, before.identity, before.announced,
      before.tickets, fun r hr asked => ?_⟩
    rcases List.mem_cons.1 hr with rfl | old
    · exact names
    · exact before.replies r old asked
  · rw [change_of_length_le (Nat.le_of_not_lt inside)]
    exact midway

theorem acquire (midway : Midway start new renewed todo h) (assembled : start.Assembled)
    (hk : k ∈ start.registered) : Midway start new renewed (k :: todo) (h.acquire k) := by
  have inside : k < h.sessions.length := midway.inside assembled hk
  have before := midway.enrolled k hk
  rw [Hub.acquire, change_eq_put inside]
  refine midway.keep assembled inside rfl (fun _ => ?_) fun j ne => by simp [ne]
  refine ⟨before.seat, before.enabled, ?_, before.identity, before.announced, before.tickets,
    before.replies⟩
  have held := before.holders
  rw [if_pos (List.mem_cons_self)]
  have one : (h.desk k).acquire.holders = (h.desk k).holders + 1 := rfl
  omega

/-- **A session is renewed**: it takes its answer, takes on its new identity and is let go. -/
theorem renew (midway : Midway start new renewed (k :: todo) h) (assembled : start.Assembled)
    (apart : ∀ i ∈ start.registered, ∀ j ∈ start.registered, new i = new j → i = j)
    (sub : renewed ⊆ start.registered) (hk : k ∈ start.registered) (left : k ∉ renewed)
    (once : k ∉ todo) (ticket : Ticket) :
    Midway start new (renewed ++ [k]) todo
      ((h.put k (((h.desk k).takeReply ticket).2.identify (new k))).letGo k) := by
  have inside : k < h.sessions.length := midway.inside assembled hk
  have before := midway.enrolled k hk
  generalize taken : ((h.desk k).takeReply ticket).2 = s
  have calm := taken ▸ (h.desk k).calm_takeReply ticket
  -- What the session is when it is renewed.
  have post := s.post_identify (new k)
  rw [calm.post] at post
  have identity : s.debuggerId = (start.desk k).debuggerId := by
    rw [← taken]
    exact before.identity.trans (if_neg left)
  have entries := s.entries_identify (new k)
  have seat : s.seat = k := by
    rw [← taken]
    exact before.seat.trans (assembled.inside hk).2
  rw [calm.registry, desk_registry inside, identity, seat] at entries
  rw [Hub.letGo, change_eq_put (by simpa [Hub.put] using inside), desk_put inside, put_put]
  refine midway.put assembled inside (fun _ => ?_) (fun j ne => by simp [ne]) ?_ fun id j => ?_
  · exact taken ▸ before.renew left List.mem_cons_self (by simp) once ticket
  · exact entries ▸ Roster.nodup_named midway.nodup _ _ k
  · -- Its old entry and that of its new identity go, and its own comes: that is `found_snoc`.
    have is : (s.identify (new k)).letGo.registry.entries = (s.identify (new k)).registry.entries := rfl
    rw [is, entries, found_snoc assembled apart sub hk left, ← midway.mem_iff]
    simp only [List.mem_append, Roster.mem_without, List.mem_singleton, Prod.mk.injEq]
    grind

/-- All sessions are held before the first is renewed. -/
theorem acquireAll {seats : List Nat} (midway : Midway start new renewed todo h)
    (assembled : start.Assembled) (hs : ∀ k ∈ seats, k ∈ start.registered)
    (all : ∀ j, j ∈ todo' ↔ j ∈ seats ∨ j ∈ todo) :
    Midway start new renewed todo' (seats.foldl (fun h k => h.acquire k) h) := by
  induction seats generalizing h todo with
  | nil =>
    have same : ∀ j, j ∈ todo' ↔ j ∈ todo := by simpa using all
    refine ⟨midway.count, fun j hj => ?_, midway.nodup, midway.mem_iff⟩
    exact (midway.enrolled j hj).elsewhere Iff.rfl (same j) (h.desk j).registry
  | cons k rest ih =>
    refine ih (midway.acquire assembled (hs k List.mem_cons_self))
      (fun j hj => hs j (List.mem_cons_of_mem _ hj)) fun j => ?_
    rw [all j, List.mem_cons, List.mem_cons]
    tauto

/-- **What a lookup gives** is who is found. -/
theorem find_iff (midway : Midway start new renewed todo h) (assembled : start.Assembled)
    (sub : renewed ⊆ start.registered) : h.find? id = some k ↔ Found start new renewed id k := by
  rw [← midway.mem_iff, ← Lookup.lookup_iff_mem midway.nodup, find?, Option.filter_eq_some_iff]
  refine ⟨fun found => found.1, fun found => ⟨found, ?_⟩⟩
  have hk : k ∈ start.registered :=
    ((midway.mem_iff id k).1 (Lookup.mem_of_lookup found)).mem sub
  exact midway.live assembled hk

end Midway

/-- Before any session is renewed, everyone is found under the identity they have. -/
theorem Assembled.midway (assembled : start.Assembled) : Midway start new [] [] start := by
  refine ⟨rfl, fun j hj => ?_, assembled.nodup, fun id j => ?_⟩
  · rw [assembled.registered_eq] at hj
    obtain ⟨e, there, rfl⟩ := List.mem_map.1 hj
    obtain ⟨enabled, live⟩ := assembled.enabled e there
    refine ⟨rfl, enabled, ?_, rfl, rfl, Nat.le_refl _, fun r hr asked => ?_⟩
    · exact of_decide_eq_true live
    · exact absurd (assembled.unasked e there r hr) (Nat.not_lt.2 asked)
  · rw [found_nil, assembled.mem_entries]

/-- The sessions that have announced themselves since a hub was assembled, in
the order they were registered. -/
def renewedSince (start h : Hub) : List Nat :=
  start.registered.filter fun k => (start.desk k).post.announced < (h.desk k).post.announced

/-- **The sessions that have been renewed** are those that have announced
themselves. -/
theorem Midway.renewedSince_eq (midway : Midway start new renewed todo h)
    (assembled : start.Assembled) {rest : List Nat} (order : start.registered = renewed ++ rest) :
    renewedSince start h = renewed := by
  have apart := assembled.nodup_registered
  rw [order, List.nodup_append] at apart
  have is : ∀ k ∈ start.registered,
      decide ((start.desk k).post.announced < (h.desk k).post.announced) = decide (k ∈ renewed) := by
    intro k hk
    rw [(midway.enrolled k hk).announced, decide_eq_decide]
    split <;> simp [*]
  rw [renewedSince, List.filter_congr is, order, List.filter_append]
  have all : renewed.filter (fun k => decide (k ∈ renewed)) = renewed :=
    List.filter_eq_self.2 fun k hk => decide_eq_true hk
  have none : rest.filter (fun k => decide (k ∈ renewed)) = [] :=
    List.filter_eq_nil_iff.2 fun k hk there => apart.2.2 k (of_decide_eq_true there) k hk rfl
  rw [all, none, List.append_nil]

end Hub
end DebugClient
