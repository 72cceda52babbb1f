import DebugClient.Proofs.Hub.Calls
/-!
# Agreement — the state of an agent and its identity

An agent that is enabled should have an identity that the registry knows,
and one that is disabled should have none. Calls that enable, disable and
renew wait for answers in between, so their effects land one by one, in
any order (`Landing`).

Two of them land on the state of an agent, and three on its identity. At
rest the state is what the last of the former made it and the identity
what the last of the latter did (`Settled`), and so the two agree exactly
if those last landings do (`agrees_iff`). Nothing makes them: a renewal
that was asked for before the agent was disabled may land after it
(`late_renewal`).
-/

namespace DebugClient

namespace Hub

/-! ## Landings -/

/-- What a call does to a session at once. -/
inductive Effect where
  /-- Enabling was accepted, and the session takes on its identity. -/
  | accepted
  /-- Enabling was refused, and the agent is disabled. -/
  | refused
  /-- The agent is disabled, and told so. -/
  | disabling
  /-- The agent has taken note, and the session gives up its identity. -/
  | dismissed
  /-- The session takes on the identity it was found to have. -/
  | renewed

/-- Whether the agent is enabled or disabled by it, if it is either. -/
def Effect.turns : Effect → Option Bool
  | accepted => some true
  | refused => some false
  | disabling => some false
  | dismissed => none
  | renewed => none

/-- Whether the session gets an identity or loses it, if it does either. -/
def Effect.names : Effect → Option Bool
  | accepted => some true
  | refused => none
  | disabling => none
  | dismissed => some false
  | renewed => some true

/-- A moment at which a call had its effect on a session. -/
structure Landing where
  /-- The place of the session. -/
  seat : Nat
  /-- The effect. -/
  effect : Effect

/-- What the newest landing on a session that counts has led to; without
one it is as at first. -/
def latest (k : Nat) (counts : Effect → Option Bool) (notes : List Landing) : Bool :=
  (notes.findSome? fun l => if l.seat = k then counts l.effect else none).getD false

theorem latest_cons (k : Nat) (counts : Effect → Option Bool) (e : Effect) (notes : List Landing) :
    latest k counts (⟨k, e⟩ :: notes) = (counts e).getD (latest k counts notes) := by
  simp only [latest, List.findSome?_cons, if_true]
  cases counts e <;> rfl

theorem latest_cons_of_ne {j k : Nat} (h : j ≠ k) (counts : Effect → Option Bool) (e : Effect)
    (notes : List Landing) : latest j counts (⟨k, e⟩ :: notes) = latest j counts notes := by
  simp [latest, h.symm]

/-- What has landed while a call went on, by the rosters before and after:
by the announcements that were made, and by an agent that went off. -/
def Call.landings {n : Nat} (R R' : Roster) : Call n → List Landing
  | enable k =>
    if (R.posts k).announced < (R'.posts k).announced then [⟨k, .accepted⟩]
    else if (R.posts k).enablement ≠ .disabled ∧ (R'.posts k).enablement = .disabled then
      [⟨k, .refused⟩]
    else []
  | disable k =>
    if (R.posts k).dismissed < (R'.posts k).dismissed then [⟨k, .dismissed⟩]
    else if (R.posts k).enablement ≠ .disabled ∧ (R'.posts k).enablement = .disabled then
      [⟨k, .disabling⟩]
    else []
  | resolve _ =>
    ((List.range n).filter fun k => (R.posts k).announced < (R'.posts k).announced).map (⟨·, .renewed⟩)

/-- The calls of a hub of some sessions, with what lands. -/
def calls (n : Nat) : Flow.System (Call n) (Event n) Hub (Option Nat) Landing where
  program := Call.program
  outside := Event.apply
  note _ c h h' := c.landings h.roster h'.roster

/-- A hub to which some targets were connected. -/
def connectAll (targets : List (Target × Settings)) : Hub :=
  targets.foldl (fun h t => h.connect t.1 t.2) {}

/-- A hub after calls on the sessions of some targets and answers of their
backends, in any order. -/
def after (targets : List (Target × Settings))
    (moves : List (Flow.Move (Call targets.length) (Event targets.length))) :
    Flow.Pool (Call targets.length) (Flow Hub (Option Nat)) Hub (Option Nat) Landing :=
  Flow.Pool.play (calls targets.length) { state := connectAll targets } moves

/-- The backend of a session gives it an identity in the course of some
moves. -/
def Gives {n : Nat} (moves : List (Flow.Move (Call n) (Event n))) (k : Nat) (id : DebuggerId) : Prop :=
  ∃ (seat : Fin n) (ticket : Ticket) (reply : Reply),
    .outside (.answer seat ticket reply) ∈ moves ∧ seat = k ∧ reply.Names id

/-- **Agreement**: the agent is enabled exactly if the session has an
identity under which the registry knows it, and if it is disabled, it has
no identity and the registry has no entry of it. -/
def Agrees (h : Hub) (k : Nat) : Prop :=
  ((h.desk k).enablement = .enabled ↔
      ∃ id, (h.desk k).debuggerId = some id ∧ h.registry.find? id = some k) ∧
    ((h.desk k).enablement = .disabled →
      (h.desk k).debuggerId = none ∧ ∀ id, (id, k) ∉ h.registry.entries)

/-! ## What the landings say -/

/-- The post of a session is as the landings so far make it. -/
structure Settled (k : Nat) (R : Roster) (notes : List Landing) : Prop where
  /-- It says whether the agent is enabled. -/
  enabled : (R.posts k).enablement = .enabled ↔ latest k Effect.turns notes = true
  /-- It says whether the session has an identity. -/
  named : (R.posts k).identity.isSome = latest k Effect.names notes

variable {n : Nat} {given : Nat → DebuggerId → Prop} {R R' : Roster} {notes : List Landing} {j : Nat}

theorem landings_self (c : Call n) (R : Roster) : c.landings R R = [] := by
  cases c <;> simp [Call.landings]

theorem Settled.same (h : Settled j R notes) (c : Call n) (same : R' = R) :
    Settled j R' (c.landings R R' ++ notes) := by
  rw [same, landings_self]
  exact h

/-- A session that a landing is not about stays settled. -/
theorem Settled.lands {k : Nat} {e : Effect} (h : Settled j R notes)
    (others : j ≠ k → R'.posts j = R.posts j)
    (self : Settled k R notes → Settled k R' (⟨k, e⟩ :: notes)) : Settled j R' (⟨k, e⟩ :: notes) := by
  by_cases ne : j = k
  · subst ne
    exact self h
  · refine ⟨?_, ?_⟩ <;> rw [others ne, latest_cons_of_ne ne]
    · exact h.enabled
    · exact h.named

theorem landings_switch_enabling (k : Fin n) (R : Roster) :
    (Call.enable k).landings R (R.switch k .enabling) = [] := by
  simp [Call.landings, Roster.switch_posts]

theorem landings_accepted (k : Fin n) (R : Roster) (id : DebuggerId) :
    (Call.enable k).landings R ((R.switch k .enabled).name k id) = [⟨k, .accepted⟩] := by
  simp [Call.landings, Roster.switch_posts, Roster.name_posts]

theorem landings_refused {k : Fin n} (on : (R.posts k).enablement ≠ .disabled) :
    (Call.enable k).landings R (R.switch k .disabled) = [⟨k, .refused⟩] := by
  simp [Call.landings, Roster.switch_posts, on]

theorem landings_disabling {k : Fin n} (on : (R.posts k).enablement ≠ .disabled) :
    (Call.disable k).landings R (R.switch k .disabled) = [⟨k, .disabling⟩] := by
  simp [Call.landings, Roster.switch_posts, on]

theorem landings_dismissed (k : Fin n) (R : Roster) :
    (Call.disable k).landings R (R.unname k) = [⟨k, .dismissed⟩] := by
  simp [Call.landings, Roster.unname_posts]

/-- A renewal lands on the session that was renewed, and on no other. -/
theorem landings_renewed {k : Nat} (hk : k < n) (R : Roster) (i id : DebuggerId) :
    (Call.resolve (n := n) i).landings R (R.name k id) = [⟨k, .renewed⟩] := by
  have only : ∀ j, ((R.posts j).announced < ((R.name k id).posts j).announced) ↔ j = k := by
    intro j
    rw [Roster.name_posts]
    split <;> simp [*]
  have once : (List.range n).count k = 1 :=
    List.count_eq_one_of_mem List.nodup_range (List.mem_range.2 hk)
  simp only [Call.landings, only, List.filter_eq, once]
  rfl

theorem Settled.renews (h : Settled j R notes) (i : DebuggerId) (renews : Renews n given R R') :
    Settled j R' ((Call.resolve (n := n) i).landings R R' ++ notes) := by
  obtain same | ⟨k, hk, id, -, rfl⟩ := renews
  · exact h.same _ same
  rw [landings_renewed hk]
  refine h.lands (fun ne => by rw [Roster.name_posts, if_neg ne]) fun h => ⟨?_, ?_⟩
  · rw [latest_cons, Roster.name_posts, if_pos rfl]
    exact h.enabled
  · rw [latest_cons, Roster.name_posts, if_pos rfl]
    rfl

/-- What a call does before it waits leaves a session settled. -/
theorem Settled.goes (h : Settled j R notes) {c : Call n} {p : Phase} (goes : c.goes given p R R') :
    Settled j R' (c.landings R R' ++ notes) := by
  cases c with
  | enable k =>
    cases p with
    | begun => exact h.same _ goes
    | fresh =>
      obtain ⟨off, rfl⟩ := goes
      rw [landings_switch_enabling]
      refine ⟨?_, ?_⟩ <;> rw [Roster.switch_posts]
      · have before := h.enabled
        split <;> simp_all
      · have before := h.named
        split <;> simp_all
  | disable k =>
    cases p with
    | begun => exact h.same _ goes
    | fresh =>
      obtain ⟨on, rfl⟩ := goes
      rw [landings_disabling on]
      refine h.lands (fun ne => by rw [Roster.switch_posts, if_neg ne]) fun h => ⟨?_, ?_⟩
      · simp [latest_cons, Roster.switch_posts, Effect.turns]
      · rw [latest_cons, Roster.switch_posts, if_pos rfl]
        exact h.named
  | resolve i => cases p <;> exact h.renews i goes

/-- So does what it does before it ends. -/
theorem Settled.finishes (h : Settled j R notes) {c : Call n} {p : Phase}
    (finishes : c.finishes given p R R') : Settled j R' (c.landings R R' ++ notes) := by
  cases c with
  | enable k =>
    cases p with
    | fresh => exact h.same _ finishes.2
    | begun =>
      obtain ⟨-, same⟩ | ⟨on, ⟨id, -, rfl⟩ | rfl⟩ := finishes
      · exact h.same _ same
      · rw [landings_accepted]
        refine h.lands (fun ne => ?_) fun _ => ⟨?_, ?_⟩
        · rw [Roster.name_posts, if_neg ne, Roster.switch_posts, if_neg ne]
        · simp [latest_cons, Roster.name_posts, Roster.switch_posts, Effect.turns]
        · simp [latest_cons, Roster.name_posts, Effect.names]
      · rw [landings_refused on]
        refine h.lands (fun ne => by rw [Roster.switch_posts, if_neg ne]) fun h => ⟨?_, ?_⟩
        · simp [latest_cons, Roster.switch_posts, Effect.turns]
        · rw [latest_cons, Roster.switch_posts, if_pos rfl]
          exact h.named
  | disable k =>
    cases p with
    | fresh => exact h.same _ finishes.2
    | begun =>
      obtain rfl := finishes
      rw [landings_dismissed]
      refine h.lands (fun ne => by rw [Roster.unname_posts, if_neg ne]) fun h => ⟨?_, ?_⟩
      · rw [latest_cons, Roster.unname_posts, if_pos rfl]
        exact h.enabled
      · simp [latest_cons, Roster.unname_posts, Effect.names]
  | resolve i => cases p <;> exact h.renews i finishes

/-! ## Who is being enabled -/

/-- Renewals switch no agent. -/
theorem enablement_of_renews (renews : Renews n given R R') :
    (R'.posts j).enablement = (R.posts j).enablement := by
  obtain rfl | ⟨k, -, id, -, rfl⟩ := renews
  · rfl
  · rw [Roster.name_posts]
    split <;> simp [*]

/-- An agent that is asked to be enabled when a call waits was so before,
or the call is the one that asked. -/
theorem asked_of_goes {c : Call n} {p : Phase} (goes : c.goes given p R R') {j : Fin n}
    (asked : (R'.posts j).enablement = .enabling) :
    (R.posts j).enablement = .enabling ∨ c = .enable j := by
  cases c with
  | enable k =>
    cases p with
    | begun => exact .inl (goes ▸ asked)
    | fresh =>
      obtain ⟨-, rfl⟩ := goes
      rw [Roster.switch_posts] at asked
      split at asked
      · rename_i e
        exact .inr (congrArg Call.enable (Fin.ext e.symm))
      · exact .inl asked
  | disable k =>
    cases p with
    | begun => exact .inl (goes ▸ asked)
    | fresh =>
      obtain ⟨-, rfl⟩ := goes
      rw [Roster.switch_posts] at asked
      split at asked
      · cases asked
      · exact .inl asked
  | resolve i =>
    have renews : Renews n given R R' := by cases p <;> exact goes
    exact .inl (enablement_of_renews renews ▸ asked)

/-- An agent that is asked to be enabled when a call ends was so before,
and a call that waited to enable it is not the one. -/
theorem asked_of_finishes {c : Call n} {p : Phase} (finishes : c.finishes given p R R') {j : Fin n}
    (asked : (R'.posts j).enablement = .enabling) :
    (R.posts j).enablement = .enabling ∧ (p = .begun → c ≠ .enable j) := by
  cases c with
  | enable k =>
    cases p with
    | fresh => exact ⟨finishes.2 ▸ asked, nofun⟩
    | begun =>
      obtain ⟨off, rfl⟩ | ⟨on, ⟨id, -, rfl⟩ | rfl⟩ := finishes
      · refine ⟨asked, fun _ e => ?_⟩
        cases e
        rw [off] at asked
        cases asked
      · -- Whatever the answer, the agent that was to be enabled no longer is.
        have ne : (j : Nat) ≠ k := by
          intro e
          simp [Roster.name_posts, Roster.switch_posts, e] at asked
        rw [Roster.name_posts, if_neg ne, Roster.switch_posts, if_neg ne] at asked
        refine ⟨asked, fun _ e => ne ?_⟩
        cases e
        rfl
      · rw [Roster.switch_posts] at asked
        split at asked
        · cases asked
        · rename_i ne
          refine ⟨asked, fun _ e => ne ?_⟩
          cases e
          rfl
  | disable k =>
    refine ⟨?_, nofun⟩
    cases p with
    | fresh => exact finishes.2 ▸ asked
    | begun =>
      obtain rfl := finishes
      rw [Roster.unname_posts] at asked
      split at asked
      · rename_i e
        exact e ▸ asked
      · exact asked
  | resolve i =>
    have renews : Renews n given R R' := by cases p <;> exact finishes
    exact ⟨enablement_of_renews renews ▸ asked, nofun⟩

/-! ## Every order of calls and answers -/

/-- Only such answers come in as name identities the session was given. -/
def Event.Allowed (given : Nat → DebuggerId → Prop) : Event n → Prop
  | answer k _ reply => ∀ id, reply.Names id → given k id
  | stale => True

/-- **What holds in every order.** The hub is sound, its sessions are as
the landings make them, and an agent that was asked to be enabled has a
call that waits for the answer. -/
structure Orderly (given : Nat → DebuggerId → Prop)
    (pool : Flow.Pool (Call n) Phase Hub (Option Nat) Landing) : Prop where
  /-- The hub is sound. -/
  sound : pool.state.Sound n given
  /-- The sessions are settled. -/
  settled : ∀ k : Fin n, Settled k pool.state.roster pool.notes
  /-- Every call that waits has begun. -/
  begun : ∀ w ∈ pool.waiting, w.place = .begun
  /-- Who is being enabled is waited for. -/
  asked : ∀ k : Fin n, (pool.state.roster.posts k).enablement = .enabling →
    ∃ w ∈ pool.waiting, w.call = .enable k

theorem Sound.event {h : Hub} (sound : h.Sound n given) {e : Event n} (allowed : e.Allowed given) :
    (e.apply h).Sound n given ∧ (e.apply h).roster = h.roster := by
  cases e with
  | answer k ticket reply =>
    rw [Event.apply, change_eq_put (sound.count ▸ k.2)]
    exact sound.answer k.2 ticket allowed
  | stale => exact sound.remark true

/-- Every step of a shadow keeps it orderly. -/
theorem Orderly.step {a b : Flow.Pool (Call n) Phase Hub (Option Nat) Landing}
    (h : Orderly given a)
    (step : Flow.Pool.Shadow (calls n) (Call.protocol given) .fresh (Event.Allowed given) a b) :
    Orderly given b := by
  cases step with
  | @opens c q s moves =>
    obtain ⟨sound, rfl, goes⟩ := moves
    refine ⟨sound, fun k => (h.settled k).goes goes, ?_, fun k hk => ?_⟩
    · intro w hw
      rcases List.mem_append.1 hw with hw | hw
      · exact h.begun w hw
      · rw [List.mem_singleton.1 hw]
    · rcases asked_of_goes goes hk with before | rfl
      · obtain ⟨w, hw, hc⟩ := h.asked k before
        exact ⟨w, List.mem_append_left _ hw, hc⟩
      · exact ⟨_, List.mem_append_right _ (List.mem_singleton.2 rfl), rfl⟩
  | @passes c r s ends =>
    obtain ⟨sound, finishes⟩ := ends
    refine ⟨sound, fun k => (h.settled k).finishes finishes, h.begun, fun k hk => ?_⟩
    exact h.asked k (asked_of_finishes finishes hk).1
  | @goes l r w q s waiting moves =>
    -- The call that goes on still waits, so whoever waited for an answer does.
    obtain ⟨sound, rfl, goes⟩ := moves
    have held : ∀ v, v ∈ a.waiting ↔ v ∈ l ∨ v = w ∨ v ∈ r := by simp [waiting]
    have kept : ∀ v, v ∈ l ++ { w with place := .begun } :: r ↔
        v ∈ l ∨ v = { w with place := .begun } ∨ v ∈ r := by simp
    refine ⟨sound, fun k => (h.settled k).goes goes, fun v hv => ?_, fun k hk => ?_⟩
    · rcases (kept v).1 hv with hl | rfl | hr
      · exact h.begun v ((held v).2 (.inl hl))
      · rfl
      · exact h.begun v ((held v).2 (.inr (.inr hr)))
    · rcases asked_of_goes goes hk with before | hc
      · obtain ⟨v, hv, hc⟩ := h.asked k before
        rcases (held v).1 hv with hl | rfl | hr
        · exact ⟨v, (kept v).2 (.inl hl), hc⟩
        · exact ⟨_, (kept _).2 (.inr (.inl rfl)), hc⟩
        · exact ⟨v, (kept v).2 (.inr (.inr hr)), hc⟩
      · exact ⟨_, (kept _).2 (.inr (.inl rfl)), hc⟩
  | @closes l r w x s waiting ends =>
    -- The call that ends is not the one that an agent still being enabled waits for.
    obtain ⟨sound, finishes⟩ := ends
    have kept : ∀ v, v ∈ l ++ r ↔ v ∈ l ∨ v ∈ r := fun v => List.mem_append
    have held : ∀ v, v ∈ a.waiting ↔ v ∈ l ∨ v = w ∨ v ∈ r := by simp [waiting]
    refine ⟨sound, fun k => (h.settled k).finishes finishes, fun v hv => ?_, fun k hk => ?_⟩
    · exact h.begun v ((held v).2 (((kept v).1 hv).imp id .inr))
    · obtain ⟨before, other⟩ := asked_of_finishes finishes hk
      obtain ⟨v, hv, hc⟩ := h.asked k before
      refine ⟨v, (kept v).2 ?_, hc⟩
      rcases (held v).1 hv with hl | rfl | hr
      · exact .inl hl
      · exact absurd hc (other (h.begun v hv))
      · exact .inr hr
  | @outside e allowed =>
    obtain ⟨sound, same⟩ := h.sound.event allowed
    refine ⟨sound, fun k => ?_, h.begun, fun k hk => h.asked k ?_⟩
    · exact same ▸ h.settled k
    · exact same ▸ hk

/-! ## At first -/

/-- The post of a session that has just been connected. -/
def newPost (k : Nat) : Post := ⟨k, .disabled, none, 0, 0⟩

/-- A hub whose sessions have just been connected. -/
structure Idle (h : Hub) : Prop where
  /-- Nothing is registered. -/
  registry : h.registry = {}
  /-- Every session is new. -/
  posts : ∀ (k : Nat) (s : Session), h.sessions[k]? = some s → s.post = newPost k
  /-- No session has been told anything. -/
  replies : ∀ (k : Nat) (s : Session), h.sessions[k]? = some s → s.replies = []

theorem Idle.connect {h : Hub} (idle : h.Idle) (target : Target) (settings : Settings) :
    (h.connect target settings).Idle := by
  have split : ∀ (k : Nat) (s : Session), (h.connect target settings).sessions[k]? = some s →
      h.sessions[k]? = some s ∨
        k = h.sessions.length ∧ s = Session.connect h.sessions.length target settings := by
    intro k s hs
    rw [Hub.connect, List.getElem?_append] at hs
    split at hs
    · exact .inl hs
    · rename_i hk
      obtain ⟨hk', rfl⟩ := List.getElem?_eq_some_iff.1 hs
      simp only [List.length_singleton] at hk'
      exact .inr ⟨by omega, by simp⟩
  refine ⟨idle.registry, fun k s hs => ?_, fun k s hs => ?_⟩
  · obtain old | ⟨rfl, rfl⟩ := split k s hs
    · exact idle.posts k s old
    · rfl
  · obtain old | ⟨rfl, rfl⟩ := split k s hs
    · exact idle.replies k s old
    · rfl

theorem idle_connectAll (targets : List (Target × Settings)) : (connectAll targets).Idle := by
  have all : ∀ h : Hub, h.Idle → (targets.foldl (fun h t => h.connect t.1 t.2) h).Idle := by
    induction targets with
    | nil => exact fun h idle => idle
    | cons t rest ih => exact fun h idle => ih _ (idle.connect t.1 t.2)
  exact all {} ⟨rfl, by simp, by simp⟩

theorem length_connectAll (targets : List (Target × Settings)) :
    (connectAll targets).sessions.length = targets.length := by
  have all : ∀ h : Hub, (targets.foldl (fun h t => h.connect t.1 t.2) h).sessions.length =
      h.sessions.length + targets.length := by
    induction targets with
    | nil => exact fun h => rfl
    | cons t rest ih =>
      intro h
      rw [List.foldl_cons, ih]
      simp [Hub.connect]
      omega
  exact (all {}).trans (Nat.zero_add _)

/-- At first every session is at rest. -/
theorem orderly_connectAll (targets : List (Target × Settings)) :
    Orderly (n := targets.length) given { state := connectAll targets } := by
  have idle := idle_connectAll targets
  have count := length_connectAll targets
  have posts : ∀ k < targets.length, (connectAll targets).roster.posts k = newPost k := by
    intro k hk
    have hs := List.getElem?_eq_getElem (l := (connectAll targets).sessions) (count ▸ hk)
    rw [← idle.posts k _ hs]
    simp [roster, desk, session?, hs, Session.post]
  have replies : ∀ k < targets.length, ((connectAll targets).desk k).replies = [] := by
    intro k hk
    have hs := List.getElem?_eq_getElem (l := (connectAll targets).sessions) (count ▸ hk)
    rw [← idle.replies k _ hs]
    simp [desk, session?, hs]
  have entries : (connectAll targets).roster.entries = [] := by rw [roster, idle.registry]
  have proper : (connectAll targets).roster.Proper targets.length given := by
    refine ⟨fun k hk => by rw [posts k hk]; rfl, by simp [entries], fun id k => ?_, fun k hk id hid => ?_⟩
    · rw [entries]
      refine ⟨fun there => absurd there List.not_mem_nil, fun is => ?_⟩
      obtain ⟨hk, hid⟩ := is
      rw [posts k hk] at hid
      cases hid
    · rw [posts k hk] at hid
      cases hid
  refine ⟨⟨count, proper, fun k hk a ha => ?_⟩, fun k => ?_,
    fun w hw => absurd hw List.not_mem_nil, fun k hk => ?_⟩
  · rw [replies k hk] at ha
    cases ha
  · refine ⟨?_, ?_⟩ <;> rw [posts k k.2] <;> simp [newPost, latest]
  · rw [posts k k.2] at hk
    cases hk

/-! ## At rest -/

/-- Whatever is called and answered, in any order, the pool is orderly. -/
theorem orderly_after (targets : List (Target × Settings))
    (moves : List (Flow.Move (Call targets.length) (Event targets.length)))
    (distinct : Distinct targets.length (Gives moves)) :
    ∃ shadow, Flow.Pool.Shadows (Call.protocol (Gives moves)) (after targets moves) shadow ∧
      Orderly (Gives moves) shadow := by
  refine Flow.Pool.play_shadow (fun _ h _ => Orderly.sound h)
    (fun c _ sound => obeys_program distinct c sound) (fun _ _ h st => Orderly.step h st)
    ⟨rfl, rfl, .nil, rfl, rfl⟩ (orderly_connectAll targets) moves ?_
  intro e he
  cases e with
  | answer k ticket reply => exact fun id named => ⟨k, ticket, reply, he, rfl, named⟩
  | stale => trivial

/-- In a proper roster a session agrees exactly if it has an identity just
when its agent is enabled. -/
theorem agrees_iff_identity {h : Hub} (sound : h.Sound n given) {k : Nat} (hk : k < n) :
    Agrees h k ↔
      ((h.roster.posts k).enablement = .enabled ↔ (h.roster.posts k).identity.isSome = true) := by
  have find : ∀ id, (h.desk k).debuggerId = some id → h.registry.find? id = some k := fun id hid =>
    sound.proper.lookup_iff.2 ⟨hk, hid⟩
  have known : (∃ id, (h.desk k).debuggerId = some id ∧ h.registry.find? id = some k) ↔
      (h.roster.posts k).identity.isSome = true := by
    rw [Option.isSome_iff_exists]
    exact ⟨fun ⟨id, hid, _⟩ => ⟨id, hid⟩, fun ⟨id, hid⟩ => ⟨id, hid, find id hid⟩⟩
  rw [Agrees, known]
  refine ⟨fun agrees => agrees.1, fun agrees => ⟨agrees, fun off => ?_⟩⟩
  have none : (h.roster.posts k).identity = none := by
    rw [← Option.not_isSome_iff_eq_none, ← agrees]
    exact fun on => nomatch on.symm.trans off
  refine ⟨none, fun id entry => ?_⟩
  have some := ((sound.proper.mem_iff id k).1 entry).2
  rw [none] at some
  cases some

/-- **Nobody is left waiting.** Once no call is under way, an agent is
enabled or disabled. -/
theorem not_enabling_of_quiet (targets : List (Target × Settings))
    (moves : List (Flow.Move (Call targets.length) (Event targets.length)))
    (distinct : Distinct targets.length (Gives moves)) (quiet : (after targets moves).Quiet)
    (k : Fin targets.length) : ((after targets moves).state.desk k).enablement ≠ .enabling := by
  obtain ⟨shadow, follows, orderly⟩ := orderly_after targets moves distinct
  intro asked
  rw [← follows.state] at asked
  obtain ⟨w, hw, -⟩ := orderly.asked k asked
  rw [follows.quiet_iff.2 quiet] at hw
  cases hw

/-- **When a session agrees.** Whatever was called and answered, in any
order, a session agrees exactly if the last landing that turned its agent
on or off turned it on just when the last one that gave or took its
identity gave it one. -/
theorem agrees_iff (targets : List (Target × Settings))
    (moves : List (Flow.Move (Call targets.length) (Event targets.length)))
    (distinct : Distinct targets.length (Gives moves)) (k : Fin targets.length) :
    Agrees (after targets moves).state k ↔
      latest k Effect.turns (after targets moves).notes =
        latest k Effect.names (after targets moves).notes := by
  obtain ⟨shadow, follows, orderly⟩ := orderly_after targets moves distinct
  have settled := orderly.settled k
  rw [← follows.state, ← follows.notes, agrees_iff_identity orderly.sound k.2, settled.enabled,
    settled.named]
  exact Bool.eq_iff_iff.symm

/-- A target without a parent. -/
def page : Target × Settings := (.root ⟨0, "page", .frame⟩, {})

/-- An answer that names an identity. -/
def naming (id : DebuggerId) : Reply := .ok (.obj [("debuggerId", .str id)])

/-- An answer that says nothing. -/
def nothing : Reply := .ok (.obj [])

/-- The agent of a target is enabled: the three answers come in turn. -/
def enabling : List (Flow.Move (Call 1) (Event 1)) :=
  [.begin (.enable 0), .outside (.answer 0 0 (naming "first")), .outside (.answer 0 1 nothing),
    .outside (.answer 0 2 nothing), .carry 0, .carry 0, .carry 0]

/-- It is found again after a navigation, and disabled before the answer to
that has come. -/
def overtaking : List (Flow.Move (Call 1) (Event 1)) :=
  [.outside .stale, .begin (.resolve "first"), .begin (.disable 0), .outside (.answer 0 4 nothing),
    .carry 1, .outside (.answer 0 5 nothing), .carry 1, .outside (.answer 0 3 (naming "late")),
    .carry 0]

theorem distinct_of_one (given : Nat → DebuggerId → Prop) : Distinct 1 given :=
  fun j hj k hk _ _ _ => by omega

/-- An agent that was enabled agrees. -/
theorem agrees_once_enabled : Agrees (after [page] enabling).state 0 :=
  (agrees_iff [page] enabling (distinct_of_one _) 0).2 rfl

/-- **A renewal that lands late.** At rest the agent is disabled, and the
session has the identity it was found to have, and is registered under
it. -/
theorem late_renewal :
    Distinct 1 (Gives (enabling ++ overtaking)) ∧ (after [page] (enabling ++ overtaking)).Quiet ∧
      ¬ Agrees (after [page] (enabling ++ overtaking)).state 0 := by
  refine ⟨distinct_of_one _, rfl, fun agrees => ?_⟩
  have named : ((after [page] (enabling ++ overtaking)).state.desk 0).debuggerId = some "late" := rfl
  rw [(agrees.2 rfl).1] at named
  cases named

end Hub

end DebugClient
