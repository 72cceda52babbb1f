import DebugClient.Proofs.Hub.Roster
/-!
# Desks — work at one place of a hub

Work of a session sees the session with the shared registry
(`Hub.desk`), and what it writes is put back with `Hub.put`. This file
says of everything that the calls that enable, disable and renew do there
what becomes of the roster. Most of it leaves the roster as it is
(`Session.Calm`); three things change it (`Sound.switch`, `Sound.name`,
`Sound.unname`).
-/

namespace DebugClient

/-! ## Sessions -/

namespace Session

/-- A change of a session that the registry does not depend on, and that
brings no answers in. -/
structure Calm (s s' : Session) : Prop where
  /-- The post is the same. -/
  post : s'.post = s.post
  /-- So is the registry. -/
  registry : s'.registry = s.registry
  /-- The answers were there before. -/
  replies : ∀ a ∈ s'.replies, a ∈ s.replies

theorem Calm.refl (s : Session) : s.Calm s := ⟨rfl, rfl, fun _ h => h⟩

theorem Calm.trans {s s' s'' : Session} (h : s.Calm s') (h' : s'.Calm s'') : s.Calm s'' :=
  ⟨h'.post.trans h.post, h'.registry.trans h.registry, fun a ha => h.replies a (h'.replies a ha)⟩

/-- A signal that is no announcement changes no post. -/
theorem calm_emit (s : Session) {signal : Signal} (ha : signal.announces = false)
    (hd : signal.dismisses = false) : s.Calm (s.emit signal) :=
  ⟨by simp [emit, post, ha, hd], rfl, fun _ h => h⟩

theorem calm_acquire (s : Session) : s.Calm s.acquire := ⟨rfl, rfl, fun _ h => h⟩

theorem calm_letGo (s : Session) : s.Calm s.letGo := ⟨rfl, rfl, fun _ h => h⟩

theorem calm_issue (s : Session) (command : Wire.Command) : s.Calm (s.issue command).2 :=
  ⟨by simp [issue, post, Signal.announces, Signal.dismisses], rfl, fun _ h => h⟩

theorem calm_takeReply (s : Session) (ticket : Ticket) : s.Calm (s.takeReply ticket).2 :=
  ⟨rfl, rfl, fun _ h => List.mem_of_mem_filter h⟩

theorem calm_detachAll (s : Session) (scripts : List Script) : s.Calm (s.detachAll scripts) := by
  induction scripts generalizing s with
  | nil => exact .refl s
  | cons script rest ih => exact (s.calm_emit rfl rfl).trans (ih (s.order (.detach script)))

theorem calm_select (s : Session) (frame : Option CallFrame) : s.Calm (s.select frame) := by
  unfold select
  split
  · exact .refl s
  · have selected : s.Calm { s with selected := frame } := ⟨rfl, rfl, fun _ h => h⟩
    exact selected.trans (calm_emit _ rfl rfl)

theorem calm_clearPause (s : Session) : s.Calm s.clearPause := by
  have cleared : s.Calm { s with isPausing := false, pause := none } := ⟨rfl, rfl, fun _ h => h⟩
  exact cleared.trans (calm_select _ none)

theorem calm_forgetScripts (s : Session) : s.Calm s.forgetScripts := by
  have cleared : s.Calm { s with catalog := s.catalog.clear.2 } := ⟨rfl, rfl, fun _ h => h⟩
  have detached := cleared.trans (calm_detachAll _ s.catalog.clear.1)
  exact detached.trans ⟨rfl, rfl, fun _ h => h⟩

theorem calm_clearGlobalObject (s : Session) : s.Calm s.clearGlobalObject :=
  (s.calm_clearPause.trans (calm_forgetScripts _)).trans (calm_emit _ rfl rfl)

/-! ### What changes the post -/

theorem post_setEnablement (s : Session) (e : Enablement) :
    (s.setEnablement e).post = { s.post with enablement := e } := rfl

theorem post_ready (s : Session) :
    (s.report .readyToPause).post = { s.post with announced := s.post.announced + 1 } := by
  simp [report, emit, post, Signal.announces, Signal.dismisses, List.countP_cons]

theorem post_wasDisabled (s : Session) :
    (s.report .wasDisabled).post = { s.post with dismissed := s.post.dismissed + 1 } := by
  simp [report, emit, post, Signal.announces, Signal.dismisses, List.countP_cons]

theorem entries_unregister (r : Registry) (id : DebuggerId) :
    (r.unregister id).entries = Roster.without (some id) r.entries := by
  simp [Registry.unregister, Roster.without, bne]

theorem entries_withdraw (s : Session) (previous : Option DebuggerId) (id : DebuggerId) :
    ((s.withdraw previous id).registry.unregister id).entries =
      Roster.without (some id) (Roster.without previous s.registry.entries) := by
  rw [entries_unregister]
  unfold withdraw
  split
  · split
    · rename_i e
      rw [e, Roster.without_without]
    · rw [entries_unregister]
  · rw [Roster.without_none]

/-- Withdrawing changes nothing but the registry. -/
theorem withdraw_eq (s : Session) (previous : Option DebuggerId) (id : DebuggerId) :
    s.withdraw previous id = { s with registry := (s.withdraw previous id).registry } := by
  unfold withdraw
  split <;> [split; skip] <;> rfl

theorem post_identify (s : Session) (id : DebuggerId) :
    (s.identify id).post =
      { s.post with identity := some id, announced := s.post.announced + 1 } := by
  rw [identify, withdraw_eq]
  exact post_ready _

theorem entries_identify (s : Session) (id : DebuggerId) :
    (s.identify id).registry.entries =
      Roster.without (some id) (Roster.without s.debuggerId s.registry.entries) ++ [(id, s.seat)] := by
  have entries := entries_withdraw { s with debuggerId := some id } s.debuggerId id
  rw [identify, withdraw_eq]
  simp only [report, emit, Registry.register, entries]

theorem replies_identify (s : Session) (id : DebuggerId) : (s.identify id).replies = s.replies := by
  rw [identify, withdraw_eq]
  rfl

theorem post_giveUpIdentity (s : Session) :
    s.giveUpIdentity.post = { s.post with identity := none } := by
  unfold giveUpIdentity
  split <;> simp [post, *]

theorem entries_giveUpIdentity (s : Session) :
    s.giveUpIdentity.registry.entries = Roster.without s.debuggerId s.registry.entries := by
  unfold giveUpIdentity
  split
  · rename_i id e
    rw [e]
    exact entries_unregister s.registry id
  · rename_i e
    rw [e, Roster.without_none]

theorem replies_giveUpIdentity (s : Session) : s.giveUpIdentity.replies = s.replies := by
  unfold giveUpIdentity
  split <;> rfl

/-- Disabling forgets the scripts before it is announced. -/
theorem calm_stopped (s : Session) : s.Calm { s with isPausing := false }.clearGlobalObject := by
  have stopped : s.Calm { s with isPausing := false } := ⟨rfl, rfl, fun _ h => h⟩
  exact stopped.trans (calm_clearGlobalObject _)

theorem post_finishDisabling (s : Session) :
    s.finishDisabling.post =
      { s.post with identity := none, dismissed := s.post.dismissed + 1 } := by
  rw [finishDisabling, post_giveUpIdentity, post_wasDisabled, s.calm_stopped.post]

theorem entries_finishDisabling (s : Session) :
    s.finishDisabling.registry.entries = Roster.without s.debuggerId s.registry.entries := by
  have stopped := s.calm_stopped
  have identity := congrArg Post.identity stopped.post
  rw [finishDisabling, entries_giveUpIdentity]
  generalize { s with isPausing := false }.clearGlobalObject = t at stopped identity
  change Roster.without t.debuggerId t.registry.entries = _
  rw [stopped.registry]
  exact congrArg (Roster.without · s.registry.entries) identity

theorem replies_finishDisabling (s : Session) : ∀ a ∈ s.finishDisabling.replies, a ∈ s.replies := by
  rw [finishDisabling, replies_giveUpIdentity]
  exact s.calm_stopped.replies

end Session

/-! ## Hubs -/

namespace Reply

/-- An answer that names an identity. -/
def Names (reply : Reply) (id : DebuggerId) : Prop :=
  ∃ json, reply = .ok json ∧ Wire.Reply.identity json = some id

end Reply

namespace Hub

/-- The session at a place as work there sees it. -/
def desk (seat : Nat) (h : Hub) : Session := (h.session? seat).getD absent

/-- The roster of a hub. -/
def roster (h : Hub) : Roster := ⟨fun k => (h.desk k).post, h.registry.entries⟩

theorem desk_registry {h : Hub} {k : Nat} (hk : k < h.sessions.length) :
    (h.desk k).registry = h.registry := by
  simp [desk, session?, hk]

theorem desk_put {h : Hub} {k : Nat} (hk : k < h.sessions.length) (s : Session) :
    (h.put k s).desk k = s := by
  simp [desk, session?, put, hk]

theorem put_put (h : Hub) (k : Nat) (s s' : Session) : (h.put k s).put k s' = h.put k s' := by
  simp [put]

/-- What is put at one place is seen at no other, but for the registry. -/
theorem desk_put_of_ne (h : Hub) {j k : Nat} (hj : j ≠ k) (s : Session) :
    ((h.put k s).desk j).post = (h.desk j).post ∧
      ((h.put k s).desk j).replies = (h.desk j).replies := by
  have kept : (h.put k s).sessions[j]? = h.sessions[j]? := by simp [put, hj.symm]
  simp only [desk, session?, kept]
  cases h.sessions[j]? <;> exact ⟨rfl, rfl⟩

theorem roster_put {h : Hub} {k : Nat} (hk : k < h.sessions.length) (s : Session) :
    (h.put k s).roster = { h.roster.amend k fun _ => s.post with entries := s.registry.entries } := by
  have posts : (h.put k s).roster.posts = (h.roster.amend k fun _ => s.post).posts := by
    funext j
    rw [Roster.amend_posts]
    split
    · rename_i e
      rw [e]
      exact congrArg Session.post (desk_put hk s)
    · rename_i ne
      exact (desk_put_of_ne h ne s).1
  exact congrArg (Roster.mk · s.registry.entries) posts

/-! ## Sound hubs -/

/-- A hub of some sessions with a proper roster, into which only such
identities have come as its sessions were given. -/
structure Sound (n : Nat) (given : Nat → DebuggerId → Prop) (h : Hub) : Prop where
  /-- There are so many sessions. -/
  count : h.sessions.length = n
  /-- The registry holds the identities they have. -/
  proper : h.roster.Proper n given
  /-- No answer that has not been taken names an identity of another. -/
  replies : ∀ k < n, ∀ a ∈ (h.desk k).replies, ∀ id, Reply.Names a.2 id → given k id

variable {n : Nat} {given : Nat → DebuggerId → Prop} {h : Hub} {k : Nat}

theorem Sound.put (sound : h.Sound n given) (hk : k < n) {s : Session}
    (proper : (h.put k s).roster.Proper n given)
    (replies : ∀ a ∈ s.replies, a ∈ (h.desk k).replies ∨ ∀ id, Reply.Names a.2 id → given k id) :
    (h.put k s).Sound n given := by
  have inside : k < h.sessions.length := sound.count ▸ hk
  refine ⟨by simp [Hub.put, sound.count], proper, fun j hj a ha id named => ?_⟩
  by_cases e : j = k
  · subst e
    rw [desk_put inside] at ha
    rcases replies a ha with old | told
    · exact sound.replies j hj a old id named
    · exact told id named
  · rw [(desk_put_of_ne h e s).2] at ha
    exact sound.replies j hj a ha id named

theorem Sound.calm (sound : h.Sound n given) (hk : k < n) {s : Session} (calm : (h.desk k).Calm s) :
    (h.put k s).Sound n given ∧ (h.put k s).roster = h.roster := by
  have inside : k < h.sessions.length := sound.count ▸ hk
  have same : (h.put k s).roster = h.roster := by
    rw [roster_put inside, calm.post, calm.registry, desk_registry inside]
    simp [Roster.amend, roster]
  exact ⟨sound.put hk (same ▸ sound.proper) fun a ha => .inl (calm.replies a ha), same⟩

theorem Sound.switch (sound : h.Sound n given) (hk : k < n) (e : Enablement) :
    (h.put k ((h.desk k).setEnablement e)).Sound n given ∧
      (h.put k ((h.desk k).setEnablement e)).roster = h.roster.switch k e := by
  have inside : k < h.sessions.length := sound.count ▸ hk
  have same : (h.put k ((h.desk k).setEnablement e)).roster = h.roster.switch k e := by
    rw [roster_put inside, Session.post_setEnablement]
    simp only [Session.setEnablement, desk_registry inside]
    rfl
  exact ⟨sound.put hk (same ▸ sound.proper.switch e) fun _ => .inl, same⟩

theorem Sound.name (sound : h.Sound n given) (hk : k < n) {id : DebuggerId} (hid : given k id)
    (own : ∀ j < n, given j id → j = k) :
    (h.put k ((h.desk k).identify id)).Sound n given ∧
      (h.put k ((h.desk k).identify id)).roster = h.roster.name k id := by
  have inside : k < h.sessions.length := sound.count ▸ hk
  have same : (h.put k ((h.desk k).identify id)).roster = h.roster.name k id := by
    rw [roster_put inside, Session.post_identify, Session.entries_identify, desk_registry inside]
    rfl
  refine ⟨sound.put hk (same ▸ sound.proper.name hk hid own) fun a ha => .inl ?_, same⟩
  exact Session.replies_identify _ id ▸ ha

theorem Sound.unname (sound : h.Sound n given) (hk : k < n) :
    (h.put k (h.desk k).finishDisabling).Sound n given ∧
      (h.put k (h.desk k).finishDisabling).roster = h.roster.unname k := by
  have inside : k < h.sessions.length := sound.count ▸ hk
  have same : (h.put k (h.desk k).finishDisabling).roster = h.roster.unname k := by
    rw [roster_put inside, Session.post_finishDisabling, Session.entries_finishDisabling,
      desk_registry inside]
    rfl
  exact ⟨sound.put hk (same ▸ sound.proper.unname hk) fun a ha =>
    .inl (Session.replies_finishDisabling _ a ha), same⟩

/-- An answer comes in that names no identity of another. -/
theorem Sound.answer (sound : h.Sound n given) (hk : k < n) (ticket : Ticket) {reply : Reply}
    (told : ∀ id, Reply.Names reply id → given k id) :
    (h.put k ((h.desk k).answer ticket reply)).Sound n given ∧
      (h.put k ((h.desk k).answer ticket reply)).roster = h.roster := by
  have inside : k < h.sessions.length := sound.count ▸ hk
  have same : (h.put k ((h.desk k).answer ticket reply)).roster = h.roster := by
    rw [roster_put inside]
    simp only [Session.answer, desk_registry inside, Roster.amend, roster]
    exact congrArg (Roster.mk · h.registry.entries) (Function.update_eq_self k _)
  refine ⟨sound.put hk (same ▸ sound.proper) fun a ha => ?_, same⟩
  rcases List.mem_cons.1 ha with rfl | old
  · exact .inr told
  · exact .inl old

/-- Whether the identities are stale is no matter of the roster. -/
theorem Sound.remark (sound : h.Sound n given) (stale : Bool) :
    Sound n given { h with registry := { h.registry with stale } } ∧
      roster { h with registry := { h.registry with stale } } = h.roster := by
  have seen : ∀ j, (desk j { h with registry := { h.registry with stale } }).post = (h.desk j).post ∧
      (desk j { h with registry := { h.registry with stale } }).replies = (h.desk j).replies := by
    intro j
    simp only [desk, session?]
    cases h.sessions[j]? <;> exact ⟨rfl, rfl⟩
  have same : roster { h with registry := { h.registry with stale } } = h.roster :=
    congrArg (Roster.mk · h.registry.entries) (funext fun j => (seen j).1)
  refine ⟨⟨sound.count, same ▸ sound.proper, fun j hj a ha => ?_⟩, same⟩
  exact sound.replies j hj a ((seen j).2 ▸ ha)

theorem change_eq_put {h : Hub} {k : Nat} (hk : k < h.sessions.length) (f : Session → Session) :
    h.change k f = h.put k (f (h.desk k)) := by
  simp [change, desk, session?, hk]

theorem change_of_length_le {h : Hub} {k : Nat} (hk : h.sessions.length ≤ k)
    (f : Session → Session) : h.change k f = h := by
  have nobody : h.session? k = none := by simp [session?, hk]
  rw [change, nobody]

end Hub

end DebugClient
