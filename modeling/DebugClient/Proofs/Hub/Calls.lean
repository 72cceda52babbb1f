import DebugClient.Proofs.Flow.Parts
import DebugClient.Proofs.Hub.Desk
/-!
# Calls of a hub — enabling, disabling and resolving

The calls that write identities, as a system of flows
(`Flow.System`), and the protocol each of them keeps to
(`Call.protocol`). A protocol says in terms of rosters what a call does
from one wait to the next: `obeys_enable`, `obeys_disable` and
`obeys_resolve`.

Whatever the answers are, a call that was begun does one thing to the
roster when it ends, or nothing. So a protocol has two phases only.
-/

namespace DebugClient

namespace Hub

/-! ## The system -/

/-- What is asked of a hub of some sessions. -/
inductive Call (n : Nat) where
  /-- To enable the agent of a session. -/
  | enable (seat : Fin n)
  /-- To disable it. -/
  | disable (seat : Fin n)
  /-- To find the session of an identity. -/
  | resolve (id : DebuggerId)

/-- What happens outside of a hub of some sessions. -/
inductive Event (n : Nat) where
  /-- The backend of a session answers a request. -/
  | answer (seat : Fin n) (ticket : Ticket) (reply : Reply)
  /-- A navigation may have changed the identities. -/
  | stale

/-- The work of a call; a session is held meanwhile. -/
def Call.program {n : Nat} : Call n → Flow Hub (Option Nat)
  | enable k => do
    within k (Session.holding Session.enable)
    return none
  | disable k => do
    within k (Session.holding Session.disable)
    return none
  | resolve id => Hub.resolve id

/-- What an event does to a hub. -/
def Event.apply {n : Nat} : Event n → Hub → Hub
  | answer k ticket reply, h => h.change k (·.answer ticket reply)
  | stale, h => { h with registry := h.registry.markStale }

/-! ## Protocols -/

/-- Where a call stands. -/
inductive Phase where
  /-- It has done nothing. -/
  | fresh
  /-- It waits for answers. -/
  | begun

/-- A session may have taken on an identity it was given. -/
def Renews (n : Nat) (given : Nat → DebuggerId → Prop) (R R' : Roster) : Prop :=
  R' = R ∨ ∃ k < n, ∃ id, given k id ∧ R' = R.name k id

/-- What a call does to the roster before it waits. -/
def Call.goes {n : Nat} (given : Nat → DebuggerId → Prop) : Call n → Phase → Roster → Roster → Prop
  | enable k, .fresh, R, R' => (R.posts k).enablement = .disabled ∧ R' = R.switch k .enabling
  | disable k, .fresh, R, R' => (R.posts k).enablement ≠ .disabled ∧ R' = R.switch k .disabled
  | enable _, .begun, R, R' => R' = R
  | disable _, .begun, R, R' => R' = R
  | resolve _, _, R, R' => Renews n given R R'

/-- What a call does to the roster before it ends. -/
def Call.finishes {n : Nat} (given : Nat → DebuggerId → Prop) :
    Call n → Phase → Roster → Roster → Prop
  | enable k, .fresh, R, R' => (R.posts k).enablement ≠ .disabled ∧ R' = R
  | disable k, .fresh, R, R' => (R.posts k).enablement = .disabled ∧ R' = R
  | enable k, .begun, R, R' =>
    (R.posts k).enablement = .disabled ∧ R' = R ∨
      (R.posts k).enablement ≠ .disabled ∧
        ((∃ id, given k id ∧ R' = (R.switch k .enabled).name k id) ∨ R' = R.switch k .disabled)
  | disable k, .begun, R, R' => R' = R.unname k
  | resolve _, _, R, R' => Renews n given R R'

/-- What a call may do between two waits, in a sound hub. -/
def Call.protocol {n : Nat} (given : Nat → DebuggerId → Prop) (c : Call n) :
    Flow.Protocol Phase Hub (Option Nat) where
  given h := h.Sound n given
  moves p h q h' := h'.Sound n given ∧ q = .begun ∧ c.goes given p h.roster h'.roster
  ends p h _ h' := h'.Sound n given ∧ c.finishes given p h.roster h'.roster

/-! ## Rules for work at a place -/

section Rules

variable {n : Nat} {given : Nat → DebuggerId → Prop} {α β : Type} {c : Call n}
  {p : Phase} {h₀ h : Hub} {k : Nat}

/-- What is so of a hub is so of every sound hub with the same roster. -/
def Lasts (n : Nat) (given : Nat → DebuggerId → Prop) (h : Hub) (next : Hub → Prop) : Prop :=
  ∀ h' : Hub, h'.Sound n given → h'.roster = h.roster → next h'

theorem obeys_within_seq {Q : Phase → Hub → β → Hub → Prop} {m : Work α} {f : α → Work β} :
    (within k (m >>= f)).Obeys (c.protocol given) Q p h₀ h ↔
      (within k m).Obeys (c.protocol given)
        (fun p h₀ a h => (within k (f a)).Obeys (c.protocol given) Q p h₀ h) p h₀ h := by
  have split : within k (m >>= f) = (within k m).bind fun a => within k (f a) :=
    Flow.within_bind _ _ m f
  rw [split]
  exact Flow.obeys_bind

theorem obeys_change {Q : Phase → Hub → Unit → Hub → Prop} {f : Session → Session}
    (next : Q p h₀ () (h.put k (f (h.desk k)))) :
    (within k (Flow.modify f)).Obeys (c.protocol given) Q p h₀ h := next

theorem obeys_look {Q : Phase → Hub → α → Hub → Prop} {f : Session → α}
    (next : Q p h₀ (f (h.desk k)) h) :
    (within k (Flow.look f)).Obeys (c.protocol given) Q p h₀ h := next

theorem obeys_modify {Q : Phase → Hub → Unit → Hub → Prop} {f : Session → Session}
    (sound : h.Sound n given) (hk : k < n) (calm : ∀ s : Session, s.Calm (f s))
    (next : Lasts n given h (Q p h₀ ())) :
    (within k (Flow.modify f)).Obeys (c.protocol given) Q p h₀ h := by
  obtain ⟨after, same⟩ := sound.calm hk (calm (h.desk k))
  exact next _ after same

theorem obeys_act {Q : Phase → Hub → α → Hub → Prop} {f : Session → α × Session}
    (sound : h.Sound n given) (hk : k < n) (calm : ∀ s : Session, s.Calm (f s).2)
    (next : ∀ a, Lasts n given h (Q p h₀ a)) :
    (within k (Flow.act f)).Obeys (c.protocol given) Q p h₀ h := by
  obtain ⟨after, same⟩ := sound.calm hk (calm (h.desk k))
  exact next _ _ after same

theorem obeys_issue {Q : Phase → Hub → Ticket → Hub → Prop} {command : Wire.Command}
    (sound : h.Sound n given) (hk : k < n) (next : ∀ ticket, Lasts n given h (Q p h₀ ticket)) :
    (within k (Work.issue command)).Obeys (c.protocol given) Q p h₀ h :=
  obeys_act sound hk (fun s => s.calm_issue command) next

theorem obeys_issueAll {Q : Phase → Hub → List Ticket → Hub → Prop} {commands : List Wire.Command}
    (sound : h.Sound n given) (hk : k < n) (next : ∀ tickets, Lasts n given h (Q p h₀ tickets)) :
    (within k (Session.issueAll commands)).Obeys (c.protocol given) Q p h₀ h := by
  induction commands generalizing h Q with
  | nil => exact next [] h sound rfl
  | cons command rest ih =>
    rw [Session.issueAll, obeys_within_seq]
    refine obeys_issue sound hk fun ticket h₁ sound₁ same₁ => ?_
    rw [obeys_within_seq]
    exact ih sound₁ fun tickets h₂ sound₂ same₂ => next _ h₂ sound₂ (same₂.trans same₁)

/-- Waiting for an answer that changes nothing. -/
theorem obeys_settle {Q : Phase → Hub → Unit → Hub → Prop} {ticket : Ticket}
    (hk : k < n) (waits : (c.protocol given).moves p h₀ .begun h)
    (next : ∀ h₁ : Hub, h₁.Sound n given → Lasts n given h₁ (Q .begun h₁ ())) :
    (within k (Work.settle ticket)).Obeys (c.protocol given) Q p h₀ h := by
  rw [Work.settle, obeys_within_seq]
  refine ⟨.begun, waits, fun h₁ sound₁ _ => ?_⟩
  refine (obeys_within_seq (f := fun _ => pure ())).2 ?_
  exact obeys_act sound₁ hk (fun s => s.calm_takeReply ticket) fun _ => next h₁ sound₁

/-- Sending a command whose answer changes nothing. -/
theorem obeys_send {Q : Phase → Hub → Unit → Hub → Prop} {command : Wire.Command}
    (sound : h.Sound n given) (hk : k < n)
    (waits : Lasts n given h ((c.protocol given).moves p h₀ .begun))
    (next : ∀ h₁ : Hub, h₁.Sound n given → Lasts n given h₁ (Q .begun h₁ ())) :
    (within k (Work.send command)).Obeys (c.protocol given) Q p h₀ h :=
  obeys_within_seq.2 (obeys_issue sound hk fun _ h₁ sound₁ same₁ =>
    obeys_settle hk (waits h₁ sound₁ same₁) next)

/-- Waiting for the answer that names an identity: it is one that was
given. -/
theorem obeys_identity {Q : Phase → Hub → Except LinkError DebuggerId → Hub → Prop}
    {ticket : Ticket} {command : Wire.Command} (hk : k < n)
    (waits : (c.protocol given).moves p h₀ .begun h)
    (next : ∀ answer, (∀ id, answer = .ok id → given k id) →
      ∀ h₁ : Hub, h₁.Sound n given → Lasts n given h₁ (Q .begun h₁ answer)) :
    (within k (Work.reply ticket command Wire.Reply.identity)).Obeys (c.protocol given) Q p h₀ h := by
  rw [Work.reply, obeys_within_seq]
  refine ⟨.begun, waits, fun h₁ sound₁ _ => ?_⟩
  obtain ⟨after, same⟩ := sound₁.calm hk ((h₁.desk k).calm_takeReply ticket)
  refine next (Work.decode command Wire.Reply.identity ((h₁.desk k).takeReply ticket).1) ?_ h₁ sound₁
    _ after same
  intro id named
  cases found : (h₁.desk k).replies.lookup ticket with
  | none => simp [Session.takeReply, found, Work.decode] at named
  | some reply =>
    obtain ⟨l₁, l₂, split, -⟩ := List.lookup_eq_some_iff.1 found
    refine sound₁.replies k hk (ticket, reply) (by simp [split]) id ?_
    cases reply with
    | error e => simp [Session.takeReply, found, Work.decode] at named
    | ok json =>
      refine ⟨json, rfl, ?_⟩
      simp only [Session.takeReply, found, Option.getD_some, Work.decode] at named
      cases read : Wire.Reply.identity json <;> simp_all

/-- Waiting for one answer after another. -/
theorem obeys_settleAll {Q : Phase → Hub → Unit → Hub → Prop} {tickets : List Ticket} (hk : k < n)
    (still : ∀ h₁ : Hub, h₁.Sound n given →
      Lasts n given h₁ ((c.protocol given).moves .begun h₁ .begun))
    (sound₀ : h₀.Sound n given) (sound : h.Sound n given) (same : h.roster = h₀.roster)
    (next : ∀ h₁ : Hub, h₁.Sound n given → Lasts n given h₁ (Q .begun h₁ ())) :
    (within k (Flow.forEach Work.settle tickets)).Obeys (c.protocol given) Q .begun h₀ h := by
  induction tickets generalizing h₀ h with
  | nil => exact next h₀ sound₀ h sound same
  | cons ticket rest ih =>
    refine obeys_within_seq.2 (obeys_settle hk (still h₀ sound₀ h sound same) ?_)
    intro h₁ sound₁ h₂ sound₂ same₂
    exact ih sound₁ sound₂ same₂

/-- Holding a session while it works changes nothing. -/
theorem obeys_holding {Q : Phase → Hub → α → Hub → Prop} {m : Work α}
    (sound : h.Sound n given) (hk : k < n)
    (work : Lasts n given h fun h' => (within k m).Obeys (c.protocol given)
      (fun p h₀ a h' => h'.Sound n given ∧ Lasts n given h' (Q p h₀ a)) p h₀ h') :
    (within k (Session.holding m)).Obeys (c.protocol given) Q p h₀ h := by
  refine obeys_within_seq.2 (obeys_modify sound hk Session.calm_acquire fun h₁ sound₁ same₁ => ?_)
  refine obeys_within_seq.2 ((work h₁ sound₁ same₁).mono fun p h₀ a h₂ ⟨sound₂, next⟩ => ?_)
  exact obeys_within_seq.2 (obeys_modify sound₂ hk Session.calm_letGo next)

end Rules

/-! ## The calls keep to their protocols -/

variable {n : Nat} {given : Nat → DebuggerId → Prop} {h : Hub}

theorem isEnabled_desk (h : Hub) (k : Nat) :
    (h.desk k).isEnabled = true ↔ (h.roster.posts k).enablement ≠ .disabled := by
  simp [Session.isEnabled, roster, Session.post]

/-- No identity was given to two sessions. -/
def Distinct (n : Nat) (given : Nat → DebuggerId → Prop) : Prop :=
  ∀ j < n, ∀ k < n, ∀ id, given j id → given k id → j = k

/-- What enabling comes to once every answer is there. -/
theorem obeys_concluded (distinct : Distinct n given) {k : Fin n}
    {identity : Except LinkError DebuggerId} (told : ∀ id, identity = .ok id → given k id) {h₀ : Hub}
    (sound : h.Sound n given) (same : h.roster = h₀.roster) :
    (within k (if (h.desk k).isEnabled then
        match identity with
        | .ok id => Flow.modify fun s => (s.setEnablement .enabled).identify id
        | .error _ => Flow.modify (Session.setEnablement .disabled)
      else pure ())).Obeys ((Call.enable k).protocol given)
      (fun p h₀ _ h' => h'.Sound n given ∧
        Lasts n given h' (((Call.enable k).protocol given).ends p h₀ none)) .begun h₀ h := by
  by_cases on : (h.desk k).isEnabled = true
  · rw [if_pos on]
    rw [isEnabled_desk, same] at on
    cases identity with
    | ok id =>
      obtain ⟨sound₁, same₁⟩ := sound.switch k.2 .enabled
      have own : ∀ j < n, given j id → j = k := fun j hj hid =>
        distinct j hj k k.2 id hid (told id rfl)
      obtain ⟨sound₂, same₂⟩ := sound₁.name k.2 (told id rfl) own
      rw [desk_put (sound.count ▸ k.2), put_put] at sound₂ same₂
      refine obeys_change ⟨sound₂, fun h₃ sound₃ same₃ => ⟨sound₃, .inr ⟨on, .inl ⟨id, told id rfl, ?_⟩⟩⟩⟩
      rw [same₃, same₂, same₁, same]
    | error e =>
      obtain ⟨sound₁, same₁⟩ := sound.switch k.2 .disabled
      refine obeys_change ⟨sound₁, fun h₂ sound₂ same₂ => ⟨sound₂, .inr ⟨on, .inr ?_⟩⟩⟩
      rw [same₂, same₁, same]
  · rw [if_neg on]
    rw [isEnabled_desk, same, not_not] at on
    exact ⟨sound, fun h₂ sound₂ same₂ => ⟨sound₂, .inl ⟨on, same₂.trans same⟩⟩⟩

/-- **Enabling**: switches an agent on that is off, and once the answers
have come takes on the identity or switches it off again, unless it was
switched off meanwhile. -/
theorem obeys_enable (distinct : Distinct n given) (k : Fin n) (sound : h.Sound n given) :
    (Call.enable k).program.Obeys ((Call.enable k).protocol given)
      ((Call.enable k).protocol given).ends .fresh h h := by
  rw [Call.program, Flow.obeys_seq]
  refine obeys_holding sound k.2 fun h₁ sound₁ same₁ => ?_
  refine obeys_within_seq.2 (obeys_look ?_)
  by_cases on : (h₁.desk k).isEnabled = true
  · rw [if_pos on]
    rw [isEnabled_desk, same₁] at on
    exact ⟨sound₁, fun h₂ sound₂ same₂ => ⟨sound₂, on, same₂.trans same₁⟩⟩
  rw [if_neg on]
  rw [isEnabled_desk, same₁, not_not] at on
  obtain ⟨sound₂, same₂⟩ := sound₁.switch k.2 .enabling
  refine obeys_within_seq.2 (obeys_change ?_)
  refine obeys_within_seq.2 (obeys_issue sound₂ k.2 fun ticket h₃ sound₃ same₃ => ?_)
  refine obeys_within_seq.2 (obeys_issueAll sound₃ k.2 fun sent h₄ sound₄ same₄ => ?_)
  have calm : ∀ s : Session, s.Calm (s.report .wasEnabled) := fun s => s.calm_emit rfl rfl
  refine obeys_within_seq.2 (obeys_modify sound₄ k.2 calm fun h₅ sound₅ same₅ => ?_)
  -- All requests are out; what is awaited from here on changes no roster.
  have asked : h₅.roster = h.roster.switch k .enabling := by
    rw [same₅, same₄, same₃, same₂, same₁]
  refine obeys_within_seq.2 (obeys_identity k.2 ⟨sound₅, rfl, on, asked⟩ ?_)
  intro identity told h₆ sound₆ h₇ sound₇ same₇
  have still : ∀ h₁ : Hub, h₁.Sound n given →
      Lasts n given h₁ (((Call.enable k).protocol given).moves .begun h₁ .begun) :=
    fun _ _ _ sound' same' => ⟨sound', rfl, same'⟩
  refine obeys_within_seq.2 (obeys_settleAll k.2 still sound₆ sound₇ same₇ ?_)
  intro h₈ sound₈ h₉ sound₉ same₉
  refine obeys_within_seq.2 (obeys_look ?_)
  exact obeys_concluded distinct told sound₉ same₉

/-- **Disabling**: switches an agent off that is on, and once the answers
have come gives up the identity. -/
theorem obeys_disable (k : Fin n) (sound : h.Sound n given) :
    (Call.disable k).program.Obeys ((Call.disable k).protocol given)
      ((Call.disable k).protocol given).ends .fresh h h := by
  rw [Call.program, Flow.obeys_seq]
  refine obeys_holding sound k.2 fun h₁ sound₁ same₁ => ?_
  refine obeys_within_seq.2 (obeys_look ?_)
  by_cases on : (h₁.desk k).isEnabled = true
  swap
  · rw [if_neg on]
    rw [isEnabled_desk, same₁, not_not] at on
    exact ⟨sound₁, fun h₂ sound₂ same₂ => ⟨sound₂, on, same₂.trans same₁⟩⟩
  rw [if_pos on]
  rw [isEnabled_desk, same₁] at on
  obtain ⟨sound₂, same₂⟩ := sound₁.switch k.2 .disabled
  refine obeys_within_seq.2 (obeys_change ?_)
  have off : (h₁.put k ((h₁.desk k).setEnablement .disabled)).roster = h.roster.switch k .disabled := by
    rw [same₂, same₁]
  refine obeys_within_seq.2 (obeys_send sound₂ k.2 (fun h₃ sound₃ same₃ => ?_) ?_)
  · exact ⟨sound₃, rfl, on, same₃.trans off⟩
  intro h₄ sound₄ h₅ sound₅ same₅
  refine obeys_within_seq.2 (obeys_send sound₅ k.2 (fun h₆ sound₆ same₆ => ?_) ?_)
  · exact ⟨sound₆, rfl, same₆.trans same₅⟩
  intro h₇ sound₇ h₈ sound₈ same₈
  obtain ⟨sound₉, same₉⟩ := sound₈.unname k.2
  refine obeys_change ⟨sound₉, fun h' sound' same' => ⟨sound', ?_⟩⟩
  exact same'.trans (same₉.trans (congrArg (Roster.unname · k) same₈))

theorem sound_acquireAll {seats : List Nat} (hs : ∀ k ∈ seats, k < n) (sound : h.Sound n given) :
    (seats.foldl (fun h k => h.acquire k) h).Sound n given ∧
      (seats.foldl (fun h k => h.acquire k) h).roster = h.roster := by
  induction seats generalizing h with
  | nil => exact ⟨sound, rfl⟩
  | cons k rest ih =>
    have hk : k < n := hs k (by simp)
    obtain ⟨sound₁, same₁⟩ := sound.calm hk (Session.calm_acquire _)
    rw [← change_eq_put (sound.count ▸ hk)] at sound₁ same₁
    obtain ⟨sound₂, same₂⟩ := ih (fun j hj => hs j (by simp [hj])) sound₁
    exact ⟨sound₂, same₂.trans same₁⟩

/-- A sound hub after at most one session has taken on an identity. -/
def Renewed (n : Nat) (given : Nat → DebuggerId → Prop) (h₀ h : Hub) : Prop :=
  h.Sound n given ∧ Renews n given h₀.roster h.roster

/-- Renewing the identity of a session: it takes on one that it was given,
or nothing happens. -/
theorem obeys_renewHeld (distinct : Distinct n given) {c : Call n}
    (waits : ∀ p h₀ h', Renewed n given h₀ h' → (c.protocol given).moves p h₀ .begun h') {k : Nat}
    (hk : k < n) {p : Phase} {h₀ : Hub} (renewed : Renewed n given h₀ h) :
    (renewHeld k).Obeys (c.protocol given) (fun _ h₀ _ h' => Renewed n given h₀ h') p h₀ h := by
  have work : (renew k).Obeys (c.protocol given) (fun _ h₀ _ h' => Renewed n given h₀ h') p h₀ h := by
    refine obeys_within_seq.2 (obeys_look ?_)
    by_cases on : (h.desk k).isEnabled = true
    swap
    · rw [if_neg on]
      exact renewed
    rw [if_pos on]
    refine obeys_within_seq.2 (obeys_look (obeys_within_seq.2 (obeys_within_seq.2 ?_)))
    refine obeys_issue renewed.1 hk fun ticket h₁ sound₁ same₁ => ?_
    refine obeys_identity hk (waits _ _ _ ⟨sound₁, same₁ ▸ renewed.2⟩) ?_
    intro identity told h₂ sound₂ h₃ sound₃ same₃
    cases identity with
    | ok id =>
      have own : ∀ j < n, given j id → j = k := fun j hj hid =>
        distinct j hj k hk id hid (told id rfl)
      obtain ⟨sound₄, same₄⟩ := sound₃.name hk (told id rfl) own
      refine obeys_change ⟨sound₄, .inr ⟨k, hk, id, told id rfl, ?_⟩⟩
      rw [same₄, same₃]
    | error e => exact ⟨sound₃, .inl same₃⟩
  rw [renewHeld, Flow.obeys_seq]
  refine work.mono fun p h₀ _ h₁ ⟨sound₁, renews₁⟩ => ?_
  obtain ⟨sound₂, same₂⟩ := sound₁.calm hk (Session.calm_letGo _)
  rw [← change_eq_put (sound₁.count ▸ hk)] at sound₂ same₂
  exact ⟨sound₂, same₂ ▸ renews₁⟩

/-- Renewing the identities of all registered sessions, one after another. -/
theorem obeys_renewAll (distinct : Distinct n given) {c : Call n}
    (waits : ∀ p h₀ h', Renewed n given h₀ h' → (c.protocol given).moves p h₀ .begun h')
    {p : Phase} {h₀ : Hub} (renewed : Renewed n given h₀ h) :
    renewAll.Obeys (c.protocol given) (fun _ h₀ _ h' => Renewed n given h₀ h') p h₀ h := by
  obtain ⟨sound, renews⟩ := renewed
  have seats : ∀ k ∈ h.registered, k < n := by
    intro k hk
    obtain ⟨e, he, rfl⟩ := List.mem_map.1 (List.mem_filter.1 hk).1
    exact ((sound.proper.mem_iff e.1 e.2).1 he).1
  obtain ⟨sound₁, same₁⟩ := sound_acquireAll seats sound
  rw [renewAll, Flow.obeys_seq, Flow.obeys_look, Flow.obeys_seq, Flow.obeys_modify]
  refine Flow.obeys_forEach (I := fun _ h₀ h' => Renewed n given h₀ h') (fun k hk p h₀ h' kept => ?_)
    ⟨sound₁, same₁ ▸ renews⟩
  exact obeys_renewHeld distinct waits (seats k hk) kept

/-- **Resolving**: renews the identities of the sessions one after another,
if that is due; in front of each wait at most one session takes on an
identity. -/
theorem obeys_resolve (distinct : Distinct n given) (id : DebuggerId) (sound : h.Sound n given) :
    (Hub.resolve id).Obeys ((Call.resolve (n := n) id).protocol given)
      ((Call.resolve (n := n) id).protocol given).ends .fresh h h := by
  have waits : ∀ p h₀ h', Renewed n given h₀ h' →
      ((Call.resolve (n := n) id).protocol given).moves p h₀ .begun h' :=
    fun _ _ _ renewed => ⟨renewed.1, rfl, renewed.2⟩
  obtain ⟨sound₁, same₁⟩ := sound.remark false
  have taken : Renewed n given h h.takeStale.2 := ⟨sound₁, .inl same₁⟩
  rw [Hub.resolve, Flow.obeys_seq, Flow.obeys_act]
  split
  · rw [Flow.obeys_seq]
    exact (obeys_renewAll distinct waits taken).mono fun p h₀ _ h' done => done
  · exact taken

/-- **Every call keeps to its protocol**, whatever the others do. -/
theorem obeys_program (distinct : Distinct n given) (c : Call n) (sound : h.Sound n given) :
    c.program.Obeys (c.protocol given) (c.protocol given).ends .fresh h h := by
  cases c with
  | enable k => exact obeys_enable distinct k sound
  | disable k => exact obeys_disable k sound
  | resolve id => exact obeys_resolve distinct id sound

end Hub

end DebugClient
