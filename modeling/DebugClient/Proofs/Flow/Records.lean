import DebugClient.Proofs.Flow.Protocol
/-!
# Records — what was noted of each call

If all that is noted of a call is noted under its number, the notes of a
pool are a record of every call (`Logged`). A protocol whose phases are
what was noted of a call so far keeps the record (`Recorded.step`): the
call under a number is at the phase its record says, and a call that has
ended has a record as is due.
-/

namespace DebugClient

namespace Flow

namespace Pool

variable {κ ε σ α X η o : Type}

/-! ## Notes -/

/-- What was noted under a number, newest first. -/
def noted (number : Nat) (notes : List (Nat × o)) : List o :=
  notes.filterMap fun e => if e.1 = number then some e.2 else none

theorem mem_noted {number : Nat} {notes : List (Nat × o)} {x : o} :
    x ∈ noted number notes ↔ (number, x) ∈ notes := by
  simp only [noted, List.mem_filterMap]
  constructor
  · rintro ⟨⟨n, y⟩, there, is⟩
    split at is
    · rename_i same
      cases same
      cases is
      exact there
    · cases is
  · exact fun there => ⟨(number, x), there, by simp⟩

theorem noted_append_self (number : Nat) (new : List o) (notes : List (Nat × o)) :
    noted number (new.map (number, ·) ++ notes) = new ++ noted number notes := by
  simp [noted, List.filterMap_map]

theorem noted_append_other {number other : Nat} (ne : other ≠ number) (new : List o)
    (notes : List (Nat × o)) : noted other (new.map (number, ·) ++ notes) = noted other notes := by
  have none : noted other (new.map (number, ·)) = [] := by
    simp [noted, List.filterMap_map, ne.symm]
  rw [noted, List.filterMap_append]
  exact congrArg (· ++ noted other notes) none

/-! ## Numbers -/

/-- The numbers of all calls. -/
def numbers (pool : Pool κ X σ α η) : List Nat :=
  pool.waiting.map (·.number) ++ pool.ended.map (·.number)

/-- No two calls have one number, and the next is of none. -/
structure Numbered (pool : Pool κ X σ α η) : Prop where
  /-- Numbers tell calls apart. -/
  apart : pool.numbers.Nodup
  /-- A number is as many calls as were begun before. -/
  below : ∀ n ∈ pool.numbers, n < pool.begun

theorem Numbered.fresh {pool : Pool κ X σ α η} (h : Numbered pool) : pool.begun ∉ pool.numbers :=
  fun there => Nat.lt_irrefl _ (h.below _ there)

theorem Numbered.begin {a b : Pool κ X σ α η} (h : Numbered a) (begun : b.begun = a.begun + 1)
    (numbers : b.numbers.Perm (a.begun :: a.numbers)) : Numbered b := by
  refine ⟨numbers.nodup_iff.2 (List.nodup_cons.2 ⟨h.fresh, h.apart⟩), fun n hn => ?_⟩
  rw [begun]
  rcases List.mem_cons.1 (numbers.mem_iff.1 hn) with rfl | old
  · exact Nat.lt_succ_self _
  · exact Nat.lt_succ_of_lt (h.below n old)

theorem Numbered.carry {a b : Pool κ X σ α η} (h : Numbered a) (begun : b.begun = a.begun)
    (numbers : b.numbers.Perm a.numbers) : Numbered b :=
  ⟨numbers.nodup_iff.2 h.apart, fun n hn => begun ▸ h.below n (numbers.mem_iff.1 hn)⟩

theorem numbers_open (pool : Pool κ X σ α η) (w : Standing κ X) :
    ((pool.waiting ++ [w]).map (·.number) ++ pool.ended.map (·.number)).Perm
      (w.number :: pool.numbers) := by
  rw [List.map_append, List.append_assoc]
  exact List.perm_middle

/-- The calls other than one that is under way. -/
theorem Numbered.others {pool : Pool κ X σ α η} (h : Numbered pool) {l r : List (Standing κ X)}
    {w : Standing κ X} (waiting : pool.waiting = l ++ w :: r) :
    (∀ v ∈ l ++ r, v.number ≠ w.number) ∧ ∀ v ∈ pool.ended, v.number ≠ w.number := by
  have numbers : pool.numbers.Perm (w.number :: ((l ++ r).map (·.number) ++ pool.ended.map (·.number))) := by
    rw [Pool.numbers, waiting]
    simp
  have alone := (List.nodup_cons.1 (numbers.nodup_iff.1 h.apart)).1
  rw [List.mem_append] at alone
  push Not at alone
  exact ⟨fun v hv same => alone.1 (same ▸ List.mem_map_of_mem hv),
    fun v hv same => alone.2 (same ▸ List.mem_map_of_mem hv)⟩

/-! ## Records -/

/-- **The notes are a record of every call**: a call under way stands as is
so of what was noted of it, and of those that have ended it is as is due
with their results. -/
structure Logged (stands : κ → List o → X → Prop) (due : κ → List o → α → Prop)
    (pool : Pool κ X σ α (Nat × o)) : Prop where
  /-- Numbers tell calls apart. -/
  numbered : Numbered pool
  /-- Every note is of a call. -/
  owned : ∀ e ∈ pool.notes, e.1 ∈ pool.numbers
  /-- A call under way stands as its record says. -/
  waiting : ∀ w ∈ pool.waiting, stands w.call (noted w.number pool.notes) w.place
  /-- A call that has ended has done what is due. -/
  ended : ∀ w ∈ pool.ended, due w.call (noted w.number pool.notes) w.place

section Logs

variable {stands : κ → List o → X → Prop} {due : κ → List o → α → Prop}
  {a b : Pool κ X σ α (Nat × o)}

/-- A pool in which nothing was called yet. -/
theorem Logged.empty (waiting : a.waiting = []) (ended : a.ended = []) (notes : a.notes = []) :
    Logged stands due a := by
  have numbers : a.numbers = [] := by rw [Pool.numbers, waiting, ended]; rfl
  refine ⟨⟨?_, ?_⟩, ?_, ?_, ?_⟩ <;> simp [numbers, waiting, ended, notes]

theorem Logged.mono {stands' : κ → List o → X → Prop} (h : Logged stands due a)
    (weaker : ∀ c all x, stands c all x → stands' c all x) : Logged stands' due a :=
  ⟨h.numbered, h.owned, fun w hw => weaker _ _ _ (h.waiting w hw), h.ended⟩

/-- The state is not in the record. -/
theorem Logged.on (h : Logged stands due a) (s : σ) : Logged stands due { a with state := s } :=
  ⟨⟨h.numbered.apart, h.numbered.below⟩, h.owned, h.waiting, h.ended⟩

theorem Logged.noted_fresh (h : Logged stands due a) : noted a.begun a.notes = [] := by
  refine List.eq_nil_iff_forall_not_mem.2 fun x hx => ?_
  exact h.numbered.fresh (h.owned _ (mem_noted.1 hx))

/-- Writing under the number of a call changes no other record. -/
theorem Logged.write (h : Logged stands due a) {number : Nat} {new : List o}
    (notes : b.notes = new.map (number, ·) ++ a.notes) (numbered : Numbered b)
    (grows : ∀ n ∈ a.numbers, n ∈ b.numbers) (there : number ∈ b.numbers)
    (waiting : ∀ w ∈ b.waiting, w ∈ a.waiting ∧ w.number ≠ number ∨
      w.number = number ∧ stands w.call (new ++ noted number a.notes) w.place)
    (ended : ∀ w ∈ b.ended, w ∈ a.ended ∧ w.number ≠ number ∨
      w.number = number ∧ due w.call (new ++ noted number a.notes) w.place) :
    Logged stands due b := by
  refine ⟨numbered, ?_, fun w hw => ?_, fun w hw => ?_⟩ <;> rw [notes]
  · intro e he
    rcases List.mem_append.1 he with he | he
    · obtain ⟨x, -, rfl⟩ := List.mem_map.1 he
      exact there
    · exact grows _ (h.owned e he)
  · rcases waiting w hw with ⟨old, ne⟩ | ⟨same, is⟩
    · rw [noted_append_other ne]
      exact h.waiting w old
    · rw [same, noted_append_self]
      exact is
  · rcases ended w hw with ⟨old, ne⟩ | ⟨same, is⟩
    · rw [noted_append_other ne]
      exact h.ended w old
    · rw [same, noted_append_self]
      exact is

/-- The next number is of no call. -/
theorem Logged.others (h : Logged stands due a) :
    (∀ w ∈ a.waiting, w.number ≠ a.begun) ∧ ∀ w ∈ a.ended, w.number ≠ a.begun := by
  have fresh := h.numbered.fresh
  exact ⟨fun w hw same => fresh (same ▸ List.mem_append_left _ (List.mem_map_of_mem hw)),
    fun w hw same => fresh (same ▸ List.mem_append_right _ (List.mem_map_of_mem hw))⟩

/-- A call is begun and waits. -/
theorem Logged.opens (h : Logged stands due a) {c : κ} {q : X} {new : List o}
    (begun : b.begun = a.begun + 1) (waiting : b.waiting = a.waiting ++ [⟨a.begun, c, q⟩])
    (ended : b.ended = a.ended) (notes : b.notes = new.map (a.begun, ·) ++ a.notes)
    (is : stands c new q) : Logged stands due b := by
  have numbers : b.numbers.Perm (a.begun :: a.numbers) := by
    rw [Pool.numbers, waiting, ended]
    exact numbers_open a ⟨a.begun, c, q⟩
  refine h.write notes (h.numbered.begin begun numbers) (fun n hn => numbers.mem_iff.2 (.tail _ hn))
    (numbers.mem_iff.2 (.head _)) (fun w hw => ?_) fun w hw => ?_
  · rw [waiting] at hw
    rcases List.mem_append.1 hw with hw | hw
    · exact .inl ⟨hw, h.others.1 w hw⟩
    · -- The number is new, so nothing was noted under it.
      rw [List.mem_singleton.1 hw, h.noted_fresh, List.append_nil]
      exact .inr ⟨rfl, is⟩
  · rw [ended] at hw
    exact .inl ⟨hw, h.others.2 w hw⟩

/-- A call is begun and ends. -/
theorem Logged.passes (h : Logged stands due a) {c : κ} {x : α} {new : List o}
    (begun : b.begun = a.begun + 1) (waiting : b.waiting = a.waiting)
    (ended : b.ended = ⟨a.begun, c, x⟩ :: a.ended)
    (notes : b.notes = new.map (a.begun, ·) ++ a.notes) (is : due c new x) :
    Logged stands due b := by
  have numbers : b.numbers.Perm (a.begun :: a.numbers) := by
    rw [Pool.numbers, waiting, ended]
    exact List.perm_middle
  refine h.write notes (h.numbered.begin begun numbers) (fun n hn => numbers.mem_iff.2 (.tail _ hn))
    (numbers.mem_iff.2 (.head _)) (fun w hw => ?_) fun w hw => ?_
  · rw [waiting] at hw
    exact .inl ⟨hw, h.others.1 w hw⟩
  · rw [ended] at hw
    rcases List.mem_cons.1 hw with rfl | hw
    · rw [h.noted_fresh, List.append_nil]
      exact .inr ⟨rfl, is⟩
    · exact .inl ⟨hw, h.others.2 w hw⟩

/-- A call goes on and waits again. -/
theorem Logged.goes (h : Logged stands due a) {l r : List (Standing κ X)} {w : Standing κ X} {q : X}
    {new : List o} (was : a.waiting = l ++ w :: r) (begun : b.begun = a.begun)
    (waiting : b.waiting = l ++ { w with place := q } :: r) (ended : b.ended = a.ended)
    (notes : b.notes = new.map (w.number, ·) ++ a.notes)
    (is : stands w.call (new ++ noted w.number a.notes) q) : Logged stands due b := by
  obtain ⟨others, done⟩ := h.numbered.others was
  have held : w ∈ a.waiting := by simp [was]
  have numbers : b.numbers.Perm a.numbers := .of_eq (by simp [Pool.numbers, was, waiting, ended])
  refine h.write notes (h.numbered.carry begun numbers) (fun n hn => numbers.mem_iff.2 hn)
    (numbers.mem_iff.2 ?_) (fun v hv => ?_) fun v hv => ?_
  · exact List.mem_append_left _ (List.mem_map_of_mem held)
  · rw [waiting] at hv
    rcases List.mem_append.1 hv with hl | hv
    · exact .inl ⟨by simp [was, hl], others v (List.mem_append_left _ hl)⟩
    rcases List.mem_cons.1 hv with rfl | hr
    · exact .inr ⟨rfl, is⟩
    · exact .inl ⟨by simp [was, hr], others v (List.mem_append_right _ hr)⟩
  · rw [ended] at hv
    exact .inl ⟨hv, done v hv⟩

/-- A call goes on and ends. -/
theorem Logged.closes (h : Logged stands due a) {l r : List (Standing κ X)} {w : Standing κ X} {x : α}
    {new : List o} (was : a.waiting = l ++ w :: r) (begun : b.begun = a.begun)
    (waiting : b.waiting = l ++ r) (ended : b.ended = ⟨w.number, w.call, x⟩ :: a.ended)
    (notes : b.notes = new.map (w.number, ·) ++ a.notes)
    (is : due w.call (new ++ noted w.number a.notes) x) : Logged stands due b := by
  obtain ⟨others, done⟩ := h.numbered.others was
  have held : w ∈ a.waiting := by simp [was]
  have numbers : b.numbers.Perm a.numbers := by
    rw [Pool.numbers, Pool.numbers, waiting, ended, was, List.map_append, List.map_append,
      List.append_assoc, List.append_assoc]
    exact List.Perm.append_left _ List.perm_middle
  refine h.write notes (h.numbered.carry begun numbers) (fun n hn => numbers.mem_iff.2 hn)
    (numbers.mem_iff.2 ?_) (fun v hv => ?_) fun v hv => ?_
  · exact List.mem_append_left _ (List.mem_map_of_mem held)
  · rw [waiting] at hv
    refine .inl ⟨?_, others v hv⟩
    rcases List.mem_append.1 hv with hl | hr
    · simp [was, hl]
    · simp [was, hr]
  · rw [ended] at hv
    rcases List.mem_cons.1 hv with rfl | hv
    · exact .inr ⟨rfl, is⟩
    · exact .inl ⟨hv, done v hv⟩

end Logs

/-! ## Records of shadows -/

/-- The phase of a call is what was noted of it. -/
abbrev Recorded (due : κ → List o → α → Prop) (pool : Pool κ (List o) σ α (Nat × o)) : Prop :=
  Logged (fun _ all place => all = place) due pool

variable {due : κ → List o → α → Prop} {sys : System κ ε σ α (Nat × o)}
  {π : κ → Protocol (List o) σ α} {allowed : ε → Prop} {a b : Pool κ (List o) σ α (Nat × o)}

/-- **Every step keeps the record**, if a stretch of a call takes it from
what was noted of it to that with what is noted now. -/
theorem Recorded.step (h : Recorded due a)
    (moves : ∀ c p s q t, (π c).moves p s q t →
      ∃ new : List o, (∀ n, sys.note n c s t = new.map (n, ·)) ∧ q = new ++ p)
    (ends : ∀ c p s x t, (π c).ends p s x t →
      ∃ new : List o, (∀ n, sys.note n c s t = new.map (n, ·)) ∧ due c (new ++ p) x)
    (st : Shadow sys π [] allowed a b) : Recorded due b := by
  have under : ∀ {l r w}, a.waiting = l ++ w :: r → noted w.number a.notes = w.place :=
    fun was => h.waiting _ (by simp [was])
  cases st with
  | @opens c q s move =>
    obtain ⟨new, note, place⟩ := moves c [] a.state q s move
    exact h.opens rfl rfl rfl (congrArg (· ++ a.notes) (note a.begun)) (by simp [place])
  | @passes c x s move =>
    obtain ⟨new, note, is⟩ := ends c [] a.state x s move
    exact h.passes rfl rfl rfl (congrArg (· ++ a.notes) (note a.begun)) (List.append_nil new ▸ is)
  | @goes l r w q s was move =>
    obtain ⟨new, note, place⟩ := moves w.call w.place a.state q s move
    refine h.goes was rfl rfl rfl (congrArg (· ++ a.notes) (note w.number)) ?_
    rw [under was, place]
  | @closes l r w x s was move =>
    obtain ⟨new, note, is⟩ := ends w.call w.place a.state x s move
    refine h.closes was rfl rfl rfl (congrArg (· ++ a.notes) (note w.number)) ?_
    rw [under was]
    exact is
  | outside _ => exact h.on _

/-! ## Records of flows -/

section Flows

variable {stands : κ → List o → Flow σ α → Prop} {pool : Pool κ (Flow σ α) σ α (Nat × o)}
  {c : κ} {r : Flow σ α × σ} {new : List o}

/-- A call that is begun has ended or waits. -/
theorem Logged.opened (h : Logged stands due pool)
    (note : sys.note pool.begun c pool.state r.2 = new.map (pool.begun, ·))
    (ends : ∀ x, r.1.result? = some x → due c new x)
    (waits : r.1.result? = none → stands c new r.1) : Logged stands due (pool.opened sys c r) := by
  have notes := congrArg (· ++ pool.notes) note
  obtain ⟨m, s⟩ := r
  cases m with
  | done x => exact h.passes rfl rfl rfl notes (ends x rfl)
  | get k => exact h.opens rfl rfl rfl notes (waits rfl)
  | set t k => exact h.opens rfl rfl rfl notes (waits rfl)
  | wait ready k => exact h.opens rfl rfl rfl notes (waits rfl)

/-- A call that goes on has ended or waits again. -/
theorem Logged.moved (h : Logged stands due pool) {place : Nat} {w : Standing κ (Flow σ α)}
    (there : pool.waiting[place]? = some w)
    (note : sys.note w.number w.call pool.state r.2 = new.map (w.number, ·))
    (ends : ∀ x, r.1.result? = some x → due w.call (new ++ noted w.number pool.notes) x)
    (waits : r.1.result? = none → stands w.call (new ++ noted w.number pool.notes) r.1) :
    Logged stands due (pool.moved sys place w r) := by
  have notes := congrArg (· ++ pool.notes) note
  obtain ⟨inside, is⟩ := List.getElem?_eq_some_iff.1 there
  have split : pool.waiting = pool.waiting.take place ++ w :: pool.waiting.drop (place + 1) := by
    rw [← is, List.getElem_cons_drop, List.take_append_drop]
  have out : pool.waiting.eraseIdx place =
      pool.waiting.take place ++ pool.waiting.drop (place + 1) := List.eraseIdx_eq_take_drop_succ ..
  have back : ∀ m, pool.waiting.set place { w with place := m } =
      pool.waiting.take place ++ { w with place := m } :: pool.waiting.drop (place + 1) :=
    fun m => List.set_eq_take_append_cons_drop.trans (if_pos inside)
  obtain ⟨m, s⟩ := r
  cases m with
  | done x => exact h.closes split rfl out rfl notes (ends x rfl)
  | get k => exact h.goes split rfl (back _) rfl notes (waits rfl)
  | set t k => exact h.goes split rfl (back _) rfl notes (waits rfl)
  | wait ready k => exact h.goes split rfl (back _) rfl notes (waits rfl)

end Flows

end Pool

end Flow

end DebugClient
