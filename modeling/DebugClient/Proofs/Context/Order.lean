import DebugClient.Session.Contexts
import Mathlib.Data.List.Basic
import Mathlib.Data.List.Induction
import Mathlib.Data.Set.Defs
/-!
# The order of contexts — targets first, then main worlds and names

Where two targets part, the nodes there decide, and every comparison parts
at another depth. In a forest whose identifiers tell targets apart this is
the lexicographic order of the targets' ranks (`Forest.divergeFrom_getD`):
of each node on the path its weight and its identifier. So the order of
contexts is that of a few keys, one after another
(`Forest.order_eq_standing`), and its laws are those of lexicographic
orders.

The result is `Forest.contexts_ordered`: contexts are ordered as is said, and the
contexts of a subtree are shown together.
-/

namespace DebugClient

open Std

/-! ## Ranks -/

/-- What decides between two nodes of one parent. -/
structure Rank where
  /-- The weight; the heavier come first. -/
  weight : Nat
  /-- The identifier. -/
  id : String
  deriving DecidableEq

namespace Rank

instance : Ord Rank where
  compare := compareLex (fun a b => compare b.weight a.weight) (compareOn Rank.id)

instance : TransOrd Rank :=
  have : TransCmp fun a b : Rank => compare b.weight a.weight :=
    inferInstanceAs (TransCmp fun a b => compareOn Rank.weight b a)
  inferInstanceAs (TransCmp (compareLex _ _))

theorem compare_eq (a b : Rank) :
    compare a b = (compare b.weight a.weight).then (compare a.id b.id) := rfl

instance : LawfulEqOrd Rank where
  eq_of_compare {a b} same := by
    rw [compare_eq, Ordering.then_eq_eq, LawfulEqOrd.compare_eq_iff_eq,
      LawfulEqOrd.compare_eq_iff_eq] at same
    obtain ⟨weight, id⟩ := same
    cases a
    cases b
    cases weight
    cases id
    rfl

end Rank

/-- What is between two lists that begin alike begins like them. -/
theorem prefix_of_between {α : Type} [Ord α] [TransOrd α] [LawfulEqOrd α] {p u v w : List α}
    (hu : p <+: u) (hw : p <+: w) (below : (compare u v).isLE) (above : (compare v w).isLE) :
    p <+: v := by
  induction p generalizing u v w with
  | nil => exact List.nil_prefix
  | cons x p ih =>
    obtain ⟨u, rfl⟩ := hu
    obtain ⟨w, rfl⟩ := hw
    cases v with
    | nil => cases below
    | cons y v =>
      change (List.compareLex compare _ _).isLE at below above
      rw [List.cons_append, List.compareLex_cons_cons, Ordering.isLE_then_iff_and] at below above
      obtain ⟨first, below⟩ := below
      obtain ⟨second, above⟩ := above
      -- The first entries are between each other, so they are the same.
      have same : x = y := LawfulEqOrd.eq_of_compare (OrientedCmp.isLE_antisymm first second)
      subst same
      rw [ReflOrd.compare_self] at below above
      have rest := ih (List.prefix_append p u) (List.prefix_append p w)
        (below.resolve_left nofun) (above.resolve_left nofun)
      exact (List.prefix_cons_inj x).2 rest

namespace Target

/-- The rank of a node. Those without a parent are all of one weight. -/
def rank (atRoot : Bool) (n : TargetNode) : Rank := ⟨if atRoot then 5 else n.kind.weight, n.id⟩

/-- The ranks along a path, or along the end of one. -/
def ranksFrom (atRoot : Bool) : List TargetNode → List Rank
  | [] => []
  | n :: rest => rank atRoot n :: ranksFrom false rest

/-- The ranks of the nodes from the root down to the target. -/
def ranks (t : Target) : List Rank := ranksFrom true t.path

/-- A target is in the subtree of another: it is that one, or under it. -/
def Within (t u : Target) : Prop := u.path <+: t.path

theorem siblingOrder_eq (atRoot : Bool) (a b : TargetNode) :
    siblingOrder atRoot a b = compare (rank atRoot a) (rank atRoot b) := by
  rw [siblingOrder, Rank.compare_eq]
  cases atRoot <;> rfl

theorem map_id_ranksFrom (atRoot : Bool) (p : List TargetNode) :
    (ranksFrom atRoot p).map Rank.id = p.map TargetNode.id := by
  induction p generalizing atRoot with
  | nil => rfl
  | cons n rest ih => exact congrArg (n.id :: ·) (ih false)

/-- The ranks of a beginning are a beginning of the ranks. -/
theorem ranksFrom_take (atRoot : Bool) (p : List TargetNode) (n : Nat) :
    ranksFrom atRoot (p.take n) = (ranksFrom atRoot p).take n := by
  induction p generalizing atRoot n with
  | nil => simp [ranksFrom]
  | cons a rest ih =>
    cases n with
    | zero => rfl
    | succ n => exact congrArg (rank atRoot a :: ·) (ih false n)

theorem length_ranks (t : Target) : t.ranks.length = t.path.length := by
  have same := congrArg List.length (map_id_ranksFrom true t.path)
  rwa [List.length_map, List.length_map] at same

/-- The last rank has the identifier of the target. -/
theorem getLast?_ranks (t : Target) : t.ranks.getLast?.map Rank.id = some t.node.id := by
  rw [← List.getLast?_map, ranks, map_id_ranksFrom, path]
  simp

theorem ranks_prefix {t u : Target} (h : t.Within u) : u.ranks <+: t.ranks := by
  have begins := List.prefix_iff_eq_take.1 h
  rw [ranks, begins, ranksFrom_take]
  exact List.take_prefix _ _

/-- What is under a target comes after it. -/
theorem diverge_of_within {t u : Target} (h : t.Within u) (other : t ≠ u) :
    u.diverge t = some .lt := by
  obtain ⟨below, is⟩ := h
  cases below with
  | nil =>
    -- A path is that of one target.
    obtain ⟨above, node⟩ := List.append_inj' (is.symm.trans (List.append_nil _)) rfl
    cases t
    cases u
    cases above
    cases node
    exact absurd rfl other
  | cons n below =>
    rw [diverge, ← is]
    exact divergeFrom_append true u.path n below

end Target

/-! ## Forests -/

/-- **A forest of targets**: the parents of targets are there, and neither
two nodes nor two identifiers are of one target. -/
structure Forest where
  /-- The targets. -/
  targets : Set Target
  /-- What is not a root is under a target. -/
  rooted : ∀ t ∈ targets, t.above = [] ∨ ∃ parent ∈ targets, t.above = parent.path
  /-- A node is of one target. -/
  keyed : ∀ t ∈ targets, ∀ u ∈ targets, t.node.key = u.node.key → t = u
  /-- An identifier is of one target. -/
  named : ∀ t ∈ targets, ∀ u ∈ targets, t.node.id = u.node.id → t = u

namespace Forest

variable {F : Forest}

/-- Whatever stands on the path of a target is a target. -/
theorem mem_of_path {t : Target} (there : t ∈ F.targets) {above below : List TargetNode}
    {n : TargetNode} (is : t.path = above ++ n :: below) : ⟨above, n⟩ ∈ F.targets := by
  induction below using List.reverseRecOn generalizing t with
  | nil =>
    obtain ⟨rfl, node⟩ := List.append_inj' is rfl
    cases node
    exact there
  | append_singleton below last ih =>
    have parent : t.above = above ++ n :: below := by
      have path : t.above ++ [t.node] = (above ++ n :: below) ++ [last] := by
        simpa [Target.path] using is
      exact (List.append_inj' path rfl).1
    rcases F.rooted t there with root | ⟨u, hu, under⟩
    · rw [root] at parent
      simp at parent
    · exact ih hu (under.symm.trans parent)

/-- **Ranks decide where paths part**: two nodes on the paths of a forest
are the same, or of different ranks. -/
theorem divergeFrom_getD {t u : Target} (ht : t ∈ F.targets) (hu : u ∈ F.targets)
    {above as bs : List TargetNode} (ta : t.path = above ++ as) (ub : u.path = above ++ bs)
    (otherwise : Ordering) :
    (Target.divergeFrom above.isEmpty as bs).getD otherwise =
      (compare (Target.ranksFrom above.isEmpty as) (Target.ranksFrom above.isEmpty bs)).then
        otherwise := by
  induction as generalizing above bs with
  | nil => cases bs <;> rfl
  | cons a as ih =>
    cases bs with
    | nil => rfl
    | cons b bs =>
      have targets := And.intro (mem_of_path ht ta) (mem_of_path hu ub)
      have ranks : compare (Target.ranksFrom above.isEmpty (a :: as))
          (Target.ranksFrom above.isEmpty (b :: bs)) =
          (compare (Target.rank above.isEmpty a) (Target.rank above.isEmpty b)).then
            (compare (Target.ranksFrom false as) (Target.ranksFrom false bs)) :=
        List.compareLex_cons_cons
      rw [ranks, Target.divergeFrom]
      split
      · rename_i same
        cases F.keyed _ targets.1 _ targets.2 same
        rw [ReflOrd.compare_self, Ordering.eq_then]
        have deeper : (above ++ [a]).isEmpty = false := by cases above <;> rfl
        have further := @ih (above ++ [a]) bs (by simp [ta]) (by simp [ub])
        rwa [deeper] at further
      · rename_i apart
        -- The nodes are of two targets, which have two identifiers.
        have differ : compare (Target.rank above.isEmpty a) (Target.rank above.isEmpty b) ≠ .eq := by
          intro same
          have id := congrArg Rank.id (LawfulEqOrd.eq_of_compare same)
          cases F.named _ targets.1 _ targets.2 id
          exact apart rfl
        rw [Target.siblingOrder_eq, Option.getD_some]
        cases is : compare (Target.rank above.isEmpty a) (Target.rank above.isEmpty b) with
        | eq => exact absurd is differ
        | lt => rfl
        | gt => rfl

theorem diverge_getD {t u : Target} (ht : t ∈ F.targets) (hu : u ∈ F.targets)
    (otherwise : Ordering) :
    (t.diverge u).getD otherwise = (compare t.ranks u.ranks).then otherwise :=
  @divergeFrom_getD F t u ht hu [] _ _ rfl rfl otherwise

/-- Ranks tell targets apart. -/
theorem eq_of_ranks {t u : Target} (ht : t ∈ F.targets) (hu : u ∈ F.targets)
    (same : t.ranks = u.ranks) : t = u := by
  refine F.named t ht u hu (Option.some.inj ?_)
  rw [← t.getLast?_ranks, ← u.getLast?_ranks, same]

/-- Ranks tell subtrees apart. -/
theorem within_iff_ranks {t u : Target} (ht : t ∈ F.targets) (hu : u ∈ F.targets) :
    t.Within u ↔ u.ranks <+: t.ranks := by
  refine ⟨Target.ranks_prefix, fun begins => ?_⟩
  have take := List.prefix_iff_eq_take.1 begins
  rw [u.length_ranks, Target.ranks, Target.ranks, ← Target.ranksFrom_take] at take
  -- The path of the one is as long as a beginning of the path of the other, which is a target.
  have long : u.path.length ≤ t.path.length := by
    rw [← u.length_ranks, ← t.length_ranks]
    exact begins.length_le
  obtain ⟨above, n, is⟩ : ∃ above n, t.path.take u.path.length = above ++ [n] := by
    refine (List.eq_nil_or_concat' _).resolve_left fun none => ?_
    have zero := congrArg List.length none
    rw [List.length_take_of_le long, Target.path, List.length_append] at zero
    simp at zero
  have path : t.path = above ++ n :: t.path.drop u.path.length := by
    conv_lhs => rw [← List.take_append_drop u.path.length t.path, is, List.append_assoc]
    rfl
  have same : u = ⟨above, n⟩ := eq_of_ranks hu (mem_of_path ht path) (take.trans (is ▸ rfl))
  have begins : u.path = above ++ [n] := congrArg Target.path same
  rw [Target.Within, begins, ← is]
  exact List.take_prefix _ _

end Forest

/-! ## Contexts -/

namespace ExecutionContext

/-- The order by the ranks of the target, main worlds first, and names. -/
def standing : ExecutionContext → ExecutionContext → Ordering :=
  compareLex (compareOn fun c => c.target.ranks)
    (compareLex (fun a b => compare b.isDefault a.isDefault) (compareOn ExecutionContext.name))

instance : TransCmp standing :=
  have : TransCmp fun a b : ExecutionContext => compare b.isDefault a.isDefault :=
    inferInstanceAs (TransCmp fun a b => compareOn ExecutionContext.isDefault b a)
  inferInstanceAs (TransCmp (compareLex _ _))

theorem standing_eq (a b : ExecutionContext) :
    standing a b = (compare a.target.ranks b.target.ranks).then (a.orderWithin b) := by
  have within : a.orderWithin b =
      (compare b.isDefault a.isDefault).then (compare a.name b.name) := by
    rw [orderWithin]
    cases a.isDefault <;> cases b.isDefault <;> rfl
  rw [within]
  rfl

theorem orderWithin_eq_eq {a b : ExecutionContext} :
    a.orderWithin b = .eq ↔ a.isDefault = b.isDefault ∧ a.name = b.name := by
  rw [orderWithin]
  cases a.isDefault <;> cases b.isDefault <;> simp

end ExecutionContext

namespace Forest

variable {F : Forest} {a b c : ExecutionContext}

/-- **The order of contexts** in a forest is that by a few keys. -/
theorem order_eq_standing (ha : a.target ∈ F.targets) (hb : b.target ∈ F.targets) :
    a.order b = ExecutionContext.standing a b := by
  rw [ExecutionContext.standing_eq, ← diverge_getD ha hb]
  rfl

theorem order_eq_eq (ha : a.target ∈ F.targets) (hb : b.target ∈ F.targets) :
    a.order b = .eq ↔ a.target = b.target ∧ a.isDefault = b.isDefault ∧ a.name = b.name := by
  rw [order_eq_standing ha hb, ExecutionContext.standing_eq, Ordering.then_eq_eq,
    ExecutionContext.orderWithin_eq_eq, LawfulEqOrd.compare_eq_iff_eq]
  exact and_congr_left fun _ => ⟨eq_of_ranks ha hb, congrArg Target.ranks⟩

/-- What is between two contexts of a subtree is in it. -/
theorem within_of_between {t : Target} (ht : t ∈ F.targets) (ha : a.target ∈ F.targets)
    (hb : b.target ∈ F.targets) (hc : c.target ∈ F.targets) (first : a.target.Within t)
    (last : c.target.Within t) (below : (a.order b).isLE) (above : (b.order c).isLE) :
    b.target.Within t := by
  rw [order_eq_standing ha hb, ExecutionContext.standing_eq, Ordering.isLE_then_iff_and] at below
  rw [order_eq_standing hb hc, ExecutionContext.standing_eq, Ordering.isLE_then_iff_and] at above
  exact (within_iff_ranks hb ht).2
    (prefix_of_between (Target.ranks_prefix first) (Target.ranks_prefix last) below.1 above.1)

end Forest

namespace Session

variable {F : Forest} {s : Session}

/-- Contexts that are shown in their order are sorted. -/
theorem shownContexts_pairwise (order : s.contextOrder = ExecutionContext.order)
    (there : ∀ c ∈ s.contexts, c.target ∈ F.targets) :
    s.shownContexts.Pairwise fun a b => (a.order b).isLE := by
  -- Keys put any contexts in order, targets only those of a forest.
  have sorted : (s.contexts.mergeSort fun a b => (ExecutionContext.standing a b).isLE).Pairwise
      fun a b => (ExecutionContext.standing a b).isLE := by
    refine List.pairwise_mergeSort (fun _ _ _ => TransCmp.isLE_trans) (fun a b => ?_) _
    rw [@OrientedCmp.eq_swap _ ExecutionContext.standing _ b a]
    cases ExecutionContext.standing a b <;> rfl
  have same : s.shownContexts =
      s.contexts.mergeSort fun a b => (ExecutionContext.standing a b).isLE := by
    have agree : ∀ a ∈ s.contexts, ∀ b ∈ s.contexts,
        (s.contextOrder a b).isLE = (ExecutionContext.standing (id a) (id b)).isLE := by
      intro a ha b hb
      rw [order, Forest.order_eq_standing (there a ha) (there b hb)]
      rfl
    simpa [shownContexts] using List.map_mergeSort (f := id) agree
  rw [← same] at sorted
  refine sorted.imp_of_mem fun {a b} ha hb is => ?_
  rw [shownContexts, List.mem_mergeSort] at ha hb
  rwa [Forest.order_eq_standing (there a ha) (there b hb)]

/-- **Contexts of a subtree are shown together.** -/
theorem shownContexts_within (order : s.contextOrder = ExecutionContext.order)
    (there : ∀ c ∈ s.contexts, c.target ∈ F.targets) {t : Target} (ht : t ∈ F.targets)
    {front middle back : List ExecutionContext} {a b c : ExecutionContext}
    (shown : s.shownContexts = front ++ a :: middle ++ c :: back) (first : a.target.Within t)
    (last : c.target.Within t) (hb : b ∈ middle) : b.target.Within t := by
  have sorted := shownContexts_pairwise order there
  have targets : ∀ d ∈ s.shownContexts, d.target ∈ F.targets := by
    intro d hd
    rw [shownContexts, List.mem_mergeSort] at hd
    exact there d hd
  rw [shown, List.append_assoc, List.cons_append] at sorted targets
  obtain ⟨above, rest⟩ := List.pairwise_cons.1 (List.pairwise_append.1 sorted).2.1
  have below := (List.pairwise_append.1 rest).2.2 b hb c (.head _)
  exact Forest.within_of_between ht (targets a (by simp)) (targets b (by simp [hb]))
    (targets c (by simp)) first last (above b (by simp [hb])) below

end Session

/-! ## The result -/

namespace Forest

/-- **Contexts are in a total preorder**, whatever the forest of their
targets: comparing the other way round gives the reverse, and what is not
after what is not after a third is not after that. They are level exactly if
they agree in target, kind and name; a target comes before those under it,
and between two contexts of a subtree there is none outside, nor is one
shown there. -/
theorem contexts_ordered (F : Forest) (contexts : Set ExecutionContext)
    (there : ∀ c ∈ contexts, c.target ∈ F.targets) :
    (∀ a ∈ contexts, ∀ b ∈ contexts, b.order a = (a.order b).swap) ∧
      (∀ a ∈ contexts, ∀ b ∈ contexts, ∀ c ∈ contexts,
        (a.order b).isLE → (b.order c).isLE → (a.order c).isLE) ∧
      (∀ a ∈ contexts, ∀ b ∈ contexts, a.order b = .eq ↔
        a.target = b.target ∧ a.isDefault = b.isDefault ∧ a.name = b.name) ∧
      (∀ a ∈ contexts, ∀ b ∈ contexts, b.target.Within a.target → b.target ≠ a.target →
        a.order b = .lt) ∧
      (∀ t ∈ F.targets, ∀ a ∈ contexts, ∀ b ∈ contexts, ∀ c ∈ contexts,
        a.target.Within t → c.target.Within t → (a.order b).isLE → (b.order c).isLE →
          b.target.Within t) ∧
      ∀ s : Session, s.contextOrder = ExecutionContext.order → (∀ c ∈ s.contexts, c ∈ contexts) →
        s.shownContexts.Pairwise (fun a b => (a.order b).isLE) ∧
          ∀ t ∈ F.targets, ∀ front middle back a c,
            s.shownContexts = front ++ a :: middle ++ c :: back →
              a.target.Within t → c.target.Within t → ∀ b ∈ middle, b.target.Within t := by
  refine ⟨fun a ha b hb => ?_, fun a ha b hb c hc below above => ?_, fun a ha b hb => ?_,
    fun a ha b hb under other => ?_, fun t ht a ha b hb c hc => ?_, fun s order known => ?_⟩
  · rw [order_eq_standing (there b hb) (there a ha),
      order_eq_standing (there a ha) (there b hb)]
    exact OrientedCmp.eq_swap
  · rw [Forest.order_eq_standing (there a ha) (there b hb)] at below
    rw [Forest.order_eq_standing (there b hb) (there c hc)] at above
    rw [Forest.order_eq_standing (there a ha) (there c hc)]
    exact TransCmp.isLE_trans below above
  · exact Forest.order_eq_eq (there a ha) (there b hb)
  · rw [ExecutionContext.order, Target.diverge_of_within under other]
    rfl
  · exact Forest.within_of_between ht (there a ha) (there b hb) (there c hc)
  · have targets : ∀ c ∈ s.contexts, c.target ∈ F.targets := fun c hc => there c (known c hc)
    exact ⟨Session.shownContexts_pairwise order targets, fun t ht front middle back a c shown
      first last b hb => Session.shownContexts_within order targets ht shown first last hb⟩

/-- A page. -/
def page : Target := .root ⟨0, "page", .frame⟩

/-- A frame in it. -/
def pageFrame : Target := page.child ⟨1, "frame", .frame⟩

/-- Both, with a frame in the frame and a worker of the page. -/
def pageTargets : List Target :=
  [page, pageFrame, pageFrame.child ⟨2, "inner", .frame⟩, page.child ⟨3, "worker", .worker⟩]

/-- Their forest. -/
def pageForest : Forest where
  targets := {t | t ∈ pageTargets}
  rooted := by
    change ∀ t ∈ pageTargets, t.above = [] ∨ ∃ parent ∈ pageTargets, t.above = parent.path
    decide
  keyed := by
    change ∀ t ∈ pageTargets, ∀ u ∈ pageTargets, t.node.key = u.node.key → t = u
    decide
  named := by
    change ∀ t ∈ pageTargets, ∀ u ∈ pageTargets, t.node.id = u.node.id → t = u
    decide

/-- A session that knows a context of each, the worker's first. -/
def pageSession : Session where
  seat := 0
  target := page
  settings := {}
  contexts := pageTargets.reverse.map fun t => .ofReport ⟨1, "", "", none, none⟩ t

/-- Between two contexts of the frames none of the worker or the page is
shown. -/
theorem contexts_ordered_page :
    (∀ c ∈ {c | c ∈ pageSession.contexts}, c.target ∈ pageForest.targets) ∧
      ∀ front middle back a c, pageSession.shownContexts = front ++ a :: middle ++ c :: back →
        a.target.Within pageFrame → c.target.Within pageFrame →
          ∀ b ∈ middle, b.target.Within pageFrame := by
  have there : ∀ c ∈ {c | c ∈ pageSession.contexts}, c.target ∈ pageForest.targets := by
    intro c hc
    obtain ⟨t, ht, rfl⟩ := List.mem_map.1 hc
    exact List.mem_reverse.1 ht
  have frame : pageFrame ∈ pageForest.targets := .tail _ (.head _)
  have result := contexts_ordered pageForest {c | c ∈ pageSession.contexts} there
  exact ⟨there, (result.2.2.2.2.2 pageSession rfl fun _ known => known).2 _ frame⟩

end Forest

end DebugClient
