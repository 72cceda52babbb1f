/-!
# Targets — the tree of what is debugged

A page, a frame inside it, a worker it started: each is a target, and
each but the first has a parent. A `Target` is the path to a target from
the root of its tree. Two nodes are the same if their keys are; their
identifiers may agree by chance.

`Target.diverge` compares two targets for display at the first place
where their paths part.
-/

namespace DebugClient

/-- What a target is. -/
inductive TargetKind where
  /-- A page or a frame inside one. -/
  | frame
  /-- A service worker. -/
  | serviceWorker
  /-- A worker of one page. -/
  | worker
  /-- A worker shared by pages. -/
  | sharedWorker
  /-- A process of a runtime without pages. -/
  | node
  /-- Anything else. -/
  | other
  deriving DecidableEq

/-- How early targets of a kind are shown among their siblings; the
heavier come first. -/
def TargetKind.weight : TargetKind → Nat
  | .frame => 4
  | .serviceWorker => 3
  | .worker => 2
  | .sharedWorker => 2
  | .node => 1
  | .other => 1

/-- Every kind of target, under the word for it. -/
def TargetKind.words : List (String × TargetKind) :=
  [("frame", .frame), ("serviceWorker", .serviceWorker), ("worker", .worker),
    ("sharedWorker", .sharedWorker), ("node", .node), ("other", .other)]

/-- The kind of target a word names. -/
def TargetKind.ofWord? (word : String) : Option TargetKind := words.lookup word

/-- A target without its place in the tree. -/
structure TargetNode where
  /-- Tells it apart from every other target. -/
  key : Nat
  /-- Identifier. -/
  id : String
  /-- What the target is. -/
  kind : TargetKind
  deriving DecidableEq

/-- A target: the nodes above it, root first, and its own. -/
structure Target where
  /-- The nodes above, root first. -/
  above : List TargetNode
  /-- The target's own node. -/
  node : TargetNode
  deriving DecidableEq

namespace Target

/-- A target without a parent. -/
def root (node : TargetNode) : Target := ⟨[], node⟩

/-- The nodes from the root down to the target. -/
def path (t : Target) : List TargetNode := t.above ++ [t.node]

/-- A target under another. -/
def child (parent : Target) (node : TargetNode) : Target := ⟨parent.path, node⟩

/-- The order of two nodes of one parent: by weight, then by identifier.
Nodes without a parent are all of one weight. -/
def siblingOrder (atRoot : Bool) (a b : TargetNode) : Ordering :=
  (if atRoot then .eq else compare b.kind.weight a.kind.weight).then (compare a.id b.id)

/-- The order of two paths at the place where they part; none if they do
not. A target comes before those under it. -/
def divergeFrom (atRoot : Bool) : List TargetNode → List TargetNode → Option Ordering
  | [], [] => none
  | [], _ :: _ => some .lt
  | _ :: _, [] => some .gt
  | a :: as, b :: bs =>
    if a.key = b.key then divergeFrom false as bs else some (siblingOrder atRoot a b)

/-- The order of two targets; none if they are the same. -/
def diverge (a b : Target) : Option Ordering := divergeFrom true a.path b.path

theorem divergeFrom_self (atRoot : Bool) (p : List TargetNode) : divergeFrom atRoot p p = none := by
  induction p generalizing atRoot with
  | nil => rfl
  | cons a as ih => simp [divergeFrom, ih]

/-- A target comes before every target under it. -/
theorem divergeFrom_append (atRoot : Bool) (p : List TargetNode) (a : TargetNode)
    (below : List TargetNode) : divergeFrom atRoot p (p ++ a :: below) = some .lt := by
  induction p generalizing atRoot with
  | nil => rfl
  | cons b bs ih => simp [divergeFrom, ih]

end Target

end DebugClient
