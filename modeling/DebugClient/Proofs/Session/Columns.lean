import Mathlib.Data.List.TakeWhile
import DebugClient.Proofs.Session.Filing
import DebugClient.Proofs.Session.Leftovers
import DebugClient.Session.Breakpoints
/-!
# Columns — where on a line a breakpoint of a URL is set

A document has several scripts on one line, and a breakpoint of its URL is
not set in front of them: the column that is sent is at least the smallest
one at which a script starts on the line. The search for the smallest
takes zero for none found so far. So a script that starts at column zero
hides those that were registered after it, and the column depends on the
order in which the scripts came (`column_sent_iff`, `hidden_by_zero`).
-/

namespace DebugClient

/-! ## The smallest of some columns -/

/-- The smallest of some columns; zero if there are none. -/
def least (columns : List Nat) : Nat := columns.min?.getD 0

theorem least_nil : least [] = 0 := rfl

theorem least_singleton (n : Nat) : least [n] = n := rfl

theorem least_cons_cons (n m : Nat) (rest : List Nat) :
    least (n :: m :: rest) = min n (least (m :: rest)) := by
  simp [least, List.min?_cons]

theorem least_le {n : Nat} {columns : List Nat} (h : n ∈ columns) : least columns ≤ n :=
  List.min?_getD_le_of_mem h

theorem least_mem {columns : List Nat} (found : columns ≠ []) : least columns ∈ columns := by
  obtain ⟨m, is⟩ := Option.isSome_iff_exists.1 (List.isSome_min?_iff.2 found)
  rw [least, is]
  exact List.min?_mem is

/-- Of some columns the smallest is that of all if there is one in front of
each. -/
theorem least_eq_iff {part all : List Nat} (sub : part ⊆ all) (inside : ∀ n ∈ all, n ≠ 0) :
    least part = least all ↔ ∀ n ∈ all, ∃ m ∈ part, m ≤ n := by
  constructor
  · intro same n hn
    have there : least all ∈ all := least_mem (List.ne_nil_of_mem hn)
    -- With no column among them the smallest would be zero.
    have found : part ≠ [] := by
      rintro rfl
      exact inside _ there same.symm
    exact ⟨least part, least_mem found, same ▸ least_le hn⟩
  · intro front
    cases all with
    | nil => rw [List.subset_nil.1 sub]
    | cons n rest =>
      obtain ⟨m, hm, before⟩ := front _ (least_mem (List.cons_ne_nil n rest))
      have reached : least part ∈ part := least_mem (List.ne_nil_of_mem hm)
      exact Nat.le_antisymm ((least_le hm).trans before) (least_le (sub reached))

theorem ne_zero_of_mem {n : Nat} {columns : List Nat} (h : n ∈ columns.takeWhile (· ≠ 0)) :
    n ≠ 0 :=
  of_decide_eq_true (List.mem_takeWhile_imp (p := fun n => decide (n ≠ 0)) h)

/-- A search from the end takes zero for none found. So at a zero it has
lost what it found behind it. -/
theorem search_eq_least (columns : List Nat) :
    columns.foldr (fun n found => if found = 0 then n else min found n) 0 =
      least (columns.takeWhile (· ≠ 0)) := by
  induction columns with
  | nil => rfl
  | cons n rest ih =>
    rw [List.foldr_cons, ih]
    by_cases zero : n = 0
    · simp [zero, least_nil]
    rw [List.takeWhile_cons_of_pos (by simpa using zero)]
    cases behind : rest.takeWhile (· ≠ 0) with
    | nil => rw [least_nil, if_pos rfl, least_singleton]
    | cons m others =>
      -- What was found behind the column is not zero.
      have inside : least (m :: others) ≠ 0 := by
        apply ne_zero_of_mem
        rw [behind]
        exact least_mem (List.cons_ne_nil m others)
      rw [if_neg inside, least_cons_cons, Nat.min_comm]

namespace Catalog

/-- The columns at which the scripts of a URL start on a line, in the order
in which the scripts were registered. -/
def startsOn (c : Catalog) (url : String) (line : Nat) : List Nat :=
  (c.scripts.filter fun x => x.IsOf url ∧ x.lineOffset = line).map (·.columnOffset)

/-- The column that is found is the smallest one in front of the first
zero. -/
theorem Filed.minColumn_eq {c : Catalog} (h : c.Filed) (url : String) (line : Nat) :
    c.minColumn url line = least ((c.startsOn url line).takeWhile (· ≠ 0)) := by
  have newest : (c.forUrl url).filter (·.lineOffset == line) =
      (c.scripts.filter fun x => x.IsOf url ∧ x.lineOffset = line).reverse := by
    rw [h.forUrl_eq, List.filter_reverse, List.filter_filter]
    congr 2
    funext x
    simp [Bool.and_comm, beq_eq_decide]
  rw [← search_eq_least, minColumn, newest, List.foldl_reverse, startsOn, List.foldr_map]

end Catalog

namespace Session

/-! ## The column that is sent -/

/-- The column a session sends when it is asked for a breakpoint of a
URL. -/
def columnSent (s : Session) (url : String) (line : Nat) (column : Option Nat)
    (condition : Option String) : Option Nat :=
  let asked := ((setBreakpointByUrl url line column condition).toWait s).2
  (commandsOf (asked.saidSince s.journal.length)).findSome? fun
    | .setBreakpointByUrl b => b.columnNumber
    | _ => none

theorem columnSent_eq (s : Session) (url : String) (line : Nat) (column : Option Nat)
    (condition : Option String) :
    s.columnSent url line column condition =
      some (max (column.getD 0) (s.catalog.minColumn url line)) := by
  let request : Signal :=
    .request s.nextTicket (.setBreakpointByUrl (s.breakpointByUrl url line column condition))
  have said : ((setBreakpointByUrl url line column condition).toWait s).2.saidSince
      s.journal.length = [request] := saidSince_eq rfl
  rw [columnSent, said]
  rfl

/-- **The column of a breakpoint**, whatever was reported, evicted and
forgotten: it is the one asked for or, if that is greater, the smallest one
at which a script of the URL starts on the line, of those registered before
any that starts at column zero. It is that of all scripts that start inside
the line exactly if one of the former starts in front of each, or if the
column asked for is behind both. -/
theorem column_sent_iff (seat : Nat) (target : Target) (settings : Settings)
    (moves : List (Flow.Move ScriptCall (Ticket × Reply))) (url : String) (line : Nat)
    (column : Option Nat) (condition : Option String) :
    let s := afterScripts seat target settings moves
    let starts := s.catalog.startsOn url line
    let shown := starts.takeWhile (· ≠ 0)
    let inside := starts.filter (· ≠ 0)
    s.columnSent url line column condition = some (max (column.getD 0) (least shown)) ∧
      (s.columnSent url line column condition = some (max (column.getD 0) (least inside)) ↔
        (∀ n ∈ inside, ∃ m ∈ shown, m ≤ n) ∨
          least shown ≤ column.getD 0 ∧ least inside ≤ column.getD 0) := by
  intro s starts shown inside
  have order : InOrder s := steady_inOrder.after seat target settings (inOrder_connect _ _ _) moves
  have sent : s.columnSent url line column condition =
      some (max (column.getD 0) (least shown)) := by
    rw [columnSent_eq, order.filed.minColumn_eq]
  have sub : shown ⊆ inside := by
    intro n hn
    exact List.mem_filter.2 ⟨List.takeWhile_subset _ hn, decide_eq_true (ne_zero_of_mem hn)⟩
  refine ⟨sent, ?_⟩
  rw [sent, Option.some.injEq, ← least_eq_iff sub (by simp [inside])]
  omega

/-- A script that starts at a column of the first line of a page. -/
def startingAt (id : String) (column : Nat) : Wire.ScriptReport :=
  { page with scriptId := id, startColumn := column }

/-- **Hidden by zero**: of two scripts that start on one line, the one that
starts inside it is not seen if the other one came first. -/
theorem hidden_by_zero :
    let first := startingAt "1" 0
    let second := startingAt "2" 7
    let opened (reports : List Wire.ScriptReport) :=
      afterScripts 0 (.root ⟨0, "page", .frame⟩) {} (reports.map fun r => .begin (.parse r false))
    (opened [first, second]).columnSent "app.js" 0 none none = some 0 ∧
      (opened [second, first]).columnSent "app.js" 0 none none = some 7 := by
  decide

end Session

end DebugClient
