import DebugClient.Value.Basic
import Mathlib.Data.List.Basic
/-!
# Previews of JSON values — as many children as fit

The description of an array or object holds its first children, up to the
one that would take the text above the budget (`fill_eq`). The text so far
and the child are counted, but not the separator between them or what comes
behind. So a text may be longer than the budget, but only by these: a
separator, an ellipsis and a bracket (`length_fill_le`).

The result is `Value.description_json`, for arrays and objects of any size
and depth.
-/

namespace DebugClient

namespace Preview

/-! ## What is shown -/

/-- The text in which a value stands as a child of another: its
description, in quotes if it is a text. -/
def formatted (v : Value) : List Char :=
  let text := (v.description.getD "").toList
  if v.type = .string then quoted text else text

/-- A member of an object as a child: its name and its value. -/
def formattedMember (member : String × Json) : List Char :=
  memberName member.1.toList ++ [':', ' '] ++ formatted (.json member.2)

/-- The opening bracket and the first children, joined. -/
def soFar (opening : Char) (children : List (List Char)) (k : Nat) : List Char :=
  opening :: [',', ' '].intercalate (children.take k)

/-- A child would take the text in front of it above the budget. -/
def Overflows (opening : Char) (children : List (List Char)) (k : Nat) : Prop :=
  ∃ child, children[k]? = some child ∧ budget < (soFar opening children k).length + child.length

/-- **So many children are shown**: those in front of the first that
overflows, or all if none does. -/
structure Shows (opening : Char) (children : List (List Char)) (k : Nat) : Prop where
  /-- None of those shown overflows. -/
  fit : ∀ i < k, ¬ Overflows opening children i
  /-- The next one does, if there is one. -/
  cut : k = children.length ∨ Overflows opening children k

/-- **A text shows children between brackets**, with an ellipsis behind
them if not all are shown, and is of no more than 105 characters. -/
def Described (opening closing : Char) (children : List (List Char)) (text : String) : Prop :=
  (∃ k, Shows opening children k ∧ text.toList =
    soFar opening children k ++ (if k < children.length then [',', '\u2026'] else []) ++ [closing]) ∧
  text.length ≤ 105

/-! ## Children -/

theorem child_eq (j : Json) : child j = formatted (.json j) := by
  cases j <;> simp [child, describe, formatted, Value.description, Value.type]

theorem children_eq (items : List Json) :
    children items = items.map fun j => formatted (.json j) := by
  induction items with
  | nil => rfl
  | cons j rest ih => rw [children, child_eq, ih, List.map_cons]

theorem namedChildren_eq (members : List (String × Json)) :
    namedChildren members = members.map formattedMember := by
  induction members with
  | nil => rfl
  | cons member rest ih =>
    rw [namedChildren, child_eq, ih, List.map_cons, formattedMember, List.append_assoc]
    rfl

/-! ## Filling -/

theorem intercalate_concat (separator : List Char) (front : List (List Char)) (last : List Char) :
    separator.intercalate (front ++ [last]) =
      (if front.isEmpty then [] else separator.intercalate front ++ separator) ++ last := by
  induction front with
  | nil => exact List.intercalate_singleton
  | cons first rest ih =>
    rw [List.cons_append, List.intercalate_cons_of_ne_nil (by simp), ih]
    cases rest with
    | nil => simp
    | cons second rest => simp [List.intercalate_cons_cons]

section Filling

variable {opening : Char} {all front rest : List (List Char)} {next : List Char}

/-- One more child joins the text. -/
theorem soFar_succ (is : all = front ++ next :: rest) :
    soFar opening all (front.length + 1) =
      (if front.isEmpty then soFar opening all front.length
        else soFar opening all front.length ++ [',', ' ']) ++ next := by
  have one : all.take (front.length + 1) = front ++ [next] := by
    rw [is, List.take_length_add_append, List.take_succ_cons, List.take_zero]
  have before : all.take front.length = front := by rw [is, List.take_left]
  rw [soFar, soFar, one, before, intercalate_concat]
  cases front <;> simp

/-- **Filling shows the children in front of the first that overflows.** -/
theorem fill_eq (is : all = front ++ rest) (fit : ∀ i < front.length, ¬ Overflows opening all i) :
    ∃ k, Shows opening all k ∧ fill front.isEmpty (soFar opening all front.length) rest =
      soFar opening all k ++ if k < all.length then [',', '\u2026'] else [] := by
  induction rest generalizing front with
  | nil =>
    have whole : front.length = all.length := by rw [is, List.append_nil]
    refine ⟨front.length, ⟨fit, .inl whole⟩, ?_⟩
    rw [fill, whole, if_neg (Nat.lt_irrefl _), List.append_nil]
  | cons next rest ih =>
    have there : all[front.length]? = some next := by simp [is]
    rw [fill]
    split
    · rename_i above
      have inside : front.length < all.length := (List.getElem?_eq_some_iff.1 there).1
      refine ⟨front.length, ⟨fit, .inr ⟨next, there, above⟩⟩, ?_⟩
      rw [if_pos inside]
      rfl
    · rename_i fits
      have shown : (front ++ [next]).length = front.length + 1 := List.length_append
      have some : (front ++ [next]).isEmpty = false := by cases front <;> rfl
      have more := @ih (front ++ [next]) (by simp [is]) fun i below => by
        rw [shown] at below
        rcases Nat.lt_succ_iff_lt_or_eq.1 below with below | rfl
        · exact fit i below
        · rintro ⟨child, found, above⟩
          cases there.symm.trans found
          exact fits above
      rwa [some, shown, soFar_succ is] at more

end Filling

/-- A text is never longer than the budget and a separator, before the
ellipsis. -/
theorem length_fill_le (first : Bool) {text : List Char} (children : List (List Char))
    (short : text.length ≤ budget + 2) : (fill first text children).length ≤ budget + 4 := by
  induction children generalizing first text with
  | nil => exact Nat.le_trans short (by decide)
  | cons child rest ih =>
    rw [fill]
    split
    · rw [List.length_append]
      exact Nat.add_le_add_right short 2
    · rename_i fits
      refine ih false ?_
      cases first <;> simp <;> omega

/-- **Children between brackets** are described. -/
theorem described_enclose (opening closing : Char) (children : List (List Char)) :
    Described opening closing children (String.ofList (enclose opening closing children)) := by
  obtain ⟨k, shows, filled⟩ := @fill_eq opening children [] children rfl nofun
  have short : [opening].length ≤ budget + 2 := Nat.le_add_left 1 101
  refine ⟨⟨k, shows, ?_⟩, ?_⟩
  · rw [String.toList_ofList, enclose, ← filled]
    rfl
  · rw [String.length_ofList, enclose, List.length_append]
    exact Nat.add_le_add_right (length_fill_le true children short) 1

end Preview

/-- **A JSON value is described by its first children**, as many as fit,
whatever its size and depth: the opening bracket and the children in front
of the first that would take the text above a hundred characters, an
ellipsis if there is one, and the closing bracket. That is no more than 105
characters. -/
theorem Value.description_json :
    (∀ items, ∃ text, (Value.json (.arr items)).description = some text ∧
        Preview.Described '[' ']' (items.map fun j => Preview.formatted (.json j)) text) ∧
      ∀ members, ∃ text, (Value.json (.obj members)).description = some text ∧
        Preview.Described '\x7b' '\x7d' (members.map Preview.formattedMember) text := by
  refine ⟨fun items => ⟨_, rfl, ?_⟩, fun members => ⟨_, rfl, ?_⟩⟩
  · rw [Preview.describe, Preview.children_eq]
    exact Preview.described_enclose '[' ']' _
  · rw [Preview.describe, Preview.namedChildren_eq]
    exact Preview.described_enclose '\x7b' '\x7d' _

/-- Five characters above the budget are reached. -/
example :
    let text (n : Nat) : Json := .str (String.ofList (List.replicate n 'a'))
    (Preview.describe (.arr [text 47, text 48, .null])).length = 105 := by
  decide

end DebugClient
