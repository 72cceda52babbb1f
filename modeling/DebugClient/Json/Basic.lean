import DebugClient.Double.Basic
/-!
# JSON — the values that travel on the wire

Numbers come in two kinds: a whole number written without fraction or
exponent stays an integer, so that it is echoed as it came, and every
other number is a double. Objects are lists of members; the reader
leaves them in increasing order of their names, one member a name
(`Json.Ordered` states it), and nothing later reorders them.
-/

namespace DebugClient

/-- A JSON value. -/
inductive Json where
  /-- The null value. -/
  | null
  /-- A truth value. -/
  | bool (b : Bool)
  /-- A whole number of at most 64 bits. -/
  | int (n : Int)
  /-- Any other number. -/
  | double (d : Double)
  /-- A text. -/
  | str (s : String)
  /-- A sequence of values. -/
  | arr (items : List Json)
  /-- Named members. -/
  | obj (members : List (String × Json))
  deriving Inhabited

namespace Json

/-- The member of a name, if the value is an object that has it. -/
def member? (j : Json) (name : String) : Option Json :=
  match j with
  | .obj members => members.lookup name
  | _ => none

/-- The truth value, if it is one. -/
def bool? : Json → Option Bool
  | .bool b => some b
  | _ => none

/-- The text, if it is one. -/
def str? : Json → Option String
  | .str s => some s
  | _ => none

/-- The items, if it is an array. -/
def arr? : Json → Option (List Json)
  | .arr items => some items
  | _ => none

/-- The number as a double, if it is one. -/
def number? : Json → Option Double
  | .int n => some (Double.ofInt n)
  | .double d => some d
  | _ => none

/-- The natural number, if it is one without fraction or exponent. -/
def nat? : Json → Option Nat
  | .int n => if 0 ≤ n then some n.toNat else none
  | _ => none

/-- The whole number, if it is one without fraction or exponent. -/
def int? : Json → Option Int
  | .int n => some n
  | _ => none

/-- A natural number. -/
def nat (n : Nat) : Json := .int n

/-- What may be absent, and is null then. -/
def orNull {α : Type} (write : α → Json) : Option α → Json
  | some a => write a
  | none => .null

/-- Adds a member in name order; a later member replaces an earlier one of
its name. -/
def insertMember (name : String) (value : Json) :
    List (String × Json) → List (String × Json)
  | [] => [(name, value)]
  | (n, v) :: rest =>
    if name < n then (name, value) :: (n, v) :: rest
    else if name = n then (name, value) :: rest
    else (n, v) :: insertMember name value rest

/-- The object of some members, in name order. -/
def object (members : List (String × Json)) : Json :=
  .obj (members.foldl (fun acc m => insertMember m.1 m.2 acc) [])

/-- The object of those members that are present. -/
def record (members : List (String × Option Json)) : Json :=
  object (members.filterMap fun m => m.2.map (m.1, ·))

mutual

/-- Whether the members of every object in a value stand in strictly
increasing order of their names. -/
def Ordered : Json → Prop
  | .arr items => OrderedItems items
  | .obj members => members.Pairwise (fun a b => a.1 < b.1) ∧ OrderedMembers members
  | _ => True

/-- `Ordered` for each item of an array. -/
def OrderedItems : List Json → Prop
  | [] => True
  | j :: rest => Ordered j ∧ OrderedItems rest

/-- `Ordered` for each member of an object. -/
def OrderedMembers : List (String × Json) → Prop
  | [] => True
  | (_, j) :: rest => Ordered j ∧ OrderedMembers rest

end

/-! ## Members -/

@[simp] theorem member?_obj (members : List (String × Json)) (name : String) :
    (Json.obj members).member? name = members.lookup name := rfl

/-- The member just added is the one found. -/
theorem lookup_insertMember_self (name : String) (value : Json)
    (members : List (String × Json)) :
    (insertMember name value members).lookup name = some value := by
  induction members with
  | nil => simp [insertMember]
  | cons m rest ih =>
    obtain ⟨n, v⟩ := m
    simp only [insertMember]
    split
    · simp
    · split
      · simp
      · rename_i h
        have : (name == n) = false := by simpa using h
        simp [List.lookup_cons, this, ih]

/-- Every other member stays as it was. -/
theorem lookup_insertMember_of_ne {name other : String} (h : other ≠ name) (value : Json)
    (members : List (String × Json)) :
    (insertMember name value members).lookup other = members.lookup other := by
  have hne : (other == name) = false := by simpa using h
  induction members with
  | nil => simp [insertMember, List.lookup_cons, hne]
  | cons m rest ih =>
    obtain ⟨n, v⟩ := m
    simp only [insertMember]
    split
    · simp [List.lookup_cons, hne]
    · split
      · rename_i heq
        subst heq
        simp [List.lookup_cons, hne]
      · simp only [List.lookup_cons]
        split <;> simp_all

end Json

end DebugClient
