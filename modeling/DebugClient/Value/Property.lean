import DebugClient.Value.Basic
/-!
# Properties — what a value is opened into

A `Listing` is what a value was opened into: properties, and the internal
slots of an object. A list that is not there was not to be had.

`Listing.inherited` puts two listings of one object together, the
accessors of its prototype chain and its own properties, into one in
which every name occurs once.
-/

namespace DebugClient

/-- A property of a value. -/
structure Property where
  /-- Property name. -/
  name : String
  /-- Value, unless the property is an accessor. -/
  value : Option Value := none
  /-- Whether it is enumerated. -/
  enumerable : Bool := true
  /-- Whether it can be written. -/
  writable : Bool := true
  /-- Whether it belongs to the object itself. -/
  isOwn : Bool := false
  /-- Whether reading it threw. -/
  wasThrown : Bool := false
  /-- The key, if it is a symbol. -/
  symbol : Option Value := none
  /-- Getter of an accessor. -/
  getter : Option Value := none
  /-- Setter of an accessor. -/
  setter : Option Value := none
  /-- Whether it is a private member. -/
  isPrivate : Bool := false

/-- Whether a property has a getter or a setter. -/
def Property.isAccessor (p : Property) : Bool := p.getter.isSome || p.setter.isSome

/-- What a value was opened into. -/
structure Listing where
  /-- Named, symbol-keyed and private properties. -/
  properties : Option (List Property) := none
  /-- Internal slots. -/
  internal : Option (List Property) := none
  deriving Inhabited

/-- What calling a function on a value gave. -/
structure CallOutcome where
  /-- The result or what was thrown; none if the call was not made. -/
  object : Option Value := none
  /-- Whether it threw. -/
  threw : Bool := false

namespace Property

/-- Whether a text is an array index: a number below `2 ^ 32` in its
shortest decimal form. -/
def isArrayIndex (name : String) : Bool :=
  match name.toList with
  | [] => false
  | cs =>
    cs.all Char.isDigit && (cs.head? != some '0' || cs.length == 1) &&
      decide (cs.foldl (fun acc c => 10 * acc + (c.toNat - '0'.toNat)) 0 < 0x100000000)

/-- The children of a JSON value, in order. -/
def ofJson : Json → List Property
  | .arr items => items.mapIdx fun i j => { name := toString i, value := some (.json j) }
  | .obj members => members.map fun m => { name := m.1, value := some (.json m.2) }
  | _ => []

/-- Puts a property at the end, or in the place of the one of its name. -/
def place (p : Property) : List Property → List Property
  | [] => [p]
  | q :: rest => if q.name = p.name then p :: rest else q :: place p rest

/-- Places properties one after another. -/
def placeAll (ps : List Property) (onto : List Property) : List Property :=
  ps.foldl (fun acc p => place p acc) onto

/-- Whether a property of the prototype chain is listed under its name.
Keys that are symbols stand apart, and the inherited accessor of the
prototype itself is left out. -/
def inheritedNamed (p : Property) : Bool := p.symbol.isNone && (p.isOwn || p.name != "__proto__")

/-- Whether an own property is listed under its name. -/
def ownNamed (p : Property) : Bool := !p.isAccessor && !p.isPrivate && p.symbol.isNone

/-- Whether an own property stands apart from the named ones. -/
def ownApart (p : Property) : Bool := !p.isAccessor && (p.isPrivate || p.symbol.isSome)

end Property

namespace Listing

/-- The listing that failed. -/
def failed : Listing := {}

/-- The properties of a JSON value. -/
def ofJson (j : Json) (accessorsOnly nonIndexedOnly : Bool) : Listing :=
  if accessorsOnly then { properties := some [] }
  else
    { properties := some ((Property.ofJson j).filter fun p =>
        !nonIndexedOnly || !Property.isArrayIndex p.name) }

/-- Own properties and the accessors of the prototype chain as one list.
Each name stands where it came first and is the property that came last;
symbol-keyed and private properties follow. -/
def merge (accessors own : List Property) : List Property :=
  Property.placeAll (own.filter Property.ownNamed)
      (Property.placeAll (accessors.filter Property.inheritedNamed) []) ++
    accessors.filter (·.symbol.isSome) ++ own.filter Property.ownApart

/-- The listing of an object with what it inherits, from both its
listings. -/
def inherited (accessors own : Listing) : Listing :=
  match accessors.properties, own.properties with
  | some a, some o => { properties := some (merge a o), internal := own.internal }
  | _, _ => failed

end Listing

end DebugClient
