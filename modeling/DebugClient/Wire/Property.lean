import DebugClient.Wire.RemoteObject
/-!
# Wire — properties of objects

A listing has three kinds of entries: named or symbol-keyed properties,
internal slots of the engine, and private members of a class.
-/

namespace DebugClient

namespace Wire

/-- A property of an object. -/
structure Property where
  /-- Property name. -/
  name : String
  /-- Value, unless the property is an accessor. -/
  value : Option RemoteObject
  /-- Whether it can be written. -/
  writable : Option Bool
  /-- Getter of an accessor. -/
  getter : Option RemoteObject
  /-- Setter of an accessor. -/
  setter : Option RemoteObject
  /-- Whether it can be redefined. -/
  configurable : Bool
  /-- Whether it is enumerated. -/
  enumerable : Bool
  /-- Whether reading it threw. -/
  wasThrown : Option Bool
  /-- Whether it belongs to the object itself. -/
  isOwn : Option Bool
  /-- The key, if it is a symbol. -/
  symbol : Option RemoteObject

/-- The wire form of a property. -/
def Property.codec : Codec Property :=
  .record
    (.cons (.required "name" .string) <| .cons (.optional "value" RemoteObject.codec) <|
      .cons (.optional "writable" .bool) <| .cons (.optional "get" RemoteObject.codec) <|
      .cons (.optional "set" RemoteObject.codec) <| .cons (.defaulted "configurable" .bool false) <|
      .cons (.defaulted "enumerable" .bool false) <| .cons (.optional "wasThrown" .bool) <|
      .cons (.optional "isOwn" .bool) <| .cons (.optional "symbol" RemoteObject.codec) .nil)
    (fun (name, value, writable, getter, setter, configurable, enumerable, thrown, own, symbol, _) =>
      ⟨name, value, writable, getter, setter, configurable, enumerable, thrown, own, symbol⟩)
    (fun p => (p.name, p.value, p.writable, p.getter, p.setter, p.configurable, p.enumerable,
      p.wasThrown, p.isOwn, p.symbol, ()))

/-- An internal slot of an object. -/
structure InternalProperty where
  /-- Name of the slot. -/
  name : String
  /-- Its value. -/
  value : Option RemoteObject

/-- The wire form of an internal slot. -/
def InternalProperty.codec : Codec InternalProperty :=
  .record
    (.cons (.required "name" .string) <| .cons (.optional "value" RemoteObject.codec) .nil)
    (fun (name, value, _) => ⟨name, value⟩)
    (fun p => (p.name, p.value, ()))

/-- A private member of an object. -/
structure PrivateProperty where
  /-- Name of the member. -/
  name : String
  /-- Value, unless the member is an accessor. -/
  value : Option RemoteObject
  /-- Getter of an accessor. -/
  getter : Option RemoteObject
  /-- Setter of an accessor. -/
  setter : Option RemoteObject

/-- The wire form of a private member. -/
def PrivateProperty.codec : Codec PrivateProperty :=
  .record
    (.cons (.required "name" .string) <| .cons (.optional "value" RemoteObject.codec) <|
      .cons (.optional "get" RemoteObject.codec) <| .cons (.optional "set" RemoteObject.codec) .nil)
    (fun (name, value, getter, setter, _) => ⟨name, value, getter, setter⟩)
    (fun p => (p.name, p.value, p.getter, p.setter, ()))

end Wire

end DebugClient
