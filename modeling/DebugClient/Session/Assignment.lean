import DebugClient.Session.Listings
/-!
# Assignment — writing and deleting properties

A property is written in two steps: an expression is evaluated, and its
result is assigned to the property. Properties of objects are assigned by
a call; variables of a scope by the debugger, and then in the listing the
scope keeps as well. The result of the evaluation is released at the end.
-/

namespace DebugClient

/-- An argument that is a text. -/
def Wire.CallArgument.ofString (s : String) : Wire.CallArgument := { value := some (.str s) }

/-- What a call that assigns or deletes says went wrong. -/
def Wire.EvaluateReply.complaint? (r : Wire.EvaluateReply) : Option String :=
  if r.exceptionDetails.isSome then some (r.result.description.getD "") else none

/-- The text of a thrown value: a text itself, and otherwise the
description, if there is one. -/
def Wire.RemoteObject.thrownText? (o : Wire.RemoteObject) : Option String :=
  if o.type = .string then o.value.bind Json.str? else o.description

namespace Handle

/-- Source of the function that assigns. -/
def assigning : String := "function(a, b) \x7b this[a] = b; \x7d"

/-- Source of the function that deletes. -/
def deleting : String := "function(a) \x7b delete this[a]; return !(a in this); \x7d"

/-- Assigns a value to a property of an object. Gives the error, if there
is one. -/
def put (h : Handle) (name : String) (value : Wire.RemoteObject) : Work (Option String) := do
  match ← Work.call
      (.callFunctionOn
        { declaration := assigning, objectId := h.objectId,
          arguments := [.ofString name, Primitive.argumentOfRemote value] })
      Wire.Reply.evaluation with
  | .error e => return some e.message
  | .ok r => return r.complaint?

/-- Deletes a property of an object. Gives the error, if there is one. -/
def delete (h : Handle) (name : String) : Work (Option String) := do
  match ← Work.call
      (.callFunctionOn
        { declaration := deleting, objectId := h.objectId, arguments := [.ofString name] })
      Wire.Reply.evaluation with
  | .error e => return some e.message
  | .ok r =>
    match r.complaint?, r.result.value with
    | some complaint, _ => return some complaint
    | none, some (.bool true) => return none
    | none, _ => return some "Failed to delete property."

end Handle

namespace Session

/-- Writes a variable of a scope of a frame. Gives the error, if there is
one. -/
def setVariable (scope : Nat) (name : String) (value : Wire.CallArgument) (frame : CallFrameId) :
    Work (Option String) := do
  match ← Work.command (.setVariableValue scope name value frame) with
  | .error e => return some e.message
  | .ok _ => return none

end Session

/-- Properties with a new value for those of a name. -/
def Property.patch (name : String) (value : Wire.RemoteObject) :
    List Property → Fresh (List Property)
  | [] => return []
  | p :: rest => do
    let p ←
      if p.name = name then do pure { p with value := some (← Value.ofRemote value) } else pure p
    return p :: (← patch name value rest)

namespace Session

/-- Changes a variable in what its scope has listed. -/
def patchListing (key : Key) (name : String) (value : Wire.RemoteObject) (s : Session) : Session :=
  match s.scopeListing key with
  | none => s
  | some properties =>
    let (patched, s) := s.mint (Property.patch name value properties)
    s.keepListing key patched

end Session

/-- Writes a variable of a scope of a frame, and in what the scope has
listed. Gives the error, if there is one. -/
def ScopeRef.putIn (ref : ScopeRef) (frame : CallFrameId) (h : Handle) (name : String)
    (value : Wire.RemoteObject) : Work (Option String) := do
  match ← Session.setVariable ref.number name (Primitive.argumentOfRemote value) frame with
  | some error => return some error
  | none =>
    Flow.modify (Session.patchListing h.key name value)
    return none

/-- Writes a variable of a scope, which takes a frame and a session that
exists. Gives the error, if there is one. -/
def ScopeRef.put (ref : ScopeRef) (h : Handle) (name : String) (value : Wire.RemoteObject) :
    Work (Option String) :=
  match ref.callFrameId with
  | none => return some "Scope is not bound to a call frame."
  | some frame => do
    if ← Flow.look (·.live) then Session.holding (ref.putIn frame h name value)
    else return some "Debugger is not available."

namespace Value

/-- Assigns the result of an evaluation. -/
def put (v : Value) (h : Handle) (name : String) (value : Wire.RemoteObject) :
    Work (Option String) :=
  match v with
  | .scope _ ref => ref.put h name value
  | _ => h.put name value

/-- Evaluates an expression and assigns the result to a property. Gives
the error, if there is one. -/
def assign (v : Value) (name expression : String) : Work (Option String) :=
  match v.handle? with
  | none => return some "Can't set a property of non-object."
  | some h => do
    match ← Work.call (.evaluate { expression, silent := true }) Wire.Reply.evaluation with
    | .error e => return some e.message
    | .ok r =>
      if r.exceptionDetails.isSome then return r.result.thrownText?
      else
        let error ← v.put h name r.result
        match r.result.objectId with
        | some id => Work.send (.releaseObject id)
        | none => pure ()
        return error

/-- Deletes a property. Gives the error, if there is one. -/
def delete (v : Value) (name : String) : Work (Option String) :=
  match v.handle? with
  | some h => h.delete name
  | none => return some "Can't delete a property of non-object."

end Value

end DebugClient
