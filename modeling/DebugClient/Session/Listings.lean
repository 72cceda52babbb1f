import DebugClient.Session.Objects
/-!
# Listings — opening a value

The properties of an object are listed by the backend. What a scope has
listed is kept under the key of its handle, and is what the scope shows
from then on; a variable that is written is changed there too. A listing
that threw is reported like any exception and counts as failed.
-/

namespace DebugClient

/-- Lists properties of an object. -/
def Handle.list (h : Handle) (own accessorsOnly nonIndexedOnly preview : Bool) : Work Listing := do
  match ← Work.call
      (.getProperties
        { objectId := h.objectId, ownProperties := own, accessorsOnly, nonIndexedOnly,
          generatePreview := preview })
      Wire.Reply.properties with
  | .error _ => return .failed
  | .ok r =>
    match r.exceptionDetails with
    | some details =>
      Flow.modify (·.tell (.exceptionThrown .onReceipt details))
      return .failed
    | none => Work.mint (Listing.ofReply r)

namespace Session

/-- What a scope has listed. -/
def scopeListing (key : Key) (s : Session) : Option (List Property) := s.scopeListings.lookup key

/-- Keeps what a scope has listed. -/
def keepListing (key : Key) (properties : List Property) (s : Session) : Session :=
  { s with scopeListings := (key, properties) :: s.scopeListings.filter (·.1 != key) }

end Session

/-- The properties a scope shows. Outside of a pause they cannot be
written. -/
def ScopeRef.shown (ref : ScopeRef) (properties : List Property) : List Property :=
  if ref.callFrameId.isNone then properties.map fun p => { p with writable := false }
  else properties

/-- Lists the variables of a scope, the first time on the backend. -/
def ScopeRef.list (ref : ScopeRef) (h : Handle) (own : Bool) : Work Listing := do
  match ← Flow.look (Session.scopeListing h.key) with
  | some properties => return { properties := some properties }
  | none =>
    let listing ← h.list own false false true
    match listing.properties with
    | none => return listing
    | some properties =>
      let shown := ref.shown properties
      Flow.modify (Session.keepListing h.key shown)
      return { listing with properties := some shown }

namespace Value

/-- Lists properties of a value. -/
def list (v : Value) (own accessorsOnly nonIndexedOnly preview : Bool) : Work Listing :=
  match v with
  | .handle h => h.list own accessorsOnly nonIndexedOnly preview
  | .scope h ref =>
    if accessorsOnly then return { properties := some [], internal := some [] }
    else ref.list h own
  | .primitive _ => return .failed
  | .json j => return .ofJson j accessorsOnly nonIndexedOnly

/-- Lists the own properties of a value. -/
def listOwn (v : Value) (preview nonIndexedOnly : Bool) : Work Listing :=
  v.list true false nonIndexedOnly preview

/-- Lists the properties of a value and of its prototype chain. -/
def listAll (v : Value) (accessorsOnly preview nonIndexedOnly : Bool) : Work Listing :=
  v.list false accessorsOnly nonIndexedOnly preview

/-- Lists the own properties of a value with the accessors it inherits. -/
def listInherited (v : Value) (preview nonIndexedOnly : Bool) : Work Listing := do
  let (accessors, own) ←
    Flow.zip (v.listAll true preview nonIndexedOnly) (v.listOwn preview nonIndexedOnly)
  return .inherited accessors own

end Value

end DebugClient
