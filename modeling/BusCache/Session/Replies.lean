import BusCache.Session.Presence

/-!
# Replies — what an answer to a call does

A reply is for the call that its route names, and is heard once. A fetched set of properties is
merged into the cache if all of the reply can be decoded, announced, and followed to children. Any
other reply is for the completion of its call. The answer to the question who owns the service's
name brings the service up.
-/

namespace BusCache

def fetchedOf (result : Except BusError (List WireValue)) :
    Except BusError (Cache × List Value) := do
  let wires ← result
  let fetched ← WireValue.propertiesOfReply wires
  let args ← WireValue.decodeAll wires
  return (fetched, args)

namespace Run

/-- Takes over the properties of a fetch, announces them and follows them to children. -/
def mergeFetched (path : Path) (fetched : Cache) (r : Run) : Run :=
  match r.session.element? path with
  | none => r
  | some e =>
      let kind := if e.synced then EventKind.elementUpdated else .elementAdded
      let r := r.update fun s => s.modifyElement path fun e => e.merge fetched
      let r := r.emit kind path (.snapshot (e.merge fetched).properties)
      r.cascade path none

def finishSync (path : Path) (result : Except BusError (List WireValue))
    (completion : Option Completion) (r : Run) : Run :=
  match fetchedOf result with
  | .ok (fetched, args) => (r.mergeFetched path fetched).complete completion (.ok args)
  | .error e => r.complete completion (.error e)

def finishQuery (call : CallId) (result : Except BusError (List WireValue)) (r : Run) : Run :=
  if r.session.ownership.query = some call then
    let r := r.update fun s => { s with ownership := { s.ownership with query := none } }
    match result >>= WireValue.decodeAll with
    | .ok (.string owner :: _) => if owner.isEmpty then r else r.ownerChanged "" owner
    | _ => r
  else r

def finishCall (path : Path) (kind : CallKind) (purpose : CallPurpose) (call : CallId)
    (result : Except BusError (List WireValue)) (r : Run) : Run :=
  match (r.session.element? path).bind fun e => e.slot? kind call with
  | none => r
  | some slot =>
      let r := r.update fun s => s.modifyElement path fun e => e.freeSlot kind
      match purpose with
      | .sync => r.finishSync path result slot.completion
      | .call => r.complete slot.completion (result >>= WireValue.decodeAll)

def handleReply (call : CallId) (result : Except BusError (List WireValue)) (r : Run) : Run :=
  match Table.get? r.session.callRoutes call with
  | none => r
  | some route =>
      let r := r.update fun s => { s with callRoutes := Table.erase s.callRoutes call }
      match route with
      | .nameOwner => r.finishQuery call result
      | .element path kind purpose => r.finishCall path kind purpose call result

end Run

end BusCache
