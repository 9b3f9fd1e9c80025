import BusCache.Session.Presence

/-!
# Signals — what a delivery of a subscription does

A signal is for what the route of its subscription names: a change of one property or of several,
an object coming or going, or the application. One that has the wrong shape, or that cannot be
decoded as a whole, is dropped.
-/

namespace BusCache

/-- A change of one property: its name and what it has become. -/
def propertyChangeOf : List WireValue → Except BusError (Option (String × Property))
  | [name, value] => do
      let name ← name.decode
      let property ← value.decodeTyped
      match name with
      | .string name => return some (name, property)
      | _ => return none
  | _ => .ok none

structure PropertyChanges where
  interface : String
  changed : Cache
  invalidated : List String

/-- Reads changes of several properties; the list of invalidated ones may be missing. -/
def propertyChangesOf : List WireValue → Except BusError (Option PropertyChanges)
  | interface :: changed :: rest => do
      let interface ← interface.decode
      let changed ← changed.decodeProperties
      let invalidated ← match rest with
        | wire :: _ => wire.decode
        | [] => pure (.array [])
      match interface, invalidated with
      | .string interface, .array names =>
          return some { interface, changed, invalidated := names.filterMap Value.asString? }
      | _, _ => return none
  | _ => .ok none

namespace Run

/-- Drops a property that lost its value, and announces that. -/
def invalidate (path : Path) (name : String) (r : Run) : Run :=
  match (r.session.element? path).bind fun e => Table.get? e.cache name with
  | none => r
  | some _ =>
      (r.update fun s => s.modifyElement path fun e => e.removeProperty name)
        |>.emit .elementUpdated path (.changed name none)

/-- Takes over changes of several properties if they are of the element's interface: first the new
values, in the order of the session's listing, then the names without one. -/
def applyChanges (path : Path) (changes : PropertyChanges) (r : Run) : Run :=
  match r.session.element? path with
  | none => r
  | some e =>
      if e.interface = changes.interface then
        let r := (r.session.listing.entries changes.changed).foldl
          (fun r p => (Attempt.change path p.1 p.2.value (some p.2.kind) r).2) r
        changes.invalidated.foldl (fun r name => r.invalidate path name) r
      else r

def applyLifecycle (action : LifecycleAction) (target : Path) (r : Run) : Run :=
  match action with
  | .added interface =>
      let root := r.session.config.rootPath
      if r.session.config.maxDepth ≠ 0 ∧ r.session.isRegistered root then
        r.adopt target interface root 1
      else r
  | .removed => (r.remove target).2

def handleSignal (subscription : SubscriptionId) (member : String) (args : List WireValue)
    (r : Run) : Run :=
  match Table.get? r.session.signalRoutes subscription with
  | none | some .nameOwner => r
  | some (.propertyChanged path) =>
      match propertyChangeOf args with
      | .ok (some (name, p)) => (Attempt.change path name p.value (some p.kind) r).2
      | _ => r
  | some (.propertiesChanged path) =>
      match propertyChangesOf args with
      | .ok (some changes) => r.applyChanges path changes
      | _ => r
  | some (.lifecycle action) =>
      match WireValue.decodeAll args with
      | .ok (.objectPath target :: _) => r.applyLifecycle action target
      | _ => r
  | some (.forward path) =>
      if r.session.isRegistered path then
        match WireValue.decodeAll args with
        | .ok args => r.emit .elementSignal path (.signal member args)
        | .error _ => r
      else r

def handleOwnerChanged (subscription : SubscriptionId) (name oldOwner newOwner : String)
    (r : Run) : Run :=
  if Table.get? r.session.signalRoutes subscription = some .nameOwner
      ∧ name = r.session.config.service then
    r.ownerChanged oldOwner newOwner
  else r

end Run

end BusCache
