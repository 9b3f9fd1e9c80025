import BusCache.Session.State

/-!
# Runs — a session and what it has done

Everything a session does shows in effects: requests to the transport, events, and completions that
are told an outcome. A run is a session together with its effects so far, each with the session as
it was at that instant. Operations turn runs into runs. An operation that can fail is an attempt:
it gives an error or an answer, and in either case the run as it left it.

This module has the small steps that all operations are made of; each of them either asks the
transport for one thing and files the answer, or changes one part of the session.
-/

namespace BusCache

inductive Effect where
  | watch (id : SubscriptionId) (name : String)
  | query (id : CallId) (name : String)
  | call (id : CallId) (call : MethodCall)
  | subscribe (id : SubscriptionId) (rule : SignalRule)
  | cancel (id : CallId)
  | unsubscribe (id : SubscriptionId)
  /-- Emits an event, which a handler is told if one is installed for its kind. -/
  | event (event : Event) (handler : Option Handler)
  | complete (completion : Completion) (outcome : Except BusError (List Value))

/-- An effect and the session at that instant. -/
structure Moment where
  effect : Effect
  session : Session

/-- A session and what it has done so far. -/
structure Run where
  session : Session
  trace : List Moment := []

namespace Run

/-! ## Steps -/

def update (r : Run) (f : Session → Session) : Run := { r with session := f r.session }

def record (r : Run) (effect : Effect) : Run :=
  { r with trace := r.trace ++ [⟨effect, r.session⟩] }

def recordAll (r : Run) (effects : List Effect) : Run := effects.foldl record r

def emit (r : Run) (kind : EventKind) (path : Path) (payload : Payload) : Run :=
  r.record (.event ⟨kind, path, payload⟩ (r.session.handlers kind))

def complete (r : Run) (completion : Option Completion)
    (outcome : Except BusError (List Value)) : Run :=
  match completion with
  | some c => r.record (.complete c outcome)
  | none => r

def nextCall (r : Run) : CallId := r.session.numbering.call r.session.issued

def nextSubscription (r : Run) : SubscriptionId :=
  r.session.numbering.subscription r.session.issued

/-- Sends a call for an element and takes it into the slot of its kind. -/
def sendCall (r : Run) (path : Path) (kind : CallKind) (purpose : CallPurpose)
    (completion : Option Completion) (call : MethodCall) : Run :=
  let id := r.nextCall
  (r.record (.call id call)).update fun s =>
    { s with
      issued := s.issued + 1
      callRoutes := Table.set s.callRoutes id (.element path kind purpose)
      registry := Table.modify s.registry path fun e => e.track kind ⟨id, completion⟩ }

/-- Subscribes to a signal for an element and files the subscription under the signal's name. -/
def openSubscription (r : Run) (path : Path) (rule : SignalRule) (route : SignalRoute) : Run :=
  let id := r.nextSubscription
  (r.record (.subscribe id rule)).update fun s =>
    { s with
      issued := s.issued + 1
      signalRoutes := Table.set s.signalRoutes id route
      registry := Table.modify s.registry path fun e => e.addSubscription rule.member id }

def openWatch (r : Run) : Run :=
  let id := r.nextSubscription
  (r.record (.watch id r.session.config.service)).update fun s =>
    { s with
      issued := s.issued + 1
      signalRoutes := Table.set s.signalRoutes id .nameOwner
      ownership := { s.ownership with watch := some id } }

def openQuery (r : Run) : Run :=
  let id := r.nextCall
  (r.record (.query id r.session.config.service)).update fun s =>
    { s with
      issued := s.issued + 1
      callRoutes := Table.set s.callRoutes id .nameOwner
      ownership := { s.ownership with query := some id } }

def closeWatch (r : Run) : Run :=
  match r.session.ownership.watch with
  | none => r
  | some id =>
      (r.update fun s =>
        { s with
          signalRoutes := Table.erase s.signalRoutes id
          ownership := { s.ownership with watch := none } }).record (.unsubscribe id)

def closeQuery (r : Run) : Run :=
  match r.session.ownership.query with
  | none => r
  | some id =>
      (r.update fun s =>
        { s with
          callRoutes := Table.erase s.callRoutes id
          ownership := { s.ownership with query := none } }).record (.cancel id)

def register (r : Run) (path : Path) (e : Element) : Run :=
  r.update fun s => { s with registry := Table.set s.registry path e }

/-- Takes an element that nothing depends on out of the registry: gives up its calls and
subscriptions with their routes, in the order of the session's listing, then emits the event of its
removal with its last properties, then tells the completions of its calls that they are canceled. -/
def releaseElement (r : Run) (path : Path) : Run :=
  match r.session.element? path with
  | none => r
  | some e =>
      let slots := r.session.listing.slots path e
      let calls := slots.map Slot.call
      let subscriptions := r.session.listing.subscriptions path e
      let r := r.update fun s => { s with registry := Table.erase s.registry path }
      let r := r.recordAll (calls.map .cancel)
      let r := r.recordAll (subscriptions.map .unsubscribe)
      let r := r.update fun s =>
        { s with
          callRoutes := Table.eraseAll s.callRoutes calls
          signalRoutes := Table.eraseAll s.signalRoutes subscriptions }
      let r := r.emit .elementRemoved path (.snapshot e.properties)
      r.recordAll ((slots.filterMap Slot.completion).map fun c => .complete c (.error .canceled))

def setState (r : Run) (state : ServiceState) : Run :=
  r.update fun s => { s with ownership := { s.ownership with state } }

def setUsers (r : Run) (users : Nat) : Run :=
  r.update fun s => { s with ownership := { s.ownership with users } }

end Run

/-! ## Attempts -/

/-- An operation that can fail: an error or an answer, and the run as it was left. -/
def Attempt (α : Type) : Type := Run → Except BusError α × Run

namespace Attempt

variable {α β : Type}

/-- Goes on with the answer, and stops at an error. -/
def andThen (a : Attempt α) (f : α → Attempt β) : Attempt β := fun r =>
  match a r with
  | (.ok x, r') => f x r'
  | (.error e, r') => (.error e, r')

instance : Monad Attempt where
  pure x := fun r => (.ok x, r)
  bind := andThen

/-- Asks something of the session and changes nothing. -/
def check (f : Session → Except BusError α) : Attempt α := fun r => (f r.session, r)

def perform (f : Run → Run) : Attempt Unit := fun r => (.ok (), f r)

@[simp] theorem pure_apply (x : α) (r : Run) : (pure x : Attempt α) r = (.ok x, r) := rfl

theorem bind_apply (a : Attempt α) (f : α → Attempt β) (r : Run) :
    (a >>= f) r =
      match a r with
      | (.ok x, r') => f x r'
      | (.error e, r') => (.error e, r') := rfl

@[simp] theorem check_apply (f : Session → Except BusError α) (r : Run) :
    check f r = (f r.session, r) := rfl

@[simp] theorem perform_apply (f : Run → Run) (r : Run) : perform f r = (.ok (), f r) := rfl

end Attempt

end BusCache
