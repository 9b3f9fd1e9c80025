import BusCache.Config
import BusCache.Element
import BusCache.Event
import BusCache.Ownership
import BusCache.Reader

/-!
# Sessions — the state of the cache of one service

A session holds the elements of a service by their paths, what it knows about the service's owner,
and two routing tables that say what a reply to a call and a delivery of a subscription are for.

Two things about a session are left open, so that what holds of it holds however they are settled:
how the transport numbers what it is asked for, as long as no number is given out twice, and in
which order tables without an order of their own are gone through, which can change between any two
operations.
-/

namespace BusCache

/-- Where a reply goes. -/
inductive CallPurpose where
  /-- A fetch of all properties; the reply is merged into the cache. -/
  | sync
  /-- Any other call; the reply is for the completion alone. -/
  | call
deriving DecidableEq, Inhabited

inductive CallRoute where
  | element (path : Path) (kind : CallKind) (purpose : CallPurpose)
  /-- The question who owns the service's name. -/
  | nameOwner
deriving DecidableEq, Inhabited

inductive SignalRoute where
  | propertyChanged (path : Path)
  | propertiesChanged (path : Path)
  | lifecycle (action : LifecycleAction)
  /-- A signal of an element that the application asked for. -/
  | forward (path : Path)
  | nameOwner
deriving DecidableEq, Inhabited

/-- How a transport numbers the calls and subscriptions it is asked for: each request has a number
that no other request has. -/
structure Numbering where
  call : Nat → CallId
  subscription : Nat → SubscriptionId
  call_injective : ∀ {m n : Nat}, call m = call n → m = n
  subscription_injective : ∀ {m n : Nat}, subscription m = subscription n → m = n

namespace Numbering

/-- One counter for all requests, from 1 on. -/
def counting : Numbering where
  call n := ⟨n + 1⟩
  subscription n := ⟨n + 1⟩
  call_injective h := by
    have := congrArg CallId.number h
    simp only at this
    omega
  subscription_injective h := by
    have := congrArg SubscriptionId.number h
    simp only at this
    omega

end Numbering

/-- What is gone through in no order of its own. -/
inductive Listed where
  /-- The elements of a session, by their paths. -/
  | elements
  /-- What a signal says that properties have become, by their names. -/
  | changes
  /-- The calls under way on the element at a path, by their kinds. -/
  | calls (path : Path)
  /-- The subscriptions of the element at a path, by the names of their signals. -/
  | subscriptions (path : Path)
deriving DecidableEq

/-- An order in which the names in each of the tables are gone through. -/
structure Listing where
  order : Listed → List String → List String
  perm : ∀ (listed : Listed) (names : List String), (order listed names).Perm names

namespace Listing

def ascending : Listing := ⟨fun _ => id, fun _ _ => .refl _⟩

def paths (l : Listing) (registry : Table Path Element) : List Path :=
  l.order .elements (Table.keys registry)

def entries (l : Listing) (changed : Cache) : List (String × Property) :=
  (l.order .changes (Table.keys changed)).filterMap fun name =>
    (Table.get? changed name).map fun p => (name, p)

/-- The calls under way on an element that is registered at a path. -/
def slots (l : Listing) (path : Path) (e : Element) : List Slot :=
  Table.getAll e.pending <|
    (l.order (.calls path) ((Table.keys e.pending).map CallKind.name)).map CallKind.mk

def subscriptions (l : Listing) (path : Path) (e : Element) : List SubscriptionId :=
  Table.getAll e.subscriptions (l.order (.subscriptions path) (Table.keys e.subscriptions))

end Listing

/-- What is told events of one kind, by a number of the application's choice. -/
structure Handler where
  number : Nat
deriving DecidableEq, Inhabited

structure Session where
  config : Config
  numbering : Numbering
  listing : Listing
  /-- How many requests the transport was asked for that got a number. -/
  issued : Nat := 0
  ownership : Ownership := {}
  registry : Table Path Element := []
  handlers : EventKind → Option Handler := fun _ => none
  callRoutes : Table CallId CallRoute := []
  signalRoutes : Table SubscriptionId SignalRoute := []

namespace Session

def new (config : Config) (numbering : Numbering) (listing : Listing) : Session :=
  { config, numbering, listing }

/-! ## Reading the state -/

def state (s : Session) : ServiceState := s.ownership.state

def users (s : Session) : Nat := s.ownership.users

def element? (s : Session) (path : Path) : Option Element := Table.get? s.registry path

def isRegistered (s : Session) (path : Path) : Bool := Table.contains s.registry path

/-- The element at a path, without which nothing can be done there. -/
def element (s : Session) (path : Path) : Except BusError Element :=
  match s.element? path with
  | some e => .ok e
  | none => .error (.staleReference path)

def paths (s : Session) : List Path := s.listing.paths s.registry

/-- The paths of the elements discovered through the one at a path. -/
def childrenOf (s : Session) (path : Path) : List Path :=
  s.paths.filter fun p => (s.element? p).any fun e => e.parent = some path

def property (s : Session) (path : Path) (name : String) : Except BusError Value := do
  (← s.element path).property name

def propertyAs {α : Type} (s : Session) (reader : Reader α) (path : Path) (name : String) :
    Except BusError α := do
  reader.read (← s.property path name)

def isPending (s : Session) (path : Path) (kind : CallKind) : Bool :=
  (s.element? path).any fun e => e.isPending kind

/-- Nothing is asked of a service that nobody owns. -/
def ensurePresent (s : Session) : Except BusError Unit :=
  if s.state.isPresent then .ok () else .error (.staleReference s.config.service)

/-- A call is admitted if none of its kind is under way on the element. -/
def ensureAdmissible (path : Path) (e : Element) (kind : CallKind) : Except BusError Unit :=
  if e.isPending kind then .error (.alreadyPending path kind) else .ok ()

/-- The name that calls are sent to: the current owner's, if it is known. -/
def destination (s : Session) : String := s.state.owner?.getD s.config.service

def modifyElement (s : Session) (path : Path) (f : Element → Element) : Session :=
  { s with registry := Table.modify s.registry path f }

end Session

def ServiceState.describe : ServiceState → String
  | absent => "Absent"
  | present owner => "Present \x7b owner: " ++ Text.quoted owner ++ " \x7d"

def Session.describe (s : Session) : String :=
  "Session \x7b service: " ++ Text.quoted s.config.service
    ++ ", state: " ++ s.state.describe
    ++ ", refcount: " ++ toString s.users
    ++ ", elements: " ++ toString s.registry.length ++ " \x7d"

end BusCache
