import BusCache.Message
import BusCache.Wire.Decode

/-!
# Elements — the cached state of one remote object

An element holds the properties of an object, each with the kind it was last received under, the
calls under way on it, at most one of each kind, and its subscriptions, one for each signal name.
It knows the element it was discovered through and how far it is from the top of the tree. Where it
is registered is its path, which it does not hold itself.
-/

namespace BusCache

/-- What an application passes to be told the outcome of a call, by a number of its choice. -/
structure Completion where
  number : Nat
deriving DecidableEq, Inhabited

structure Slot where
  call : CallId
  completion : Option Completion
deriving DecidableEq, Inhabited

structure Element where
  interface : String
  cache : Cache := []
  pending : Table CallKind Slot := []
  subscriptions : Table String SubscriptionId := []
  /-- The path of the element that this one was discovered through. -/
  parent : Option Path := none
  depth : Nat := 0
  synced : Bool := false
deriving Inhabited

namespace Element

/-! ## Properties -/

def properties (e : Element) : Properties := e.cache.properties

def property (e : Element) (name : String) : Except BusError Value :=
  match Table.get? e.cache name with
  | some p => .ok p.value
  | none => .error (.notFound name)

/-- The kind that a property was last received under. -/
def signature (e : Element) (name : String) : Except BusError Kind :=
  match Table.get? e.cache name with
  | some p => .ok p.kind
  | none => .error (.notFound name)

/-- The kind under which a new value is held: the one it came with; without one, the kind of the
value before as long as that accepts the new value, and else its natural kind. -/
def kindFor (previous : Option Property) (value : Value) (given : Option Kind) : Kind :=
  match given, previous with
  | some k, _ => k
  | none, some p => if p.kind.accepts value then p.kind else value.kind
  | none, none => value.kind

def setProperty (e : Element) (name : String) (value : Value) (given : Option Kind) : Element :=
  { e with
    cache := Table.set e.cache name ⟨value, kindFor (Table.get? e.cache name) value given⟩ }

def removeProperty (e : Element) (name : String) : Element :=
  { e with cache := Table.erase e.cache name }

/-- Takes over the properties of a fetch; those it does not mention stay. -/
def merge (e : Element) (fetched : Cache) : Element :=
  { e with
    cache := fetched.foldl (fun c p => Table.set c p.1 p.2) e.cache
    synced := true }

/-! ## Calls and subscriptions -/

def isPending (e : Element) (kind : CallKind) : Bool := Table.contains e.pending kind

def track (e : Element) (kind : CallKind) (slot : Slot) : Element :=
  { e with pending := Table.set e.pending kind slot }

/-- The slot of a kind, if it holds the given call. -/
def slot? (e : Element) (kind : CallKind) (call : CallId) : Option Slot :=
  (Table.get? e.pending kind).filter fun slot => slot.call = call

def freeSlot (e : Element) (kind : CallKind) : Element :=
  { e with pending := Table.erase e.pending kind }

def hasSubscription (e : Element) (member : String) : Bool :=
  Table.contains e.subscriptions member

def addSubscription (e : Element) (member : String) (id : SubscriptionId) : Element :=
  { e with subscriptions := Table.set e.subscriptions member id }

end Element

end BusCache
