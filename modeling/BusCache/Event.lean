import BusCache.Value
import BusCache.ObjectPath

/-!
# Events — what an application is told

An event has a kind, the path it concerns and a payload. Service events concern the root element.
-/

namespace BusCache

inductive EventKind where
  | serviceUp | serviceDown | elementAdded | elementRemoved | elementUpdated | elementSignal
deriving DecidableEq, Inhabited

namespace EventKind

def name : EventKind → String
  | serviceUp => "service-up"
  | serviceDown => "service-down"
  | elementAdded => "element-added"
  | elementRemoved => "element-removed"
  | elementUpdated => "element-updated"
  | elementSignal => "element-signal"

def all : List EventKind :=
  [serviceUp, serviceDown, elementAdded, elementRemoved, elementUpdated, elementSignal]

def ofName? (name : String) : Option EventKind := all.find? fun k => k.name = name

end EventKind

inductive Payload where
  | none
  | owner (name : String)
  /-- All properties after a fetch, or the last ones of a removed element. -/
  | snapshot (properties : Properties)
  /-- One property changed, or was dropped if it has no value. -/
  | changed (key : String) (value : Option Value)
  | signal (member : String) (args : List Value)
deriving Inhabited

structure Event where
  kind : EventKind
  path : Path
  payload : Payload
deriving Inhabited

namespace Event

def changedKey? (e : Event) : Option String :=
  match e.payload with
  | .changed key _ => some key
  | _ => Option.none

def signalArgs? (e : Event) (member : String) : Option (List Value) :=
  match e.kind, e.payload with
  | .elementSignal, .signal m args => if m = member then some args else Option.none
  | _, _ => Option.none

end Event

end BusCache
