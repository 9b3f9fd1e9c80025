import BusCache.ObjectPath

/-!
# Configurations — which service is followed, and how

A configuration names a service and its root object, the protocol by which its properties travel,
the properties that list child objects, the signals of the root that announce objects coming and
going, and how deep the tree of objects is followed.
-/

namespace BusCache

inductive Bus where
  | system | session
deriving DecidableEq, Inhabited

def Bus.name : Bus → String
  | system => "system"
  | session => "session"

/-- How properties are fetched, written and announced. -/
inductive PropertyProtocol where
  /-- By methods and a signal of the object's own interface: `GetProperties`, `SetProperty` and
  `PropertyChanged(s, v)`. -/
  | legacy
  /-- By `GetAll`, `Set` and the signal `PropertiesChanged` of the interface for properties. -/
  | freedesktop
deriving DecidableEq, Inhabited

/-- A property that names child objects: each path that it lists on an object of the parent
interface becomes an element of the child interface. -/
structure ChildLink where
  parentInterface : String
  property : String
  childInterface : String
deriving DecidableEq, Inhabited

/-- What a lifecycle signal does with the path in its first argument. -/
inductive LifecycleAction where
  | added (interface : String)
  | removed
deriving DecidableEq, Inhabited

/-- A signal of the root object that announces an object coming or going. -/
structure LifecycleSignal where
  interface : String
  member : String
  action : LifecycleAction
deriving DecidableEq, Inhabited

/-- The service that a session follows. -/
structure Config where
  /-- The well-known name of the service. -/
  service : String
  rootPath : Path
  rootInterface : String
  protocol : PropertyProtocol
  children : List ChildLink := []
  lifecycle : List LifecycleSignal := []
  /-- The deepest level of the tree that is followed, where the root is level 0. -/
  maxDepth : UInt8 := 3
deriving DecidableEq, Inhabited

namespace Config

def withChild (c : Config) (link : ChildLink) : Config :=
  { c with children := c.children ++ [link] }

def withLifecycle (c : Config) (signal : LifecycleSignal) : Config :=
  { c with lifecycle := c.lifecycle ++ [signal] }

def withMaxDepth (c : Config) (depth : UInt8) : Config := { c with maxDepth := depth }

def withProtocol (c : Config) (protocol : PropertyProtocol) : Config :=
  { c with protocol := protocol }

/-- The links that apply to objects of an interface, in the order they were configured. -/
def childrenOf (c : Config) (interface : String) : List ChildLink :=
  c.children.filter fun link => link.parentInterface = interface

end Config

end BusCache
