import BusCache.Config
import BusCache.Message

/-!
# Property protocols — the messages that carry properties

Both protocols fetch all properties by a call, write one by another, and announce changes by a
signal. The legacy protocol has these on the interface of the object itself. The freedesktop
protocol has them on an interface of their own, and names the object's interface in the arguments.
-/

namespace BusCache

/-- The interface that all objects have their properties on in the freedesktop protocol. -/
def propertiesInterface : String := "org.freedesktop.DBus.Properties"

namespace PropertyProtocol

def fetch (p : PropertyProtocol) (destination : String) (path : Path) (interface : String) :
    MethodCall :=
  match p with
  | legacy => { destination, path, interface, method := "GetProperties" }
  | freedesktop =>
      { destination, path
        interface := propertiesInterface
        method := "GetAll"
        args := [.string interface] }

def write (p : PropertyProtocol) (destination : String) (path : Path) (interface name : String)
    (value : Value) (kind : Kind) : MethodCall :=
  match p with
  | legacy =>
      { destination, path, interface
        method := "SetProperty"
        args := [.string name, .variant value kind] }
  | freedesktop =>
      { destination, path
        interface := propertiesInterface
        method := "Set"
        args := [.string interface, .string name, .variant value kind] }

def changes (p : PropertyProtocol) (sender : String) (path : Path) (interface : String) :
    SignalRule :=
  match p with
  | legacy => { sender, path, interface, member := "PropertyChanged" }
  | freedesktop =>
      { sender, path, interface := propertiesInterface, member := "PropertiesChanged" }

end PropertyProtocol

end BusCache
