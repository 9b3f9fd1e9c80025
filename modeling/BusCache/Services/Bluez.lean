import BusCache.Services.Handle

/-!
# Bluez — Bluetooth adapters and devices

The manager is the root of the tree, adapters are below it, and devices below the adapter that they
were found by. A discovering adapter reports what it finds by signals.
-/

namespace BusCache.Bluez

def managerInterface : String := "org.bluez.Manager"
def adapterInterface : String := "org.bluez.Adapter"
def deviceInterface : String := "org.bluez.Device"

def deviceFoundMember : String := "DeviceFound"

/-- The configuration of the service: adapters below the manager, devices below adapters. -/
def config : Config :=
  { service := "org.bluez"
    rootPath := "/"
    rootInterface := managerInterface
    protocol := .legacy
    children :=
      [⟨managerInterface, "Adapters", adapterInterface⟩,
       ⟨adapterInterface, "Devices", deviceInterface⟩]
    lifecycle :=
      [⟨managerInterface, "AdapterAdded", .added adapterInterface⟩,
       ⟨managerInterface, "AdapterRemoved", .removed⟩] }

/-! The kinds of calls of the handles below. -/

namespace Calls

def defaultAdapter : CallKind := ⟨"default-adapter"⟩
def startDiscovery : CallKind := ⟨"start-discovery"⟩
def stopDiscovery : CallKind := ⟨"stop-discovery"⟩
def registerAgent : CallKind := ⟨"agent-register"⟩
def unregisterAgent : CallKind := ⟨"agent-unregister"⟩

end Calls

/-! ## The manager -/

structure Manager where
  path : Path
deriving DecidableEq, Inhabited

namespace Manager

def get (s : Session) : Except BusError Manager := do
  return ⟨← s.typedPath s.config.rootPath managerInterface⟩

def adapters (h : Manager) (s : Session) : Except BusError (List Path) :=
  s.propertyAs .objectPaths h.path "Adapters"

/-- Asks for the default adapter; the reply has its path. -/
def defaultAdapter (h : Manager) (completion : Completion) : Attempt Unit :=
  .call h.path Calls.defaultAdapter "DefaultAdapter" [] (some completion)

end Manager

/-! ## Adapters -/

structure Adapter where
  path : Path
deriving DecidableEq, Inhabited

namespace Adapter

def get (s : Session) (path : Path) : Except BusError Adapter := do
  return ⟨← s.typedPath path adapterInterface⟩

def address (h : Adapter) (s : Session) : Except BusError String :=
  s.propertyAs .string h.path "Address"

def name (h : Adapter) (s : Session) : Except BusError String :=
  s.propertyAs .string h.path "Name"

def powered (h : Adapter) (s : Session) : Except BusError Bool :=
  s.propertyAs .bool h.path "Powered"

def setPowered (h : Adapter) (on : Bool) (completion : Option Completion) : Attempt Unit :=
  .setFlag h.path "Powered" on completion

def discoverable (h : Adapter) (s : Session) : Except BusError Bool :=
  s.propertyAs .bool h.path "Discoverable"

def setDiscoverable (h : Adapter) (on : Bool) (completion : Option Completion) : Attempt Unit :=
  .setFlag h.path "Discoverable" on completion

def discovering (h : Adapter) (s : Session) : Except BusError Bool :=
  s.propertyAs .bool h.path "Discovering"

def devices (h : Adapter) (s : Session) : Except BusError (List Path) :=
  s.propertyAs .objectPaths h.path "Devices"

/-- Starts to look for devices, and asks for the signals of those that are found. -/
def startDiscovery (h : Adapter) (completion : Option Completion) : Attempt Unit := do
  .subscribeSignal h.path adapterInterface deviceFoundMember
  .call h.path Calls.startDiscovery "StartDiscovery" [] completion

def stopDiscovery (h : Adapter) (completion : Option Completion) : Attempt Unit :=
  .call h.path Calls.stopDiscovery "StopDiscovery" [] completion

def registerAgent (h : Adapter) (agent : Path) (capability : Option String)
    (completion : Option Completion) : Attempt Unit :=
  .call h.path Calls.registerAgent "RegisterAgent"
    [.objectPath agent, .string (capability.getD "DisplayYesNo")] completion

def unregisterAgent (h : Adapter) (agent : Path) (completion : Option Completion) : Attempt Unit :=
  .call h.path Calls.unregisterAgent "UnregisterAgent" [.objectPath agent] completion

end Adapter

/-! ## Devices -/

structure Device where
  path : Path
deriving DecidableEq, Inhabited

namespace Device

def get (s : Session) (path : Path) : Except BusError Device := do
  return ⟨← s.typedPath path deviceInterface⟩

def adapter? (h : Device) (s : Session) : Option Path :=
  (s.element? h.path).bind Element.parent

def address (h : Device) (s : Session) : Except BusError String :=
  s.propertyAs .string h.path "Address"

def aliasName (h : Device) (s : Session) : Except BusError String :=
  s.propertyAs .string h.path "Alias"

def paired (h : Device) (s : Session) : Except BusError Bool :=
  s.propertyAs .bool h.path "Paired"

def connected (h : Device) (s : Session) : Except BusError Bool :=
  s.propertyAs .bool h.path "Connected"

def trusted (h : Device) (s : Session) : Except BusError Bool :=
  s.propertyAs .bool h.path "Trusted"

def setTrusted (h : Device) (on : Bool) (completion : Option Completion) : Attempt Unit :=
  .setFlag h.path "Trusted" on completion

end Device

/-! ## Found devices -/

/-- A report of a discovering adapter. -/
structure DeviceFound where
  adapter : Path
  address : String
  properties : Properties

namespace DeviceFound

def ofEvent? (e : Event) : Option DeviceFound :=
  match e.signalArgs? deviceFoundMember with
  | some (.string address :: .dict properties :: _) => some ⟨e.path, address, properties⟩
  | _ => none

def read? {α : Type} (d : DeviceFound) (reader : Reader α) (name : String) : Option α :=
  (Table.get? d.properties name).bind reader.read?

def aliasName? (d : DeviceFound) : Option String := d.read? .string "Alias"

def name? (d : DeviceFound) : Option String := d.read? .string "Name"

def signalStrength? (d : DeviceFound) : Option Int16 := d.read? .int16 "RSSI"

def class? (d : DeviceFound) : Option UInt32 := d.read? .uint32 "Class"

def paired? (d : DeviceFound) : Option Bool := d.read? .bool "Paired"

end DeviceFound

end BusCache.Bluez
