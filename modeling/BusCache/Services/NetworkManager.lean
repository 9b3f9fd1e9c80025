import BusCache.PropertyProtocol
import BusCache.Services.Handle

/-!
# Network Manager — devices, access points and saved connections

Devices and active connections are below the manager. Access points and saved connections are
registered on demand. The properties of a device that depend on what it is, wired or wireless, are
fetched by a call and read from its reply.
-/

namespace BusCache.NetworkManager

def managerInterface : String := "org.freedesktop.NetworkManager"
def deviceInterface : String := "org.freedesktop.NetworkManager.Device"
def wirelessInterface : String := "org.freedesktop.NetworkManager.Device.Wireless"
def activeConnectionInterface : String := "org.freedesktop.NetworkManager.Connection.Active"
def accessPointInterface : String := "org.freedesktop.NetworkManager.AccessPoint"
def settingsInterface : String := "org.freedesktop.NetworkManager.Settings.Connection"

/-- The signal of a changed state, of the manager as of devices. -/
def stateChangedMember : String := "StateChanged"
def accessPointAddedMember : String := "AccessPointAdded"
def accessPointRemovedMember : String := "AccessPointRemoved"

/-- The configuration of the service: devices and active connections below the manager. -/
def config : Config :=
  { service := "org.freedesktop.NetworkManager"
    rootPath := "/org/freedesktop/NetworkManager"
    rootInterface := managerInterface
    protocol := .freedesktop
    children :=
      [⟨managerInterface, "Devices", deviceInterface⟩,
       ⟨managerInterface, "ActiveConnections", activeConnectionInterface⟩]
    lifecycle :=
      [⟨managerInterface, "DeviceAdded", .added deviceInterface⟩,
       ⟨managerInterface, "DeviceRemoved", .removed⟩] }

/-! The kinds of calls of the handles below. -/

namespace Calls

def getAccessPoints : CallKind := ⟨"get-access-points"⟩
def getDetails : CallKind := ⟨"get-details"⟩
def getSettings : CallKind := ⟨"get-settings"⟩
def getSecrets : CallKind := ⟨"get-secrets"⟩

end Calls

/-- The state of a device that is connected. -/
def activatedState : UInt32 := 100

/-- The type of a device that is wireless. -/
def wirelessType : UInt32 := 2

/-! ## Capabilities -/

/-- A set of flags; each flag is one bit. -/
abbrev Flags := List (String × UInt32)

namespace Flags

def mask (flags : Flags) : UInt32 := flags.foldl (fun bits flag => bits ||| flag.2) 0

def names (flags : Flags) (bits : UInt32) : List String :=
  (flags.filter fun flag => bits &&& flag.2 != 0).map Prod.fst

end Flags

def deviceFlags : Flags :=
  [("NM_SUPPORTED", 0x1), ("CARRIER_DETECT", 0x2), ("IS_SOFTWARE", 0x4), ("SRIOV", 0x8)]

def wirelessFlags : Flags :=
  [("CIPHER_WEP40", 0x1), ("CIPHER_WEP104", 0x2), ("CIPHER_TKIP", 0x4), ("CIPHER_CCMP", 0x8),
   ("WPA", 0x10), ("RSN", 0x20), ("AP", 0x40), ("ADHOC", 0x80), ("FREQ_VALID", 0x100),
   ("FREQ_2GHZ", 0x200), ("FREQ_5GHZ", 0x400)]

/-- Capabilities: the bits of known flags. -/
structure Capabilities where
  flags : Flags
  bits : UInt32

namespace Capabilities

/-- Takes over the bits that have a flag. -/
def ofBits (flags : Flags) (bits : UInt32) : Capabilities := ⟨flags, bits &&& flags.mask⟩

def names (c : Capabilities) : List String := c.flags.names c.bits

end Capabilities

/-! ## The manager -/

structure Manager where
  path : Path
deriving DecidableEq, Inhabited

namespace Manager

def get (s : Session) : Except BusError Manager := do
  return ⟨← s.typedPath s.config.rootPath managerInterface⟩

def wirelessEnabled (h : Manager) (s : Session) : Except BusError Bool :=
  s.propertyAs .bool h.path "WirelessEnabled"

def setWirelessEnabled (h : Manager) (on : Bool) (completion : Option Completion) :
    Attempt Unit :=
  .setFlag h.path "WirelessEnabled" on completion

/-- The state of the radio's switch. -/
def wirelessHardwareEnabled (h : Manager) (s : Session) : Except BusError Bool :=
  s.propertyAs .bool h.path "WirelessHardwareEnabled"

def state (h : Manager) (s : Session) : Except BusError UInt32 :=
  s.propertyAs .uint32 h.path "State"

def devices (h : Manager) (s : Session) : Except BusError (List Path) :=
  s.propertyAs .objectPaths h.path "Devices"

def activeConnections (h : Manager) (s : Session) : Except BusError (List Path) :=
  s.propertyAs .objectPaths h.path "ActiveConnections"

/-- Asks for the signals of changes of the manager's state. -/
def track (h : Manager) : Attempt Unit :=
  .subscribeSignal h.path managerInterface stateChangedMember

end Manager

/-! ## Devices -/

structure Device where
  path : Path
deriving DecidableEq, Inhabited

namespace Device

def get (s : Session) (path : Path) : Except BusError Device := do
  return ⟨← s.typedPath path deviceInterface⟩

def udi (h : Device) (s : Session) : Except BusError String :=
  s.propertyAs .string h.path "Udi"

def interface (h : Device) (s : Session) : Except BusError String :=
  s.propertyAs .string h.path "Interface"

def driver (h : Device) (s : Session) : Except BusError String :=
  s.propertyAs .string h.path "Driver"

def capabilities (h : Device) (s : Session) : Except BusError Capabilities := do
  return .ofBits deviceFlags (← s.propertyAs .uint32 h.path "Capabilities")

def state (h : Device) (s : Session) : Except BusError UInt32 :=
  s.propertyAs .uint32 h.path "State"

def isActivated (h : Device) (s : Session) : Except BusError Bool := do
  return (← h.state s) == activatedState

def managed (h : Device) (s : Session) : Except BusError Bool :=
  s.propertyAs .bool h.path "Managed"

def deviceType (h : Device) (s : Session) : Except BusError UInt32 :=
  s.propertyAs .uint32 h.path "DeviceType"

def ip4Config (h : Device) (s : Session) : Except BusError Path :=
  s.propertyAs .objectPath h.path "Ip4Config"

/-- Asks for the signals of changes of the device's state and, if it is wireless, of access points
coming and going. -/
def track (h : Device) : Attempt Unit := do
  let type ← .check h.deviceType
  .subscribeSignal h.path deviceInterface stateChangedMember
  if type = wirelessType then
    .subscribeSignal h.path wirelessInterface accessPointAddedMember
    .subscribeSignal h.path wirelessInterface accessPointRemovedMember

/-- Asks for the access points that a wireless device sees; see `accessPointsOfReply`. -/
def getAccessPoints (h : Device) (completion : Completion) : Attempt Unit :=
  .callOn h.path wirelessInterface Calls.getAccessPoints "GetAccessPoints" [] (some completion)

/-- Asks for the properties of another interface of the device; see `WiredDetails.ofReply` and
`WirelessDetails.ofReply`. -/
def getDetails (h : Device) (interface : String) (completion : Completion) : Attempt Unit :=
  .callOn h.path propertiesInterface Calls.getDetails "GetAll" [.string interface] (some completion)

end Device

/-! ## Signals -/

structure DeviceStateChange where
  device : Path
  newState : UInt32
  oldState : UInt32
  reason : UInt32
deriving DecidableEq, Inhabited

namespace DeviceStateChange

def ofEvent? (e : Event) : Option DeviceStateChange :=
  match e.signalArgs? stateChangedMember with
  | some [.scalar (.uint32 new), .scalar (.uint32 old), .scalar (.uint32 reason)] =>
      some ⟨e.path, new, old, reason⟩
  | _ => none

def isActivated (c : DeviceStateChange) : Bool := c.newState == activatedState

end DeviceStateChange

structure ManagerStateChange where
  state : UInt32
deriving DecidableEq, Inhabited

def ManagerStateChange.ofEvent? (e : Event) : Option ManagerStateChange :=
  match e.signalArgs? stateChangedMember with
  | some [.scalar (.uint32 state)] => some ⟨state⟩
  | _ => none

structure AccessPointChange where
  device : Path
  accessPoint : Path
  added : Bool
deriving DecidableEq, Inhabited

def AccessPointChange.ofEvent? (e : Event) : Option AccessPointChange :=
  let read (args : List Value) (added : Bool) : Option AccessPointChange :=
    match args with
    | .objectPath accessPoint :: _ => some ⟨e.path, accessPoint, added⟩
    | _ => none
  match e.signalArgs? accessPointAddedMember with
  | some args => read args true
  | none =>
      match e.signalArgs? accessPointRemovedMember with
      | some args => read args false
      | none => none

/-! ## Access points -/

structure AccessPoint where
  path : Path
deriving DecidableEq, Inhabited

namespace AccessPoint

/-- Registers an access point and fetches its properties. -/
def track (path : Path) : Attempt AccessPoint := do
  let path ← .registerTyped path accessPointInterface
  .sync path none
  return ⟨path⟩

def get (s : Session) (path : Path) : Except BusError AccessPoint := do
  return ⟨← s.typedPath path accessPointInterface⟩

/-- The bytes of the network's name. -/
def ssid (h : AccessPoint) (s : Session) : Except BusError (List UInt8) := do
  (← s.propertyAs .array h.path "Ssid").mapM Reader.byte.read

/-- The quality of the signal in percent. -/
def strength (h : AccessPoint) (s : Session) : Except BusError UInt8 :=
  s.propertyAs .byte h.path "Strength"

/-- The frequency in megahertz. -/
def frequency (h : AccessPoint) (s : Session) : Except BusError UInt32 :=
  s.propertyAs .uint32 h.path "Frequency"

def hardwareAddress (h : AccessPoint) (s : Session) : Except BusError String :=
  s.propertyAs .string h.path "HwAddress"

end AccessPoint

/-! ## Replies -/

def accessPointsOfReply : List Value → Except BusError (List Path)
  | v :: _ => Reader.objectPaths.read v
  | [] => .error (.typeMismatch "ao" "empty reply")

def field {α : Type} (properties : Properties) (reader : Reader α) (name : String) :
    Except BusError α :=
  match Table.get? properties name with
  | some v => reader.read v
  | none => .error (.notFound name)

structure WiredDetails where
  hardwareAddress : String
  /-- The speed of the link in megabits per second. -/
  speed : UInt32
  carrier : Bool
deriving DecidableEq, Inhabited

def WiredDetails.ofReply (args : List Value) : Except BusError WiredDetails := do
  let properties ← Properties.ofReply args
  let hardwareAddress ← field properties .string "HwAddress"
  let speed ← field properties .uint32 "Speed"
  let carrier ← field properties .bool "Carrier"
  return { hardwareAddress, speed, carrier }

structure WirelessDetails where
  hardwareAddress : String
  mode : UInt32
  /-- The rate in kilobits per second. -/
  bitrate : UInt32
  activeAccessPoint : Option Path
  capabilities : Capabilities

def WirelessDetails.ofReply (args : List Value) : Except BusError WirelessDetails := do
  let properties ← Properties.ofReply args
  let active ← field properties .objectPath "ActiveAccessPoint"
  let hardwareAddress ← field properties .string "HwAddress"
  let mode ← field properties .uint32 "Mode"
  let bitrate ← field properties .uint32 "Bitrate"
  let bits ← field properties .uint32 "WirelessCapabilities"
  return {
    hardwareAddress, mode, bitrate
    activeAccessPoint := if active = "/" then none else some active
    capabilities := .ofBits wirelessFlags bits }

/-- The settings of a saved connection: a table of properties for each section. -/
def settingsOfReply (args : List Value) : Except BusError (Table String Properties) := do
  (← Properties.ofReply args).mapM fun entry => do
    return (entry.1, ← Reader.dict.read entry.2)

/-! ## Saved connections -/

structure SettingsConnection where
  path : Path
deriving DecidableEq, Inhabited

namespace SettingsConnection

/-- Registers a saved connection and asks for the signals of its changes. -/
def track (path : Path) : Attempt SettingsConnection := do
  let path ← .registerTyped path settingsInterface
  .subscribeSignal path settingsInterface "Updated"
  return ⟨path⟩

def get (s : Session) (path : Path) : Except BusError SettingsConnection := do
  return ⟨← s.typedPath path settingsInterface⟩

def getSettings (h : SettingsConnection) (completion : Completion) : Attempt Unit :=
  .call h.path Calls.getSettings "GetSettings" [] (some completion)

/-- Asks for the secrets of one section; see `settingsOfReply`. -/
def getSecrets (h : SettingsConnection) (setting : String) (completion : Completion) :
    Attempt Unit :=
  .call h.path Calls.getSecrets "GetSecrets" [.string setting] (some completion)

end SettingsConnection

end BusCache.NetworkManager
