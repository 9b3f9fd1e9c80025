import BusCache.Proofs.Services.Requests

/-!
# Stale handles — what is left of a handle without its element

A handle holds nothing but a path. Without an element there, its getters find nothing to read, and
its requests are refused at their first operation, whatever that would have been: the arguments of
setters can all be sent, so the element is looked for before anything else is.
-/

namespace BusCache

/-! ## 1. Readings -/

/-- The getters of the manager, of adapters and of devices, by what they read. -/
inductive Bluez.Reading : Type → Type where
  | adapters (h : Manager) : Reading (List Path)
  | adapterAddress (h : Adapter) : Reading String
  | adapterName (h : Adapter) : Reading String
  | powered (h : Adapter) : Reading Bool
  | discoverable (h : Adapter) : Reading Bool
  | discovering (h : Adapter) : Reading Bool
  | devices (h : Adapter) : Reading (List Path)
  | deviceAddress (h : Device) : Reading String
  | aliasName (h : Device) : Reading String
  | paired (h : Device) : Reading Bool
  | connected (h : Device) : Reading Bool
  | trusted (h : Device) : Reading Bool

namespace Bluez.Reading

variable {α : Type}

/-- The path of the handle. -/
def path : Reading α → Path
  | adapters h => h.path
  | adapterAddress h | adapterName h | powered h | discoverable h | discovering h | devices h =>
      h.path
  | deviceAddress h | aliasName h | paired h | connected h | trusted h => h.path

def read : Reading α → Session → Except BusError α
  | adapters h => h.adapters
  | adapterAddress h => h.address
  | adapterName h => h.name
  | powered h => h.powered
  | discoverable h => h.discoverable
  | discovering h => h.discovering
  | devices h => h.devices
  | deviceAddress h => h.address
  | aliasName h => h.aliasName
  | paired h => h.paired
  | connected h => h.connected
  | trusted h => h.trusted

end Bluez.Reading

/-- The getters of services, by what they read. -/
inductive Connman.Reading : Type → Type where
  | state (h : Service) : Reading String
  | error (h : Service) : Reading String
  | name (h : Service) : Reading String
  | kind (h : Service) : Reading String
  | mode (h : Service) : Reading String
  | security (h : Service) : Reading String
  | passphrase (h : Service) : Reading String
  | passphraseRequired (h : Service) : Reading Bool
  | strength (h : Service) : Reading UInt8
  | favorite (h : Service) : Reading Bool
  | immutable (h : Service) : Reading Bool
  | autoConnect (h : Service) : Reading Bool
  | setupRequired (h : Service) : Reading Bool
  | accessPointName (h : Service) : Reading String
  | countryCode (h : Service) : Reading String
  | networkCode (h : Service) : Reading String
  | roaming (h : Service) : Reading Bool
  | ipv4Method (h : Service) : Reading String
  | ipv4Address (h : Service) : Reading String

namespace Connman.Reading

variable {α : Type}

/-- The path of the handle. -/
def path : Reading α → Path
  | state h | error h | name h | kind h | mode h | security h | passphrase h
  | passphraseRequired h | strength h | favorite h | immutable h | autoConnect h | setupRequired h
  | accessPointName h | countryCode h | networkCode h | roaming h | ipv4Method h | ipv4Address h =>
      h.path

def read : Reading α → Session → Except BusError α
  | state h => h.state
  | error h => h.error
  | name h => h.name
  | kind h => h.kind
  | mode h => h.mode
  | security h => h.security
  | passphrase h => h.passphrase
  | passphraseRequired h => h.passphraseRequired
  | strength h => h.strength
  | favorite h => h.favorite
  | immutable h => h.immutable
  | autoConnect h => h.autoConnect
  | setupRequired h => h.setupRequired
  | accessPointName h => h.accessPointName
  | countryCode h => h.countryCode
  | networkCode h => h.networkCode
  | roaming h => h.roaming
  | ipv4Method h => h.ipv4Method
  | ipv4Address h => h.ipv4Address

end Connman.Reading

/-- The getters of the manager, of devices and of access points, by what they read. -/
inductive NetworkManager.Reading : Type → Type where
  | wirelessEnabled (h : Manager) : Reading Bool
  | wirelessHardwareEnabled (h : Manager) : Reading Bool
  | managerState (h : Manager) : Reading UInt32
  | devices (h : Manager) : Reading (List Path)
  | activeConnections (h : Manager) : Reading (List Path)
  | udi (h : Device) : Reading String
  | interface (h : Device) : Reading String
  | driver (h : Device) : Reading String
  | capabilities (h : Device) : Reading Capabilities
  | deviceState (h : Device) : Reading UInt32
  | isActivated (h : Device) : Reading Bool
  | managed (h : Device) : Reading Bool
  | deviceType (h : Device) : Reading UInt32
  | ip4Config (h : Device) : Reading Path
  | ssid (h : AccessPoint) : Reading (List UInt8)
  | strength (h : AccessPoint) : Reading UInt8
  | frequency (h : AccessPoint) : Reading UInt32
  | hardwareAddress (h : AccessPoint) : Reading String

namespace NetworkManager.Reading

variable {α : Type}

/-- The path of the handle. -/
def path : Reading α → Path
  | wirelessEnabled h | wirelessHardwareEnabled h | managerState h | devices h
  | activeConnections h => h.path
  | udi h | interface h | driver h | capabilities h | deviceState h | isActivated h | managed h
  | deviceType h | ip4Config h => h.path
  | ssid h | strength h | frequency h | hardwareAddress h => h.path

def read : Reading α → Session → Except BusError α
  | wirelessEnabled h => h.wirelessEnabled
  | wirelessHardwareEnabled h => h.wirelessHardwareEnabled
  | managerState h => h.state
  | devices h => h.devices
  | activeConnections h => h.activeConnections
  | udi h => h.udi
  | interface h => h.interface
  | driver h => h.driver
  | capabilities h => h.capabilities
  | deviceState h => h.state
  | isActivated h => h.isActivated
  | managed h => h.managed
  | deviceType h => h.deviceType
  | ip4Config h => h.ip4Config
  | ssid h => h.ssid
  | strength h => h.strength
  | frequency h => h.frequency
  | hardwareAddress h => h.hardwareAddress

end NetworkManager.Reading

inductive ServiceReading (α : Type) where
  | bluez (g : Bluez.Reading α)
  | connman (g : Connman.Reading α)
  | networkManager (g : NetworkManager.Reading α)

namespace ServiceReading

variable {α : Type}

/-- The path of the handle. -/
def path : ServiceReading α → Path
  | bluez g => g.path
  | connman g => g.path
  | networkManager g => g.path

def read : ServiceReading α → Session → Except BusError α
  | bluez g => g.read
  | connman g => g.read
  | networkManager g => g.read

end ServiceReading

/-! ## 2. Reading without an element -/

section Unregistered

variable {α : Type} {s : Session} {path : Path}

theorem Session.element_of_unregistered (gone : s.element? path = none) :
    s.element path = .error (.staleReference path) := by
  unfold element
  rw [gone]

theorem Session.propertyAs_of_unregistered (gone : s.element? path = none) (reader : Reader α)
    (name : String) : s.propertyAs reader path name = .error (.staleReference path) := by
  unfold propertyAs property
  rw [element_of_unregistered gone]
  rfl

theorem Session.propertyAs_bind_of_unregistered {β : Type} (gone : s.element? path = none)
    (reader : Reader α) (name : String) (next : α → Except BusError β) :
    (s.propertyAs reader path name >>= next) = .error (.staleReference path) := by
  rw [propertyAs_of_unregistered gone]
  rfl

theorem Bluez.Reading.read_of_unregistered (g : Reading α) (gone : s.element? g.path = none) :
    g.read s = .error (.staleReference g.path) := by
  cases g <;> exact Session.propertyAs_of_unregistered gone _ _

theorem Connman.Reading.read_of_unregistered (g : Reading α) (gone : s.element? g.path = none) :
    g.read s = .error (.staleReference g.path) := by
  cases g <;> exact Session.propertyAs_of_unregistered gone _ _

theorem NetworkManager.Reading.read_of_unregistered (g : Reading α)
    (gone : s.element? g.path = none) : g.read s = .error (.staleReference g.path) := by
  cases g with
  -- these make something of the property that they read
  | capabilities h | isActivated h | ssid h =>
    exact Session.propertyAs_bind_of_unregistered gone _ _ _
  | _ h => exact Session.propertyAs_of_unregistered gone _ _

theorem ServiceReading.read_of_unregistered (g : ServiceReading α)
    (gone : s.element? g.path = none) : g.read s = .error (.staleReference g.path) := by
  cases g with
  | bluez g => exact g.read_of_unregistered gone
  | connman g => exact g.read_of_unregistered gone
  | networkManager g => exact g.read_of_unregistered gone

end Unregistered

/-! ## 3. Asking without an element -/

/-- What is missed first by an operation on a path without an element: the owner of the service,
which is looked for before the element, or the element. -/
def Session.missing (s : Session) (path : Path) : String :=
  if s.state.isPresent then path else s.config.service

/-- The operation needs an element at a path, and no argument of it is in the way. -/
def Operation.Addresses (path : Path) : Operation → Prop
  | setPropertyAs p _ value kind _ => p = path ∧ ∃ w, value.encode kind = .ok w
  | call p _ _ _ _ => p = path
  | callOn p _ _ _ _ _ => p = path
  | subscribeSignal p _ _ => p = path
  | _ => False

section Unregistered

variable {s : Session} {path : Path} (gone : s.element? path = none)

include gone

theorem Session.present_element_of_unregistered {α : Type} (next : Element → Except BusError α) :
    (s.ensurePresent >>= fun _ => s.element path >>= next) =
      .error (.staleReference (s.missing path)) := by
  unfold ensurePresent missing
  rw [element_of_unregistered gone]
  by_cases present : s.state.isPresent = true
  · rw [if_pos present, if_pos present]
    rfl
  · rw [if_neg present, if_neg present]
    rfl

theorem Operation.check_of_unregistered {op : Operation} (addressed : op.Addresses path) :
    op.check s = .error (.staleReference (s.missing path)) := by
  cases op with
  | setPropertyAs p name value kind completion =>
    obtain ⟨rfl, w, encoded⟩ := addressed
    show ((value.encode kind >>= fun _ => pure ()) >>= fun _ => s.admitCall p .propertySet) = _
    rw [encoded]
    exact Session.present_element_of_unregistered gone _
  | call p kind method args completion =>
    cases addressed
    exact Session.present_element_of_unregistered gone _
  | callOn p interface kind method args completion =>
    cases addressed
    exact Session.present_element_of_unregistered gone _
  | subscribeSignal p interface member =>
    cases addressed
    exact Session.present_element_of_unregistered gone _
  | _ => exact addressed.elim

end Unregistered

/-- A request through a handle begins with an operation on the handle's path, unless a property of
the element has to be read before. -/
theorem ServiceRequest.plan_addresses {q : ServiceRequest} {path : Path}
    (handle : q.path? = some path) (s : Session) :
    (∃ op rest, q.plan s = .ok (op :: rest) ∧ op.Addresses path)
      ∨ ∃ h : NetworkManager.Device, q = .networkManager (.trackDevice h) ∧ h.path = path := by
  cases q with
  | bluez q =>
    left
    cases q with
    | setPowered h on completion | setDiscoverable h on completion | setTrusted h on completion =>
      exact ⟨_, _, rfl, Option.some.inj handle, _, rfl⟩
    | _ => exact ⟨_, _, rfl, Option.some.inj handle⟩
  | connman q =>
    left
    cases q with
    | setPassphrase h text completion | setAccessPointName h text completion =>
      exact ⟨_, _, rfl, Option.some.inj handle, _, rfl⟩
    | setAutoConnect h on completion => exact ⟨_, _, rfl, Option.some.inj handle, _, rfl⟩
    | _ => exact ⟨_, _, rfl, Option.some.inj handle⟩
  | networkManager q =>
    cases q with
    | setWirelessEnabled h on completion =>
      exact .inl ⟨_, _, rfl, Option.some.inj handle, _, rfl⟩
    | trackDevice h => exact .inr ⟨h, rfl, Option.some.inj handle⟩
    | trackAccessPoint p | trackSettings p => cases handle
    | _ => exact .inl ⟨_, _, rfl, Option.some.inj handle⟩

theorem ServiceRequest.perform_of_unregistered {q : ServiceRequest} {r : Run} {path : Path}
    (gone : r.session.element? path = none) (handle : q.path? = some path) :
    q.perform r = (.error (.staleReference (r.session.missing path)), r)
      ∨ q.perform r = (.error (.staleReference path), r) := by
  rw [q.perform_eq]
  rcases q.plan_addresses handle r.session with ⟨op, rest, plan, addressed⟩ | ⟨h, rfl, rfl⟩
  · left
    rw [Attempt.follow_of_ok plan]
    exact Operation.inTurn_of_refused (Operation.check_of_unregistered gone addressed)
  · right
    apply Attempt.follow_of_error
    exact Session.propertyAs_bind_of_unregistered gone _ _ _

/-! ## 4. Handles of removed elements -/

/-- A handle whose element is gone is dead, whatever happened in the run. Every setter and method
fails with a stale reference, to the path or else to a service that is gone as well, and leaves the
run as it was: the session is the same, nothing is asked of the transport, no event is emitted and
no completion is told anything. Every getter fails with a stale reference to the path. -/
theorem removed_handles_are_dead (r : Run) (path : Path) (gone : r.session.element? path = none) :
    (∀ q : ServiceRequest, q.path? = some path →
      ∃ name, (name = path ∨ r.session.state.isPresent = false ∧ name = r.session.config.service)
        ∧ q.perform r = (.error (.staleReference name), r))
    ∧ ∀ (α : Type) (g : ServiceReading α), g.path = path →
        g.read r.session = .error (.staleReference path) := by
  constructor
  · intro q handle
    rcases ServiceRequest.perform_of_unregistered gone handle with refused | refused
    · refine ⟨r.session.missing path, ?_, refused⟩
      unfold Session.missing
      cases r.session.state.isPresent with
      | true => exact .inl rfl
      | false => exact .inr ⟨rfl, rfl⟩
    · exact ⟨path, .inl rfl, refused⟩
  · rintro α g rfl
    exact g.read_of_unregistered gone

/-- An adapter that the service removed: a handle taken before neither starts a discovery nor tells
the address. -/
theorem handle_of_removed_adapter_is_dead :
    let ops : List Operation :=
      [.init, .dispatch (.ownerChanged ⟨1⟩ "org.bluez" "" ":1.7"),
        .create "/hci0" Bluez.adapterInterface]
    let removal : Operation :=
      .dispatch (.signal ⟨4⟩ "/" "AdapterRemoved" [.objectPath "/hci0"])
    let before := (Run.start Bluez.config .counting .ascending).performAll ops
    let r := (removal.perform before).2
    let h : Bluez.Adapter := ⟨"/hci0"⟩
    Bluez.Adapter.get before.session "/hci0" = .ok h
    ∧ (∃ name, h.startDiscovery (some ⟨5⟩) r = (.error (.staleReference name), r))
    ∧ h.address r.session = .error (.staleReference "/hci0") := by
  intro ops removal
  have evaluated :
      let before := (Run.start Bluez.config .counting .ascending).performAll ops
      ((before.session.element? "/hci0").map Element.interface,
        (removal.perform before).2.session.isRegistered "/hci0") =
      (some Bluez.adapterInterface, false) := by
    subst ops removal
    rfl
  dsimp only at evaluated ⊢
  generalize (Run.start Bluez.config .counting .ascending).performAll ops = before at evaluated ⊢
  obtain ⟨known, removed⟩ := Prod.mk.inj evaluated
  obtain ⟨e, here, typed⟩ := Option.map_eq_some_iff.mp known
  have dead := removed_handles_are_dead (removal.perform before).2 "/hci0"
    (Session.isRegistered_eq_false_iff.mp removed)
  refine ⟨?_, ?_, dead.2 String (.bluez (.adapterAddress ⟨"/hci0"⟩)) rfl⟩
  · unfold Bluez.Adapter.get
    rw [Session.typedPath_of_element? here, if_pos typed]
    rfl
  · obtain ⟨name, _, refused⟩ :=
      dead.1 (.bluez (.startDiscovery ⟨"/hci0"⟩ (some ⟨5⟩))) rfl
    exact ⟨name, refused⟩

end BusCache
