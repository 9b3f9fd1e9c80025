import BusCache.Proofs.Session.Refusals
import BusCache.Services.Bluez
import BusCache.Services.Connman
import BusCache.Services.NetworkManager

/-!
# Requests — what handles ask of a session

The setters and methods of the handles of a service are one type of requests, so that something can
be said of all of them at once. A request has a plan: the operations of the session that it consists
of, performed in turn up to the first that fails. A request that looks at the session before may
not get as far as its plan.
-/

namespace BusCache

/-! ## 1. Operations in turn -/

instance : LawfulMonad Attempt := by
  refine LawfulMonad.mk' Attempt ?_ ?_ ?_
  · intro α a
    funext r
    show (a >>= fun x => pure x) r = a r
    rw [Attempt.bind_apply]
    cases a r with
    | mk outcome r' => cases outcome <;> rfl
  · intro α β x f
    rfl
  · intro α β γ a f g
    funext r
    simp only [Attempt.bind_apply]
    cases a r with
    | mk outcome r' => cases outcome <;> rfl

namespace Operation

/-- Performs operations one after the other, up to the first that fails. -/
def inTurn : List Operation → Attempt Unit
  | [] => pure ()
  | op :: rest => do
      let _ ← op.perform
      inTurn rest

section InTurn

variable {op : Operation} {ops rest : List Operation} {r : Run} {error : BusError}

theorem inTurn_cons {a : Attempt Unit} (h : op.perform = silent a) :
    inTurn (op :: rest) = (a >>= fun _ => inTurn rest) := by
  show (op.perform >>= fun _ => inTurn rest) = _
  rw [h]
  unfold silent
  rw [bind_assoc]
  rfl

theorem inTurn_single {a : Attempt Unit} (h : op.perform = silent a) : inTurn [op] = a := by
  rw [inTurn_cons h]
  exact bind_pure_unit

/-- A first operation that is refused is the end of it. -/
theorem inTurn_of_refused (refused : op.check r.session = .error error) :
    inTurn (op :: rest) r = (.error error, r) := by
  show (op.perform >>= fun _ => inTurn rest) r = _
  rw [Attempt.bind_apply, (op.perform_checks r).refused error refused]

theorem inTurn_of_admitted (admitted : op.check r.session = .ok ()) :
    inTurn (op :: rest) r = inTurn rest (op.perform r).2 := by
  obtain ⟨answer, ok⟩ := (op.perform_checks r).admitted admitted
  show (op.perform >>= fun _ => inTurn rest) r = _
  rw [Attempt.bind_apply]
  cases performed : op.perform r with
  | mk outcome r' =>
    rw [performed] at ok
    cases ok
    rfl

/-- Operations in turn fail at one that is refused, and leave what those before it did. -/
theorem inTurn_failed (failed : (inTurn ops r).1 = .error error) :
    ∃ before op after, ops = before ++ op :: after
      ∧ op.check (r.performAll before).session = .error error
      ∧ inTurn ops r = (.error error, r.performAll before) := by
  induction ops generalizing r with
  | nil => cases failed
  | cons op rest ih =>
    cases checked : op.check r.session with
    | error cause =>
      have stopped : inTurn (op :: rest) r = (.error cause, r) := inTurn_of_refused checked
      rw [stopped] at failed
      cases failed
      exact ⟨[], op, rest, rfl, checked, stopped⟩
    | ok _ =>
      have goes : inTurn (op :: rest) r = inTurn rest (op.perform r).2 := inTurn_of_admitted checked
      rw [goes] at failed
      obtain ⟨before, refused, after, rfl, cause, left⟩ := ih failed
      exact ⟨op :: before, refused, after, rfl, cause, goes.trans left⟩

end InTurn

end Operation

namespace Attempt

/-- Looks at the session for a plan and carries it out. -/
def follow (plan : Session → Except BusError (List Operation)) : Attempt Unit := do
  Operation.inTurn (← check plan)

section Follow

variable {plan : Session → Except BusError (List Operation)} {ops : List Operation} {r : Run}

theorem follow_of_ok (h : plan r.session = .ok ops) : follow plan r = Operation.inTurn ops r := by
  unfold follow
  rw [check_bind_apply, h]

theorem follow_of_error {error : BusError} (h : plan r.session = .error error) :
    follow plan r = (.error error, r) := by
  unfold follow
  rw [check_bind_apply, h]

end Follow

end Attempt

/-! ## 2. Registering -/

namespace Session

/-- The plan to register an element of an interface and go on, which a registered element of another
interface is in the way of. -/
def registering (path : Path) (interface : String) (rest : List Operation) (s : Session) :
    Except BusError (List Operation) :=
  match s.element? path with
  | none => .ok (.create path interface :: rest)
  | some _ => do
      let _ ← s.typedPath path interface
      return .create path interface :: rest

theorem typedPath_of_element? {s : Session} {path : Path} {e : Element}
    (here : s.element? path = some e) (interface : String) :
    s.typedPath path interface =
      if e.interface = interface then .ok path
      else .error (.typeMismatch interface e.interface) := by
  unfold typedPath
  rw [element_eq here]
  by_cases typed : e.interface = interface
  · rw [if_pos typed]
    show (if e.interface ≠ interface then _ else _) = _
    rw [if_neg (not_not_intro typed)]
    rfl
  · rw [if_neg typed]
    show (if e.interface ≠ interface then _ else _) = _
    rw [if_pos typed]
    rfl

end Session

namespace Run

theorem getOrCreate_of_none {r : Run} {path : Path} (new : r.session.element? path = none)
    (e : Element) : r.getOrCreate path e = (true, r.register path e) := by
  unfold getOrCreate
  rw [Session.isRegistered_eq_false_iff.mpr new]
  rfl

theorem getOrCreate_of_some {r : Run} {path : Path} {known : Element}
    (here : r.session.element? path = some known) (e : Element) :
    r.getOrCreate path e = (false, r) := by
  unfold getOrCreate
  have registered : r.session.isRegistered path = true := Option.isSome_of_eq_some here
  rw [if_pos registered]

end Run

/-- To register an element under an interface and go on is to follow a plan. -/
theorem Attempt.registerTyped_then {path : Path} {interface : String} {next : Path → Attempt Unit}
    {rest : List Operation} (goes : next path = Operation.inTurn rest) :
    (registerTyped path interface >>= next) =
      follow (Session.registering path interface rest) := by
  funext r
  have created : Operation.inTurn (.create path interface :: rest) r =
      Operation.inTurn rest (r.getOrCreate path { interface }).2 := by
    rw [Operation.inTurn_of_admitted rfl, Operation.perform_create]
  unfold registerTyped
  rw [bind_assoc, bind_apply, perform_apply]
  dsimp only
  rw [check_bind_apply]
  cases here : r.session.element? path with
  | none =>
    -- a new element has the interface it was registered under
    have plan : Session.registering path interface rest r.session =
        .ok (.create path interface :: rest) := by
      unfold Session.registering
      rw [here]
    have registered := Session.element?_of_set (r.register_registry path { interface }) path
    rw [if_pos rfl] at registered
    rw [follow_of_ok plan, created, Run.getOrCreate_of_none here,
      Session.typedPath_of_element? registered, if_pos rfl]
    exact congrFun goes _
  | some e =>
    -- a known one may have another, and nothing has been done by then
    have plan : Session.registering path interface rest r.session =
        (r.session.typedPath path interface).map fun _ => .create path interface :: rest := by
      unfold Session.registering
      rw [here]
      cases r.session.typedPath path interface <;> rfl
    rw [Run.getOrCreate_of_some here, Session.typedPath_of_element? here] at *
    by_cases typed : e.interface = interface
    · rw [if_pos typed] at plan ⊢
      rw [follow_of_ok plan, created]
      exact congrFun goes r
    · rw [if_neg typed] at plan ⊢
      exact (follow_of_error plan).symm

/-- Which handle is made of what was registered does not matter for what is done. -/
theorem Attempt.registerTyped_single {α : Type} {path : Path} {interface : String}
    (a : Path → Attempt Unit) (handle : Path → α) {op : Operation}
    (h : op.perform = Operation.silent (a path)) :
    ((registerTyped path interface >>= fun p => a p >>= fun _ => pure (handle p)) >>=
        fun _ => pure ()) =
      follow (Session.registering path interface [op]) := by
  rw [bind_assoc]
  refine registerTyped_then ?_
  rw [bind_assoc, Operation.inTurn_single h]
  show (a path >>= fun _ => pure ()) = _
  exact bind_pure_unit

/-! ## 3. Bluez -/

namespace Bluez

/-- The setters and methods of the manager, of adapters and of devices. -/
inductive Request where
  | defaultAdapter (h : Manager) (completion : Completion)
  | setPowered (h : Adapter) (on : Bool) (completion : Option Completion)
  | setDiscoverable (h : Adapter) (on : Bool) (completion : Option Completion)
  | startDiscovery (h : Adapter) (completion : Option Completion)
  | stopDiscovery (h : Adapter) (completion : Option Completion)
  | registerAgent (h : Adapter) (agent : Path) (capability : Option String)
      (completion : Option Completion)
  | unregisterAgent (h : Adapter) (agent : Path) (completion : Option Completion)
  | setTrusted (h : Device) (on : Bool) (completion : Option Completion)

namespace Request

/-- The path of the handle. -/
def path : Request → Path
  | defaultAdapter h _ => h.path
  | setPowered h _ _ | setDiscoverable h _ _ | startDiscovery h _ | stopDiscovery h _
  | registerAgent h _ _ _ | unregisterAgent h _ _ => h.path
  | setTrusted h _ _ => h.path

def perform : Request → Attempt Unit
  | defaultAdapter h completion => h.defaultAdapter completion
  | setPowered h on completion => h.setPowered on completion
  | setDiscoverable h on completion => h.setDiscoverable on completion
  | startDiscovery h completion => h.startDiscovery completion
  | stopDiscovery h completion => h.stopDiscovery completion
  | registerAgent h agent capability completion => h.registerAgent agent capability completion
  | unregisterAgent h agent completion => h.unregisterAgent agent completion
  | setTrusted h on completion => h.setTrusted on completion

/-- The operations that a request consists of. -/
def operations : Request → List Operation
  | defaultAdapter h completion =>
      [.call h.path Calls.defaultAdapter "DefaultAdapter" [] (some completion)]
  | setPowered h on completion =>
      [.setPropertyAs h.path "Powered" (.scalar (.bool on)) (.basic .bool) completion]
  | setDiscoverable h on completion =>
      [.setPropertyAs h.path "Discoverable" (.scalar (.bool on)) (.basic .bool) completion]
  | startDiscovery h completion =>
      [.subscribeSignal h.path adapterInterface deviceFoundMember,
       .call h.path Calls.startDiscovery "StartDiscovery" [] completion]
  | stopDiscovery h completion =>
      [.call h.path Calls.stopDiscovery "StopDiscovery" [] completion]
  | registerAgent h agent capability completion =>
      [.call h.path Calls.registerAgent "RegisterAgent"
        [.objectPath agent, .string (capability.getD "DisplayYesNo")] completion]
  | unregisterAgent h agent completion =>
      [.call h.path Calls.unregisterAgent "UnregisterAgent" [.objectPath agent] completion]
  | setTrusted h on completion =>
      [.setPropertyAs h.path "Trusted" (.scalar (.bool on)) (.basic .bool) completion]

theorem perform_eq (q : Request) : q.perform = Operation.inTurn q.operations := by
  cases q with
  | startDiscovery h completion =>
    show h.startDiscovery completion = _
    unfold operations
    rw [Operation.inTurn_cons rfl, Operation.inTurn_single rfl]
    rfl
  | _ => exact (Operation.inTurn_single rfl).symm

end Request

end Bluez

/-! ## 4. Connman -/

namespace Connman

/-- The setters and methods of services. -/
inductive Request where
  | connect (h : Service) (completion : Option Completion)
  | disconnect (h : Service) (completion : Option Completion)
  | remove (h : Service) (completion : Option Completion)
  | clearProperty (h : Service) (property : String) (completion : Option Completion)
  | moveBefore (h : Service) (other : Path) (completion : Option Completion)
  | moveAfter (h : Service) (other : Path) (completion : Option Completion)
  | setPassphrase (h : Service) (text : String) (completion : Option Completion)
  | setAutoConnect (h : Service) (on : Bool) (completion : Option Completion)
  | setAccessPointName (h : Service) (text : String) (completion : Option Completion)

namespace Request

/-- The path of the handle. -/
def path : Request → Path
  | connect h _ | disconnect h _ | remove h _ | clearProperty h _ _ | moveBefore h _ _
  | moveAfter h _ _ | setPassphrase h _ _ | setAutoConnect h _ _ | setAccessPointName h _ _ =>
      h.path

def perform : Request → Attempt Unit
  | connect h completion => h.connect completion
  | disconnect h completion => h.disconnect completion
  | remove h completion => h.remove completion
  | clearProperty h property completion => h.clearProperty property completion
  | moveBefore h other completion => h.moveBefore other completion
  | moveAfter h other completion => h.moveAfter other completion
  | setPassphrase h text completion => h.setPassphrase text completion
  | setAutoConnect h on completion => h.setAutoConnect on completion
  | setAccessPointName h text completion => h.setAccessPointName text completion

/-- The one operation that a request is. -/
def operation : Request → Operation
  | connect h completion => .call h.path Calls.connect "Connect" [] completion
  | disconnect h completion => .call h.path Calls.disconnect "Disconnect" [] completion
  | remove h completion => .call h.path Calls.remove "Remove" [] completion
  | clearProperty h property completion =>
      .call h.path Calls.clearProperty "ClearProperty" [.string property] completion
  | moveBefore h other completion =>
      .call h.path Calls.moveBefore "MoveBefore" [.objectPath other] completion
  | moveAfter h other completion =>
      .call h.path Calls.moveAfter "MoveAfter" [.objectPath other] completion
  | setPassphrase h text completion =>
      .setPropertyAs h.path "Passphrase" (.string text) (.basic .string) completion
  | setAutoConnect h on completion =>
      .setPropertyAs h.path "AutoConnect" (.scalar (.bool on)) (.basic .bool) completion
  | setAccessPointName h text completion =>
      .setPropertyAs h.path "APN" (.string text) (.basic .string) completion

theorem perform_eq (q : Request) : q.perform = Operation.inTurn [q.operation] := by
  cases q <;> exact (Operation.inTurn_single rfl).symm

end Request

end Connman

/-! ## 5. Network Manager -/

namespace NetworkManager

/-- The setters and methods of the manager, of devices and of saved connections, and what access
points and saved connections are registered by. -/
inductive Request where
  | setWirelessEnabled (h : Manager) (on : Bool) (completion : Option Completion)
  | track (h : Manager)
  | trackDevice (h : Device)
  | getAccessPoints (h : Device) (completion : Completion)
  | getDetails (h : Device) (interface : String) (completion : Completion)
  | trackAccessPoint (path : Path)
  | trackSettings (path : Path)
  | getSettings (h : SettingsConnection) (completion : Completion)
  | getSecrets (h : SettingsConnection) (setting : String) (completion : Completion)

namespace Request

/-- The path of the handle. An element is registered by its path, before there is a handle. -/
def path? : Request → Option Path
  | setWirelessEnabled h _ _ | track h => some h.path
  | trackDevice h | getAccessPoints h _ | getDetails h _ _ => some h.path
  | trackAccessPoint _ | trackSettings _ => none
  | getSettings h _ | getSecrets h _ _ => some h.path

def perform : Request → Attempt Unit
  | setWirelessEnabled h on completion => h.setWirelessEnabled on completion
  | track h => h.track
  | trackDevice h => h.track
  | getAccessPoints h completion => h.getAccessPoints completion
  | getDetails h interface completion => h.getDetails interface completion
  | trackAccessPoint path => do
      let _ ← AccessPoint.track path
      return ()
  | trackSettings path => do
      let _ ← SettingsConnection.track path
      return ()
  | getSettings h completion => h.getSettings completion
  | getSecrets h setting completion => h.getSecrets setting completion

/-- The signals that a device of a type is tracked by. -/
def deviceSignals (path : Path) (type : UInt32) : List Operation :=
  .subscribeSignal path deviceInterface stateChangedMember ::
    if type = wirelessType then
      [.subscribeSignal path wirelessInterface accessPointAddedMember,
       .subscribeSignal path wirelessInterface accessPointRemovedMember]
    else []

def plan : Request → Session → Except BusError (List Operation)
  | setWirelessEnabled h on completion, _ =>
      .ok [.setPropertyAs h.path "WirelessEnabled" (.scalar (.bool on)) (.basic .bool) completion]
  | track h, _ => .ok [.subscribeSignal h.path managerInterface stateChangedMember]
  | trackDevice h, s => do return deviceSignals h.path (← h.deviceType s)
  | getAccessPoints h completion, _ =>
      .ok [.callOn h.path wirelessInterface Calls.getAccessPoints "GetAccessPoints" []
        (some completion)]
  | getDetails h interface completion, _ =>
      .ok [.callOn h.path propertiesInterface Calls.getDetails "GetAll" [.string interface]
        (some completion)]
  | trackAccessPoint path, s => s.registering path accessPointInterface [.sync path none]
  | trackSettings path, s =>
      s.registering path settingsInterface [.subscribeSignal path settingsInterface "Updated"]
  | getSettings h completion, _ =>
      .ok [.call h.path Calls.getSettings "GetSettings" [] (some completion)]
  | getSecrets h setting completion, _ =>
      .ok [.call h.path Calls.getSecrets "GetSecrets" [.string setting] (some completion)]

theorem track_eq (h : Device) : h.track = Attempt.follow (trackDevice h).plan := by
  have signals : ∀ type, Operation.inTurn (deviceSignals h.path type) = (do
      .subscribeSignal h.path deviceInterface stateChangedMember
      if type = wirelessType then
        .subscribeSignal h.path wirelessInterface accessPointAddedMember
        .subscribeSignal h.path wirelessInterface accessPointRemovedMember) := by
    intro type
    unfold deviceSignals
    rw [Operation.inTurn_cons rfl]
    split
    · rw [Operation.inTurn_cons rfl, Operation.inTurn_single rfl]
    · rfl
  funext r
  unfold Device.track
  rw [Attempt.check_bind_apply]
  cases typed : h.deviceType r.session with
  | error error =>
    have plan : (trackDevice h).plan r.session = .error error := by
      show (h.deviceType r.session >>= _) = _
      rw [typed]
      rfl
    exact (Attempt.follow_of_error plan).symm
  | ok type =>
    have plan : (trackDevice h).plan r.session = .ok (deviceSignals h.path type) := by
      show (h.deviceType r.session >>= _) = _
      rw [typed]
      rfl
    rw [Attempt.follow_of_ok plan, signals]

theorem perform_eq (q : Request) : q.perform = Attempt.follow q.plan := by
  have single : ∀ {op : Operation} {a : Attempt Unit}, op.perform = Operation.silent a →
      a = Attempt.follow fun _ => .ok [op] := fun h => (Operation.inTurn_single h).symm
  cases q with
  | trackDevice h => exact track_eq h
  | trackAccessPoint path =>
    exact Attempt.registerTyped_single (fun path => .sync path none) AccessPoint.mk rfl
  | trackSettings path =>
    exact Attempt.registerTyped_single
      (fun path => .subscribeSignal path settingsInterface "Updated") SettingsConnection.mk rfl
  | _ => exact single rfl

end Request

end NetworkManager

/-! ## 6. Requests of all services -/

inductive ServiceRequest where
  | bluez (q : Bluez.Request)
  | connman (q : Connman.Request)
  | networkManager (q : NetworkManager.Request)

namespace ServiceRequest

/-- The path of the handle that a request is made through. -/
def path? : ServiceRequest → Option Path
  | bluez q => some q.path
  | connman q => some q.path
  | networkManager q => q.path?

def perform : ServiceRequest → Attempt Unit
  | bluez q => q.perform
  | connman q => q.perform
  | networkManager q => q.perform

def plan : ServiceRequest → Session → Except BusError (List Operation)
  | bluez q, _ => .ok q.operations
  | connman q, _ => .ok [q.operation]
  | networkManager q, s => q.plan s

theorem perform_eq (q : ServiceRequest) : q.perform = Attempt.follow q.plan := by
  cases q with
  | bluez q => exact q.perform_eq
  | connman q => exact q.perform_eq
  | networkManager q => exact q.perform_eq

end ServiceRequest

end BusCache
