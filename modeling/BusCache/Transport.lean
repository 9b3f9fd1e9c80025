import BusCache.Message

/-!
# Transports — calls and subscriptions over a connection

A transport numbers what it is asked for from one counter and turns what arrives on its connection
into bus events. A call is sent with its arguments encoded, and finishes with the reply, the error
that the peer answered, or its cancellation. A subscription delivers the signals of its rule; a
watch delivers the changes of one name's owner that the bus announces.
-/

namespace BusCache

/-- The name, path and interface of the bus itself. -/
def busName : String := "org.freedesktop.DBus"
def busPath : Path := "/org/freedesktop/DBus"

def busErrors : List String :=
  ["Failed", "NoMemory", "ServiceUnknown", "NameHasNoOwner", "NoReply", "IOError", "BadAddress",
   "NotSupported", "LimitsExceeded", "AccessDenied", "AuthFailed", "NoServer", "Timeout",
   "NoNetwork", "AddressInUse", "Disconnected", "InvalidArgs", "FileNotFound", "FileExists",
   "UnknownMethod", "UnknownObject", "UnknownInterface", "UnknownProperty", "PropertyReadOnly",
   "TimedOut", "MatchRuleNotFound", "MatchRuleInvalid", "Spawn.ExecFailed", "Spawn.ForkFailed",
   "Spawn.ChildExited", "Spawn.ChildSignaled", "Spawn.Failed", "Spawn.FailedToSetup",
   "Spawn.ConfigInvalid", "Spawn.ServiceNotValid", "Spawn.ServiceNotFound",
   "Spawn.PermissionsInvalid", "Spawn.FileInvalid", "Spawn.NoMemory", "UnixProcessIdUnknown",
   "InvalidSignature", "InvalidFileContent", "SELinuxSecurityContextUnknown",
   "AdtAuditDataUnknown", "ObjectPathInUse", "InconsistentMessage",
   "InteractiveAuthorizationRequired", "NotContainer"].map fun name => busName ++ ".Error." ++ name

structure SentCall where
  destination : String
  path : Path
  interface : String
  method : String
  args : List WireValue

structure ArrivedSignal where
  sender : String
  path : Path
  interface : String
  member : String
  args : List WireValue

inductive CallEnd where
  | reply (args : List WireValue)
  | error (name : String) (text : Option String)
  | canceled

inductive Interest where
  | signals (rule : SignalRule)
  | owner (name : String)
deriving DecidableEq, Inhabited

namespace SignalRule

/-- Whether a signal is one that the rule names. Signals carry the unique name of their sender, so
a rule for a well-known name leaves the sender to the bus. -/
def matchesSignal (rule : SignalRule) (s : ArrivedSignal) : Bool :=
  (rule.sender = s.sender || !rule.sender.startsWith ":")
    && rule.path = s.path && rule.interface = s.interface && rule.member = s.member

end SignalRule

namespace MethodCall

def send (c : MethodCall) : Except BusError SentCall := do
  let body ← Argument.encodeBody c.args
  return {
    destination := c.destination
    path := c.path
    interface := c.interface
    method := c.method
    args := WireValue.bodyArguments (body.getD []) }

def ownerQuery (name : String) : MethodCall :=
  { destination := busName
    path := busPath
    interface := busName
    method := "GetNameOwner"
    args := [.string name] }

end MethodCall

namespace CallEnd

def result : CallEnd → Except BusError (List WireValue)
  | reply args => .ok (WireValue.bodyArguments args)
  | error name text => .error (.bus (name ++ ": " ++ text.getD "no details"))
  | canceled => .error .canceled

/-- The same end, of a call of the bus itself: an error that the bus defines always has a text, the
empty one if none came with it. -/
def ofBus : CallEnd → CallEnd
  | error name none => if name ∈ busErrors then error name (some "") else error name none
  | ending => ending

end CallEnd

namespace ArrivedSignal

def ownerChange (name oldOwner newOwner : String) : ArrivedSignal :=
  { sender := busName
    path := busPath
    interface := busName
    member := "NameOwnerChanged"
    args := [.string name, .string oldOwner, .string newOwner] }

def reportTo (s : ArrivedSignal) (id : SubscriptionId) : Interest → Option BusEvent
  | .signals rule =>
      if rule.matchesSignal s then
        some (.signal id s.path rule.member (WireValue.bodyArguments s.args))
      else none
  | .owner name =>
      if s.sender = busName ∧ s.path = busPath ∧ s.interface = busName
          ∧ s.member = "NameOwnerChanged" then
        match s.args with
        | [.string changed, .string oldOwner, .string newOwner] =>
            if changed = name then some (.ownerChanged id name oldOwner newOwner) else none
        | _ => none
      else none

end ArrivedSignal

/-- A transport: how many numbers it gave out, and its active subscriptions. -/
structure Transport where
  issued : Nat := 0
  interests : Table SubscriptionId Interest := []

/-- What became of a call: its number, what was sent, and what is reported in the end. -/
structure CallRecord where
  id : CallId
  sent : Option SentCall
  event : BusEvent

namespace Transport

def next (t : Transport) : Nat × Transport := (t.issued + 1, { t with issued := t.issued + 1 })

/-- Makes a call that ends in a given way. One whose arguments cannot be encoded is not sent. -/
def call (t : Transport) (c : MethodCall) (ending : CallEnd) : CallRecord × Transport :=
  let (number, t) := t.next
  let id : CallId := ⟨number⟩
  match c.send with
  | .ok sent => (⟨id, some sent, .reply id ending.result⟩, t)
  | .error e => (⟨id, none, .reply id (.error e)⟩, t)

def askOwner (t : Transport) (name : String) (ending : CallEnd) : CallRecord × Transport :=
  t.call (.ownerQuery name) ending.ofBus

def subscribe (t : Transport) (interest : Interest) : SubscriptionId × Transport :=
  let (number, t) := t.next
  (⟨number⟩, { t with interests := Table.set t.interests ⟨number⟩ interest })

/-- Ends a subscription; one that is not active stays so. -/
def unsubscribe (t : Transport) (id : SubscriptionId) : Transport :=
  { t with interests := Table.erase t.interests id }

/-- What each active subscription reports of some signals, which arrive one after the other. -/
def deliver (t : Transport) (signals : List ArrivedSignal) :
    List (SubscriptionId × List BusEvent) :=
  t.interests.map fun entry =>
    (entry.1, signals.filterMap fun s => s.reportTo entry.1 entry.2)

end Transport

end BusCache
