import BusCache.PropertyProtocol
import BusCache.Session.Run

/-!
# Calls — what is asked of the service for an element

A call is sent only while the service has an owner, for a registered element, and if no call of its
kind is under way there. The first fetch of an element's properties also subscribes to their
changes. A property is written under the kind it was last received with, or under a given one; the
cache changes only when the service announces the change.
-/

namespace BusCache

namespace Attempt

/-- Sends a call for an element if it is admitted. -/
def startCall (path : Path) (kind : CallKind) (purpose : CallPurpose)
    (completion : Option Completion) (build : Element → String → MethodCall) : Attempt Unit := do
  check Session.ensurePresent
  let e ← check fun s => s.element path
  check fun _ => Session.ensureAdmissible path e kind
  perform fun r => r.sendCall path kind purpose completion (build e r.session.destination)

/-- Calls a method of the element's own interface. -/
def call (path : Path) (kind : CallKind) (method : String) (args : List Argument)
    (completion : Option Completion) : Attempt Unit :=
  startCall path kind .call completion fun e destination =>
    { destination, path, interface := e.interface, method, args }

/-- Calls a method of another interface of the same object. -/
def callOn (path : Path) (interface : String) (kind : CallKind) (method : String)
    (args : List Argument) (completion : Option Completion) : Attempt Unit :=
  startCall path kind .call completion fun _ destination =>
    { destination, path, interface, method, args }

/-- Writes a property under a given kind, which has to fit the value. -/
def setPropertyAs (path : Path) (name : String) (value : Value) (kind : Kind)
    (completion : Option Completion) : Attempt Unit := do
  let _ ← check fun _ => value.encode kind
  let config ← check fun s => .ok s.config
  startCall path .propertySet .call completion fun e destination =>
    config.protocol.write destination path e.interface name value kind

/-- Writes a property under the kind it was last received with. -/
def setProperty (path : Path) (name : String) (value : Value) (completion : Option Completion) :
    Attempt Unit := do
  let e ← check fun s => s.element path
  let kind ← check fun _ => e.signature name
  setPropertyAs path name value kind completion

/-- Subscribes to a signal of a registered element unless one of its name is subscribed to. -/
def openUnlessHeld (path : Path) (rule : Session → Element → SignalRule) (route : SignalRoute) :
    Attempt Unit := do
  check Session.ensurePresent
  let e ← check fun s => s.element path
  perform fun r =>
    let rule := rule r.session e
    if e.hasSubscription rule.member then r else r.openSubscription path rule route

def subscribeChanges (path : Path) : Attempt Unit := do
  let config ← check fun s => .ok s.config
  let route := match config.protocol with
    | .legacy => SignalRoute.propertyChanged path
    | .freedesktop => SignalRoute.propertiesChanged path
  openUnlessHeld path (fun s e => s.config.protocol.changes s.destination path e.interface) route

/-- Asks for a signal of an element to be forwarded as events. -/
def subscribeSignal (path : Path) (interface member : String) : Attempt Unit :=
  openUnlessHeld path (fun s _ => { sender := s.destination, path, interface, member })
    (.forward path)

/-- Fetches the properties of an element, and subscribes to their changes before. -/
def sync (path : Path) (completion : Option Completion) : Attempt Unit := do
  let e ← check fun s => s.element path
  check fun _ => Session.ensureAdmissible path e .propertiesGet
  subscribeChanges path
  let config ← check fun s => .ok s.config
  startCall path .propertiesGet .sync completion fun e destination =>
    config.protocol.fetch destination path e.interface

def syncRoot : Attempt Unit := do
  check Session.ensurePresent
  let config ← check fun s => .ok s.config
  sync config.rootPath none

end Attempt

end BusCache
