import BusCache.Services.Handle

/-!
# Connman — network services

Services, networks that one can connect to, and technologies are below the manager.
-/

namespace BusCache.Connman

def managerInterface : String := "net.connman.Manager"
def serviceInterface : String := "net.connman.Service"
def technologyInterface : String := "net.connman.Technology"

/-- The configuration of the service: services and technologies below the manager. -/
def config : Config :=
  { service := "net.connman"
    rootPath := "/"
    rootInterface := managerInterface
    protocol := .legacy
    children :=
      [⟨managerInterface, "Services", serviceInterface⟩,
       ⟨managerInterface, "Technologies", technologyInterface⟩] }

/-! The kinds of calls of the handles below. -/

namespace Calls

def connect : CallKind := ⟨"service-connect"⟩
def disconnect : CallKind := ⟨"service-disconnect"⟩
def remove : CallKind := ⟨"service-remove"⟩
def clearProperty : CallKind := ⟨"service-clear-property"⟩
def moveBefore : CallKind := ⟨"service-move-before"⟩
def moveAfter : CallKind := ⟨"service-move-after"⟩

end Calls

structure Service where
  path : Path
deriving DecidableEq, Inhabited

namespace Service

def get (s : Session) (path : Path) : Except BusError Service := do
  return ⟨← s.typedPath path serviceInterface⟩

/-! ## Methods -/

def connect (h : Service) (completion : Option Completion) : Attempt Unit :=
  .call h.path Calls.connect "Connect" [] completion

/-- Disconnects, or gives up connecting. -/
def disconnect (h : Service) (completion : Option Completion) : Attempt Unit :=
  .call h.path Calls.disconnect "Disconnect" [] completion

/-- Forgets what is stored about the service. -/
def remove (h : Service) (completion : Option Completion) : Attempt Unit :=
  .call h.path Calls.remove "Remove" [] completion

def clearProperty (h : Service) (property : String) (completion : Option Completion) :
    Attempt Unit :=
  .call h.path Calls.clearProperty "ClearProperty" [.string property] completion

/-- Moves the service before another one in the list of favorites. -/
def moveBefore (h : Service) (other : Path) (completion : Option Completion) : Attempt Unit :=
  .call h.path Calls.moveBefore "MoveBefore" [.objectPath other] completion

/-- Moves the service after another one in the list of favorites. -/
def moveAfter (h : Service) (other : Path) (completion : Option Completion) : Attempt Unit :=
  .call h.path Calls.moveAfter "MoveAfter" [.objectPath other] completion

/-! ## Properties -/

def state (h : Service) (s : Session) : Except BusError String :=
  s.propertyAs .string h.path "State"

def error (h : Service) (s : Session) : Except BusError String :=
  s.propertyAs .string h.path "Error"

def name (h : Service) (s : Session) : Except BusError String :=
  s.propertyAs .string h.path "Name"

def kind (h : Service) (s : Session) : Except BusError String :=
  s.propertyAs .string h.path "Type"

def mode (h : Service) (s : Session) : Except BusError String :=
  s.propertyAs .string h.path "Mode"

def security (h : Service) (s : Session) : Except BusError String :=
  s.propertyAs .string h.path "Security"

def passphrase (h : Service) (s : Session) : Except BusError String :=
  s.propertyAs .string h.path "Passphrase"

def setPassphrase (h : Service) (text : String) (completion : Option Completion) : Attempt Unit :=
  .setText h.path "Passphrase" text completion

def passphraseRequired (h : Service) (s : Session) : Except BusError Bool :=
  s.propertyAs .bool h.path "PassphraseRequired"

/-- The strength of the signal in percent. -/
def strength (h : Service) (s : Session) : Except BusError UInt8 :=
  s.propertyAs .byte h.path "Strength"

def favorite (h : Service) (s : Session) : Except BusError Bool :=
  s.propertyAs .bool h.path "Favorite"

def immutable (h : Service) (s : Session) : Except BusError Bool :=
  s.propertyAs .bool h.path "Immutable"

def autoConnect (h : Service) (s : Session) : Except BusError Bool :=
  s.propertyAs .bool h.path "AutoConnect"

def setAutoConnect (h : Service) (on : Bool) (completion : Option Completion) : Attempt Unit :=
  .setFlag h.path "AutoConnect" on completion

def setupRequired (h : Service) (s : Session) : Except BusError Bool :=
  s.propertyAs .bool h.path "SetupRequired"

/-- The access point name of a cellular service. -/
def accessPointName (h : Service) (s : Session) : Except BusError String :=
  s.propertyAs .string h.path "APN"

def setAccessPointName (h : Service) (text : String) (completion : Option Completion) :
    Attempt Unit :=
  .setText h.path "APN" text completion

def countryCode (h : Service) (s : Session) : Except BusError String :=
  s.propertyAs .string h.path "MCC"

def networkCode (h : Service) (s : Session) : Except BusError String :=
  s.propertyAs .string h.path "MNC"

def roaming (h : Service) (s : Session) : Except BusError Bool :=
  s.propertyAs .bool h.path "Roaming"

def ipv4Method (h : Service) (s : Session) : Except BusError String :=
  s.propertyAs .string h.path "IPv4.Method"

def ipv4Address (h : Service) (s : Session) : Except BusError String :=
  s.propertyAs .string h.path "IPv4.Address"

end Service

end BusCache.Connman
