import BusCache.Services.Bluez
import BusCache.Services.Connman
import BusCache.Services.NetworkManager

/-!
# Options — the command line of the monitor

The monitor takes the name of a service, `--session` for the session bus, and `--depth` with the
number of levels to follow. Arguments are read from left to right. A value is held back until the
next argument is taken in, and checked then; an argument that is not known is refused even while a
value that would be refused is held back.
-/

namespace BusCache.Monitor

inductive Service where
  | bluez | connman | networkManager
deriving DecidableEq, Inhabited

namespace Service

def ofName? : String → Option Service
  | "bluez" => some bluez
  | "connman" => some connman
  | "nm" => some networkManager
  | _ => none

def config : Service → Config
  | bluez => Bluez.config
  | connman => Connman.config
  | networkManager => NetworkManager.config

end Service

structure Options where
  service : Service := .bluez
  bus : Bus := .system
  depth : Option UInt8 := none
deriving DecidableEq, Inhabited

def Options.config (o : Options) : Config :=
  match o.depth with
  | some depth => o.service.config.withMaxDepth depth
  | none => o.service.config

inductive Refusal where
  /-- A value that is not among the allowed ones, or a missing one. -/
  | invalidValue
  | unreadableValue
  | unknownArgument
  | repeatedOption
  | unneededValue
  /-- Not a fault: the user asks for help. -/
  | helpAsked
  /-- Not a fault: the user asks for the version. -/
  | versionAsked
deriving DecidableEq, Inhabited

inductive Pending where
  | service (name : String)
  /-- A depth, if there was an argument for it. -/
  | depth (text : Option String)

structure Reading where
  service : Option Service := none
  serviceGiven : Bool := false
  session : Bool := false
  depth : Option UInt8 := none
  pending : Option Pending := none
  /-- Whether only the name of a service may follow. -/
  escaped : Bool := false

/-- The number of some decimal digits, at least one. -/
def digitsValue? (cs : List Char) : Option Nat :=
  if cs.isEmpty || !cs.all Char.isDigit then none
  else some (cs.foldl (fun n c => 10 * n + (c.toNat - '0'.toNat)) 0)

/-- A whole number, which may have a sign. -/
def wholeNumber? (text : String) : Option Int :=
  match text.toList with
  | '-' :: cs => (digitsValue? cs).map fun n => -(n : Int)
  | '+' :: cs => (digitsValue? cs).map fun n => (n : Int)
  | cs => (digitsValue? cs).map fun n => (n : Int)

def readDepth (text : String) : Except Refusal UInt8 :=
  match wholeNumber? text with
  | some (.ofNat n) => if n < 256 then .ok (UInt8.ofNat n) else .error .unreadableValue
  | _ => .error .unreadableValue

namespace Reading

def takeDepth (r : Reading) (text : String) : Except Refusal Reading := do
  if r.depth.isSome then
    throw .repeatedOption
  return { r with depth := some (← readDepth text) }

/-- Takes in the value that is held back. -/
def settle (r : Reading) : Except Refusal Reading :=
  let free := { r with pending := none }
  match r.pending with
  | none => .ok r
  | some (.service name) =>
      match Service.ofName? name with
      | some service => .ok { free with service := some service }
      | none => .error .invalidValue
  | some (.depth none) => .error .invalidValue
  | some (.depth (some text)) => free.takeDepth text

/-- Reads an option that starts with two dashes, given without them, and the value behind its
equals sign. -/
def long (r : Reading) (name : String) (value : Option String) : Except Refusal Reading :=
  match name, value with
  | "help", none => do let _ ← r.settle; throw .helpAsked
  | "version", none => do let _ ← r.settle; throw .versionAsked
  | "session", none => do
      let r ← r.settle
      if r.session then throw .repeatedOption
      return { r with session := true }
  | "depth", none => do return { (← r.settle) with pending := some (.depth none) }
  | "depth", some text => do (← r.settle).takeDepth text
  | "help", some _ | "version", some _ | "session", some _ => .error .unneededValue
  | _, _ => .error .unknownArgument

def short (r : Reading) (letters : List Char) : Except Refusal Reading :=
  match letters with
  | 'h' :: _ => do let _ ← r.settle; throw .helpAsked
  | 'V' :: _ => do let _ ← r.settle; throw .versionAsked
  | _ => .error .unknownArgument

def positional (r : Reading) (name : String) : Except Refusal Reading :=
  if r.serviceGiven then .error .unknownArgument
  else do return { (← r.settle) with serviceGiven := true, pending := some (.service name) }

def splitOption (cs : List Char) : String × Option String :=
  (String.ofList (cs.takeWhile (· ≠ '=')),
    match cs.dropWhile (· ≠ '=') with
    | '=' :: value => some (String.ofList value)
    | _ => none)

def argument (r : Reading) (arg : String) : Except Refusal Reading :=
  if r.escaped then r.positional arg
  else
    match arg.toList with
    | ['-', '-'] => .ok { r with escaped := true }
    | '-' :: '-' :: cs => let (name, value) := splitOption cs; r.long name value
    | '-' :: c :: cs => r.short (c :: cs)
    | _ =>
        match r.pending with
        | some (.depth none) => .ok { r with pending := some (.depth (some arg)) }
        | _ => r.positional arg

end Reading

/-- What a command line asks for, the name of the program apart. -/
def Options.read (args : List String) : Except Refusal Options := do
  let r ← args.foldlM Reading.argument {}
  let r ← r.settle
  return {
    service := r.service.getD .bluez
    bus := if r.session then .session else .system
    depth := r.depth }

end BusCache.Monitor
