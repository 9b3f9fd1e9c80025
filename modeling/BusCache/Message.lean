import BusCache.Wire.Encode

/-!
# Messages — what goes over the bus

A method call carries arguments, each with the kind it is sent under and whether it is boxed into a
variant. A signal rule names the signals of one object that a subscription delivers. What comes back
are bus events: replies to calls, signals of subscriptions, and changes of a name's owner. Calls and
subscriptions are told apart by identifiers that the transport gives out.
-/

namespace BusCache

structure CallId where
  number : Nat
deriving DecidableEq, Inhabited

namespace CallId

instance : LT CallId := ⟨fun a b => a.number < b.number⟩

instance : DecidableLT CallId := fun a b => inferInstanceAs (Decidable (a.number < b.number))

end CallId

structure SubscriptionId where
  number : Nat
deriving DecidableEq, Inhabited

namespace SubscriptionId

instance : LT SubscriptionId := ⟨fun a b => a.number < b.number⟩

instance : DecidableLT SubscriptionId := fun a b =>
  inferInstanceAs (Decidable (a.number < b.number))

end SubscriptionId

structure Argument where
  value : Value
  kind : Kind
  /-- Whether the encoded value is boxed into a variant. -/
  boxed : Bool := false
deriving Inhabited

namespace Argument

def natural (value : Value) : Argument := ⟨value, value.kind, false⟩

def typed (value : Value) (kind : Kind) : Argument := ⟨value, kind, false⟩

def variant (value : Value) (kind : Kind) : Argument := ⟨value, kind, true⟩

def string (s : String) : Argument := natural (.string s)

def objectPath (path : Path) : Argument := natural (.objectPath path)

def encode (a : Argument) : Except BusError WireValue := do
  let w ← a.value.encode a.kind
  return if a.boxed then .variant w else w

/-- The body of a call with some arguments: nothing without arguments, and else a structure with
one field for each. -/
def encodeBody : List Argument → Except BusError (Option (List WireValue))
  | [] => .ok none
  | args => do return some (← args.mapM encode)

end Argument

namespace WireValue

/-- The arguments that are read from a message with a body. The signature of a body has no outer
parentheses, so a body of one structure reads as the fields of the structure. -/
def bodyArguments : List WireValue → List WireValue
  | [.struct fields] => fields
  | ws => ws

end WireValue

structure MethodCall where
  destination : String
  path : Path
  interface : String
  method : String
  args : List Argument := []
deriving Inhabited

structure SignalRule where
  /-- The name of the sender on the bus. -/
  sender : String
  path : Path
  interface : String
  member : String
deriving DecidableEq, Inhabited

inductive BusEvent where
  /-- A call was answered, failed or was canceled. -/
  | reply (call : CallId) (result : Except BusError (List WireValue))
  | signal (subscription : SubscriptionId) (path : Path) (member : String) (args : List WireValue)
  /-- The owner of a watched name changed; an empty name means nobody. -/
  | ownerChanged (subscription : SubscriptionId) (name oldOwner newOwner : String)

end BusCache
