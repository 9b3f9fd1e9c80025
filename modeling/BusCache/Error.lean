import BusCache.ObjectPath

/-!
# Errors

What can go wrong, as causes. The text of a cause is its `message`.
-/

namespace BusCache

/-- The purpose of a method call on an element, which has at most one call of each kind under
way. -/
structure CallKind where
  name : String
deriving DecidableEq, Inhabited

namespace CallKind

def propertiesGet : CallKind := ⟨"properties-get"⟩

def propertySet : CallKind := ⟨"property-set"⟩

instance : LT CallKind := ⟨fun a b => a.name < b.name⟩

instance : DecidableLT CallKind := fun a b => inferInstanceAs (Decidable (a.name < b.name))

end CallKind

inductive BusError where
  /-- The peer answered with an error, or the message was refused. -/
  | bus (text : String)
  | codec (text : String)
  | transport (text : String)
  | typeMismatch (expected found : String)
  | signatureMismatch (expected found : String)
  /-- A signature is malformed, or values of it cannot be held or sent. -/
  | unsupportedSignature (signature : String)
  | notFound (name : String)
  | alreadyPending (path : Path) (kind : CallKind)
  /-- Nothing is registered under the path, or nobody owns the service. -/
  | staleReference (name : String)
  | canceled
deriving DecidableEq, Inhabited

namespace BusError

def message : BusError → String
  | bus text => "D-Bus error: " ++ text
  | codec text => "wire codec error: " ++ text
  | transport text => "transport error: " ++ text
  | typeMismatch expected found => "type mismatch: expected " ++ expected ++ ", found " ++ found
  | signatureMismatch expected found =>
      "signature mismatch: expected " ++ expected ++ ", found " ++ found
  | unsupportedSignature signature => "unsupported signature: " ++ signature
  | notFound name => "property not found: " ++ name
  | alreadyPending path kind => kind.name ++ " already pending on " ++ path
  | staleReference name => "stale reference: " ++ name
  | canceled => "call canceled"

/-- A second copy of an error. What came from the bus or the codec is kept as text only, as a
failure of the transport. -/
def copy : BusError → BusError
  | bus text => transport text
  | codec text => transport text
  | e => e

end BusError

end BusCache
