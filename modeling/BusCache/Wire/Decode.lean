import BusCache.Signature
import BusCache.Value
import BusCache.Wire.Value

/-!
# Decoding — from wire values to cached values

A wire value is decoded as a whole or not at all. Variants are looked through, structures become
arrays of their fields, and every dictionary key has to be a text. What cannot be held, a file
handle or a dictionary with other keys, is an error, and the first one met decides.

A property is decoded together with the kind it travelled under, so that it can later be written
back under the same signature.
-/

namespace BusCache

structure Property where
  value : Value
  kind : Kind
deriving Inhabited

abbrev Cache := Table String Property

namespace Cache

def properties (c : Cache) : Properties := Table.mapValues Property.value c

end Cache

namespace WireValue

/-- The text of a dictionary key. Variants are looked through. -/
def keyText : WireValue → Except BusError String
  | string s => .ok s
  | objectPath p => .ok p
  | signature t => .ok (WireType.signatureText t)
  | variant w => keyText w
  | w => .error (.typeMismatch "string dictionary key" w.typeText)

mutual

def decode : WireValue → Except BusError Value
  | scalar s => .ok (.scalar s)
  | string s => .ok (.string s)
  | objectPath p => .ok (.objectPath p)
  | signature t => .ok (.string (WireType.signatureText t))
  | variant w => decode w
  | array _ items => do return .array (← decodeAll items)
  | dict _ _ entries => do return .dict (← decodeEntries entries [])
  | struct fs => do return .array (← decodeAll fs)
  | handle n => .error (.typeMismatch "representable value" (typeText (handle n)))

def decodeAll : List WireValue → Except BusError (List Value)
  | [] => .ok []
  | w :: ws => do
      let v ← decode w
      let vs ← decodeAll ws
      return v :: vs

def decodeEntries : List (WireValue × WireValue) → List (String × Value) →
    Except BusError (List (String × Value))
  | [], into => .ok into
  | (k, w) :: es, into => do
      let key ← keyText k
      let value ← decode w
      decodeEntries es (Table.set into key value)

end

/-- The value with the kind it travelled under, the outer variants apart. -/
def decodeTyped : WireValue → Except BusError Property
  | variant w => decodeTyped w
  | w =>
      match Kind.ofWireType? w.type with
      | none => .error (.unsupportedSignature w.typeText)
      | some kind => do return ⟨← decode w, kind⟩

def decodePropertyEntries : List (WireValue × WireValue) → Cache → Except BusError Cache
  | [], into => .ok into
  | (k, w) :: es, into => do
      let key ← keyText k
      let property ← decodeTyped w
      decodePropertyEntries es (Table.set into key property)

def decodeProperties : WireValue → Except BusError Cache
  | dict _ _ entries => decodePropertyEntries entries []
  | w => .error (.typeMismatch "a\x7bsv\x7d" w.typeText)

/-- The properties in a reply that has them as its first argument. -/
def propertiesOfReply : List WireValue → Except BusError Cache
  | w :: _ => decodeProperties w
  | [] => .error (.typeMismatch "a\x7bsv\x7d" "empty reply")

/-- The value of a wire value, provided that a kind accepts it. -/
def decodeAs (w : WireValue) (expected : Kind) : Except BusError Value := do
  let v ← decode w
  if expected.accepts v then
    return v
  throw (.typeMismatch expected.text v.kind.text)

end WireValue

namespace Properties

def ofReply : List Value → Except BusError Properties
  | .dict entries :: _ => .ok entries
  | v :: _ => .error (.typeMismatch "a\x7bsv\x7d" v.kind.text)
  | [] => .error (.typeMismatch "a\x7bsv\x7d" "empty reply")

end Properties

end BusCache
