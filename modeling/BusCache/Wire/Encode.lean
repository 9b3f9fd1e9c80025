import BusCache.Error
import BusCache.Text.Quoted
import BusCache.Value
import BusCache.Wire.Value

/-!
# Encoding — from values to wire values

A value is encoded for a target of some kind. The kind has to accept the value, which is checked
once and at the start. A target of variant kind takes the value under its natural kind. Scalars and
texts can be sent, arrays of them, dictionaries of strings, and arrays and dictionaries of variants,
whose contents are boxed one by one under their natural kinds; nothing else can.
-/

namespace BusCache

namespace Value

private def unsupported {α : Type} (k : Kind) : Except BusError α :=
  .error (.unsupportedSignature k.text)

/-- An object path on the wire, where it has to be well-formed. -/
def encodePath (path : Path) : Except BusError WireValue :=
  if path.isWellFormed then .ok (.objectPath path)
  else .error (.typeMismatch BasicType.objectPath.name ("malformed path " ++ Text.quoted path))

/-- An item of an array whose items are of one basic type. -/
def encodeBasic (t : BasicType) (v : Value) : Except BusError WireValue :=
  match t, v with
  | .objectPath, v => encodePath (v.asObjectPath?.getD "")
  | .string, string s => .ok (.string s)
  | t, scalar s =>
      if s.type = t then .ok (.scalar s) else .error (.typeMismatch t.name s.type.name)
  | t, v => .error (.typeMismatch t.name v.typeName)

/-- An array whose items are of one kind other than variant. -/
def encodeArray (element : Kind) (items : List Value) : Except BusError WireValue :=
  match element with
  | .basic .signature => unsupported (.array element)
  | .basic t => do return .array (.basic t) (← items.mapM (encodeBasic t))
  | _ => unsupported (.array element)

/-- A dictionary whose values are of one kind other than variant. -/
def encodeDict (value : Kind) (entries : List (String × Value)) : Except BusError WireValue :=
  match value with
  | .basic .string => do
      let encoded ← entries.mapM fun e => do
        return (WireValue.string e.1, ← encodeBasic .string e.2)
      return .dict (.basic .string) (.basic .string) encoded
  | _ => unsupported (.dict value)

def variantArray (items : List WireValue) : WireValue :=
  .array .variant (items.map .variant)

def variantDict (entries : List (String × WireValue)) : WireValue :=
  .dict (.basic .string) .variant (entries.map fun e => (.string e.1, .variant e.2))

mutual

/-- The value on the wire under its natural kind. -/
def encodeNatural : Value → Except BusError WireValue
  | scalar s => .ok (.scalar s)
  | string s => .ok (.string s)
  | objectPath p => encodePath p
  | array items =>
      match commonKind (kinds items) with
      | .variant => do return variantArray (← encodeItems items)
      | element => encodeArray element items
  | dict entries =>
      match commonKind (entryKinds entries) with
      | .variant => do return variantDict (← encodeEntries entries)
      | value => encodeDict value entries

def encodeItems : List Value → Except BusError (List WireValue)
  | [] => .ok []
  | v :: vs => do
      let w ← encodeNatural v
      let ws ← encodeItems vs
      return w :: ws

def encodeEntries : List (String × Value) → Except BusError (List (String × WireValue))
  | [] => .ok []
  | (k, v) :: es => do
      let w ← encodeNatural v
      let rest ← encodeEntries es
      return (k, w) :: rest

end

def encodeAccepted (v : Value) (kind : Kind) : Except BusError WireValue :=
  match kind, v with
  | .variant, v => encodeNatural v
  | .struct _, _ => unsupported kind
  | .basic .signature, _ => unsupported kind
  | _, scalar s => .ok (.scalar s)
  | _, string s => .ok (.string s)
  | _, objectPath p => encodePath p
  | .array .variant, array items => do return variantArray (← encodeItems items)
  | .array element, array items => encodeArray element items
  | .dict .variant, dict entries => do return variantDict (← encodeEntries entries)
  | .dict value, dict entries => encodeDict value entries
  | _, _ => .error (.signatureMismatch kind.text v.kind.text)

def encode (v : Value) (kind : Kind) : Except BusError WireValue :=
  if kind.accepts v then encodeAccepted v kind
  else .error (.signatureMismatch kind.text v.kind.text)

end Value

end BusCache
