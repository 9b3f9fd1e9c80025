import BusCache.Error
import BusCache.Value

/-!
# Readers — values by type

A reader takes out of a value what it holds if it has the wanted tag. Nothing is converted: an
unsigned number is never read as a signed one, nor a narrow one as a wide one.
-/

namespace BusCache

structure Reader (α : Type) where
  /-- What the reader wants, in messages. -/
  expected : String
  read? : Value → Option α

namespace Reader

variable {α : Type}

def read (r : Reader α) (v : Value) : Except BusError α :=
  match r.read? v with
  | some a => .ok a
  | none => .error (.typeMismatch r.expected v.typeName)

def items (expected : String) (read? : Value → Option α) : Reader (List α) where
  expected := expected
  read?
    | .array vs => vs.mapM read?
    | _ => none

def bool : Reader Bool where
  expected := "bool"
  read?
    | .scalar (.bool b) => some b
    | _ => none

def byte : Reader UInt8 where
  expected := "byte"
  read?
    | .scalar (.byte n) => some n
    | _ => none

def int16 : Reader Int16 where
  expected := "int16"
  read?
    | .scalar (.int16 n) => some n
    | _ => none

def uint16 : Reader UInt16 where
  expected := "uint16"
  read?
    | .scalar (.uint16 n) => some n
    | _ => none

def int32 : Reader Int32 where
  expected := "int32"
  read?
    | .scalar (.int32 n) => some n
    | _ => none

def uint32 : Reader UInt32 where
  expected := "uint32"
  read?
    | .scalar (.uint32 n) => some n
    | _ => none

def int64 : Reader Int64 where
  expected := "int64"
  read?
    | .scalar (.int64 n) => some n
    | _ => none

def uint64 : Reader UInt64 where
  expected := "uint64"
  read?
    | .scalar (.uint64 n) => some n
    | _ => none

def double : Reader Double where
  expected := "double"
  read?
    | .scalar (.double d) => some d
    | _ => none

def string : Reader String where
  expected := "string"
  read? := Value.asString?

def objectPath : Reader Path where
  expected := "object-path"
  read? v := v.asObjectPath?.filter Path.isWellFormed

def array : Reader (List Value) where
  expected := "array"
  read?
    | .array vs => some vs
    | _ => none

def dict : Reader Properties where
  expected := "dict"
  read?
    | .dict entries => some entries
    | _ => none

def strings : Reader (List String) := items "array of strings" string.read?

def objectPaths : Reader (List Path) := items "array of object paths" objectPath.read?

end Reader

end BusCache
