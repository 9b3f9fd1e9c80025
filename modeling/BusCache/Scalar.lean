/-!
# Scalars — the values of fixed size and the basic types

The basic types of the bus are the nine types of fixed size and the three types of text: strings,
object paths and signatures. Each has a one-letter code and a name that appears in messages. A
scalar is a value of one of the nine.
-/

namespace BusCache

/-- A double, kept as its 64 bits so that every NaN and both zeros stay what they are. -/
structure Double where
  bits : UInt64
deriving DecidableEq, Inhabited

namespace Double

/-- The bits of the sign and of everything else. -/
def isNegative (d : Double) : Bool := d.bits >>> 63 == 1

def magnitude (d : Double) : UInt64 := d.bits &&& 0x7FFFFFFFFFFFFFFF

/-- A number that is not one: all exponent bits set, and some fraction. -/
def isNaN (d : Double) : Bool := d.magnitude > 0x7FF0000000000000

def isInfinite (d : Double) : Bool := d.magnitude == 0x7FF0000000000000

def isZero (d : Double) : Bool := d.magnitude == 0

/-- Equality of numbers: a NaN equals nothing, and the two zeros equal each other. -/
def sameNumber (a b : Double) : Bool :=
  !a.isNaN && !b.isNaN && (a.bits == b.bits || (a.isZero && b.isZero))

/-- A key that orders all doubles but NaNs as numbers. -/
def orderKey (d : Double) : Int :=
  if d.isNegative then -(d.magnitude.toNat : Int) else d.magnitude.toNat

end Double

/-- The types that need no other type to be described. -/
inductive BasicType where
  | byte | bool | int16 | uint16 | int32 | uint32 | int64 | uint64 | double
  | string | objectPath | signature
deriving DecidableEq, Inhabited

namespace BasicType

def code : BasicType → Char
  | byte => 'y'
  | bool => 'b'
  | int16 => 'n'
  | uint16 => 'q'
  | int32 => 'i'
  | uint32 => 'u'
  | int64 => 'x'
  | uint64 => 't'
  | double => 'd'
  | string => 's'
  | objectPath => 'o'
  | signature => 'g'

def ofCode? : Char → Option BasicType
  | 'y' => some byte
  | 'b' => some bool
  | 'n' => some int16
  | 'q' => some uint16
  | 'i' => some int32
  | 'u' => some uint32
  | 'x' => some int64
  | 't' => some uint64
  | 'd' => some double
  | 's' => some string
  | 'o' => some objectPath
  | 'g' => some signature
  | _ => none

def name : BasicType → String
  | byte => "byte"
  | bool => "bool"
  | int16 => "int16"
  | uint16 => "uint16"
  | int32 => "int32"
  | uint32 => "uint32"
  | int64 => "int64"
  | uint64 => "uint64"
  | double => "double"
  | string => "string"
  | objectPath => "object-path"
  | signature => "signature"

/-- The types whose values are text, and may name the entries of a dictionary. -/
def isText : BasicType → Bool
  | string | objectPath | signature => true
  | _ => false

theorem ofCode?_code (t : BasicType) : ofCode? t.code = some t := by cases t <;> rfl

theorem eq_code_of_ofCode? {c : Char} {t : BasicType} (h : ofCode? c = some t) : c = t.code := by
  unfold ofCode? at h
  split at h <;> simp only [Option.some.injEq, reduceCtorEq] at h <;> subst h <;> rfl

end BasicType

inductive Scalar where
  | byte (n : UInt8)
  | bool (b : Bool)
  | int16 (n : Int16)
  | uint16 (n : UInt16)
  | int32 (n : Int32)
  | uint32 (n : UInt32)
  | int64 (n : Int64)
  | uint64 (n : UInt64)
  | double (d : Double)
deriving DecidableEq, Inhabited

namespace Scalar

def type : Scalar → BasicType
  | byte _ => .byte
  | bool _ => .bool
  | int16 _ => .int16
  | uint16 _ => .uint16
  | int32 _ => .int32
  | uint32 _ => .uint32
  | int64 _ => .int64
  | uint64 _ => .uint64
  | double _ => .double

/-- Equality as values: doubles are compared as numbers. -/
def same : Scalar → Scalar → Bool
  | double a, double b => a.sameNumber b
  | a, b => a == b

end Scalar

end BusCache
