import BusCache.Wire.Type

/-!
# Kinds — the types the cache can hold

A kind is a wire type as the cache sees it: dictionaries are keyed by text whatever the type of
their keys on the wire, and there are no file handles. The text of a kind is the signature that
values of it are sent with, where every dictionary key is a string.
-/

namespace BusCache

/-- The static type of a cached value. -/
inductive Kind where
  | basic (type : BasicType)
  | variant
  | array (element : Kind)
  /-- A dictionary from text to values of one kind. -/
  | dict (value : Kind)
  | struct (fields : List Kind)
deriving Inhabited

namespace Kind

mutual

/-- The wire type that values of a kind are sent as. -/
def toWireType : Kind → WireType
  | basic t => .basic t
  | variant => .variant
  | array e => .array (toWireType e)
  | dict v => .dict (.basic .string) (toWireType v)
  | struct fs => .struct (toWireTypes fs)

def toWireTypes : List Kind → List WireType
  | [] => []
  | k :: ks => toWireType k :: toWireTypes ks

end

def text (k : Kind) : String := k.toWireType.text

/-- Whether a dictionary with keys of this type can be held. -/
def isKeyType : WireType → Bool
  | .basic t => t.isText
  | _ => false

mutual

/-- The kind that values of a wire type are held as, if they can be. -/
def ofWireType? : WireType → Option Kind
  | .basic t => some (basic t)
  | .handle => none
  | .variant => some variant
  | .array e => (ofWireType? e).map array
  | .dict k v => if isKeyType k then (ofWireType? v).map dict else none
  | .struct fs => (ofWireTypes? fs).map struct

def ofWireTypes? : List WireType → Option (List Kind)
  | [] => some []
  | t :: ts =>
      match ofWireType? t, ofWireTypes? ts with
      | some k, some ks => some (k :: ks)
      | _, _ => none

end

/-! ## Equality -/

mutual

def beq : Kind → Kind → Bool
  | basic a, basic b => a == b
  | variant, variant => true
  | array a, array b => beq a b
  | dict a, dict b => beq a b
  | struct fs, struct gs => beqList fs gs
  | _, _ => false

def beqList : List Kind → List Kind → Bool
  | [], [] => true
  | a :: as, b :: bs => beq a b && beqList as bs
  | _, _ => false

end

mutual

theorem beq_iff : (a b : Kind) → (beq a b = true ↔ a = b)
  | basic a, b => by cases b <;> simp [beq]
  | variant, b => by cases b <;> simp [beq]
  | array a, b => by cases b <;> simp [beq, beq_iff a]
  | dict a, b => by cases b <;> simp [beq, beq_iff a]
  | struct fs, b => by cases b <;> simp [beq, beqList_iff fs]

theorem beqList_iff : (as bs : List Kind) → (beqList as bs = true ↔ as = bs)
  | [], bs => by cases bs <;> simp [beqList]
  | a :: as, bs => by cases bs <;> simp [beqList, beq_iff a, beqList_iff as]

end

instance : DecidableEq Kind := fun a b => decidable_of_iff (beq a b = true) (beq_iff a b)

/-! ## Held and sent -/

mutual

/-- A kind is held as it is sent. -/
theorem ofWireType?_toWireType : (k : Kind) → ofWireType? k.toWireType = some k
  | basic _ => rfl
  | variant => rfl
  | array e => by simp [toWireType, ofWireType?, ofWireType?_toWireType e]
  | dict v => by
      simp [toWireType, ofWireType?, ofWireType?_toWireType v, isKeyType, BasicType.isText]
  | struct fs => by simp [toWireType, ofWireType?, ofWireTypes?_toWireTypes fs]

theorem ofWireTypes?_toWireTypes : (ks : List Kind) → ofWireTypes? (toWireTypes ks) = some ks
  | [] => rfl
  | k :: ks => by
      simp [toWireTypes, ofWireTypes?, ofWireType?_toWireType k, ofWireTypes?_toWireTypes ks]

end

end Kind

end BusCache
