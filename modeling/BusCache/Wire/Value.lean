import BusCache.ObjectPath
import BusCache.Wire.Type

/-!
# Wire values — values as they travel

A wire value carries its type: containers declare the types of their contents, so the type of an
empty array is known. A dictionary is kept in the order of its keys, which is the order it is read
in.
-/

namespace BusCache

inductive WireValue where
  | scalar (s : Scalar)
  | string (s : String)
  /-- A well-formed object path. -/
  | objectPath (path : Path)
  /-- A signature of no type, of one or of several; see `WireType.ofSignature?`. -/
  | signature (type : Option WireType)
  | variant (inner : WireValue)
  | array (element : WireType) (items : List WireValue)
  | dict (key value : WireType) (entries : List (WireValue × WireValue))
  | struct (fields : List WireValue)
  | handle (number : Nat)
deriving Inhabited

namespace WireValue

mutual

def type : WireValue → WireType
  | scalar s => .basic s.type
  | string _ => .basic .string
  | objectPath _ => .basic .objectPath
  | signature _ => .basic .signature
  | variant _ => .variant
  | array e _ => .array e
  | dict k v _ => .dict k v
  | struct fs => .struct (types fs)
  | handle _ => .handle

def types : List WireValue → List WireType
  | [] => []
  | w :: ws => type w :: types ws

end

def typeText (w : WireValue) : String := w.type.text

/-! ## The order of keys

Keys of one type compare by their contents: numbers by size, texts by their characters, containers
item by item. Keys of different types, which only dictionaries keyed by variants have, compare by
type. -/

def typeRank : WireValue → Nat
  | scalar (.byte _) => 0
  | scalar (.bool _) => 1
  | scalar (.int16 _) => 2
  | scalar (.uint16 _) => 3
  | scalar (.int32 _) => 4
  | scalar (.uint32 _) => 5
  | scalar (.int64 _) => 6
  | scalar (.uint64 _) => 7
  | scalar (.double _) => 8
  | string _ => 9
  | signature _ => 10
  | objectPath _ => 11
  | variant _ => 12
  | array _ _ => 13
  | dict _ _ _ => 14
  | struct _ => 15
  | handle _ => 16

/-- Doubles compare as numbers; one that is not a number compares by its bits. -/
def compareDoubles (a b : Double) : Ordering :=
  if a.sameNumber b then .eq else compare a.orderKey b.orderKey

def compareScalars : Scalar → Scalar → Ordering
  | .byte a, .byte b => compare a b
  | .bool a, .bool b => compare a b
  | .int16 a, .int16 b => compare a b
  | .uint16 a, .uint16 b => compare a b
  | .int32 a, .int32 b => compare a b
  | .uint32 a, .uint32 b => compare a b
  | .int64 a, .int64 b => compare a b
  | .uint64 a, .uint64 b => compare a b
  | .double a, .double b => compareDoubles a b
  | _, _ => .eq

/-- An empty signature is told apart from no other. -/
def compareSignatures : Option WireType → Option WireType → Ordering
  | some a, some b => a.compareKeys b
  | _, _ => .eq

mutual

def compareKeys : WireValue → WireValue → Ordering
  | scalar a, scalar b =>
      (compare (typeRank (scalar a)) (typeRank (scalar b))).then (compareScalars a b)
  | string a, string b => compare a b
  | objectPath a, objectPath b => compare a b
  | signature a, signature b => compareSignatures a b
  | variant a, variant b => compareKeys a b
  | array _ as, array _ bs => compareKeyLists as bs
  | dict _ _ as, dict _ _ bs => compareEntryLists as bs
  | struct as, struct bs => compareKeyLists as bs
  | handle a, handle b => compare a b
  | a, b => compare a.typeRank b.typeRank

def compareKeyLists : List WireValue → List WireValue → Ordering
  | [], [] => .eq
  | [], _ :: _ => .lt
  | _ :: _, [] => .gt
  | a :: as, b :: bs => (compareKeys a b).then (compareKeyLists as bs)

def compareEntryLists : List (WireValue × WireValue) → List (WireValue × WireValue) → Ordering
  | [], [] => .eq
  | [], _ :: _ => .lt
  | _ :: _, [] => .gt
  | (k, v) :: as, (l, w) :: bs =>
      ((compareKeys k l).then (compareKeys v w)).then (compareEntryLists as bs)

end

/-- Adds an entry at its place; a key that is there already stays and takes the new value. -/
def insertEntry (key value : WireValue) :
    List (WireValue × WireValue) → List (WireValue × WireValue)
  | [] => [(key, value)]
  | (k, v) :: rest =>
      match compareKeys key k with
      | .lt => (key, value) :: (k, v) :: rest
      | .eq => (k, value) :: rest
      | .gt => (k, v) :: insertEntry key value rest

/-- A dictionary of entries in any order; the last entry of a key counts. -/
def dictOf (key value : WireType) (entries : List (WireValue × WireValue)) : WireValue :=
  .dict key value (entries.foldl (fun es e => insertEntry e.1 e.2 es) [])

/-! ## Well-formed values -/

mutual

/-- Whether containers hold what they declare and every object path is well-formed. -/
def isWellFormed : WireValue → Bool
  | scalar _ => true
  | string _ => true
  | objectPath p => Path.isWellFormed p
  | signature _ => true
  | variant w => isWellFormed w
  | array e items => items.all (fun w => w.type = e) && allWellFormed items
  | dict k v entries =>
      entries.all (fun e => e.1.type = k && e.2.type = v) && entriesWellFormed entries
  | struct fs => !fs.isEmpty && allWellFormed fs
  | handle _ => true

def allWellFormed : List WireValue → Bool
  | [] => true
  | w :: ws => isWellFormed w && allWellFormed ws

def entriesWellFormed : List (WireValue × WireValue) → Bool
  | [] => true
  | (k, v) :: es => isWellFormed k && isWellFormed v && entriesWellFormed es

end

end WireValue

end BusCache
