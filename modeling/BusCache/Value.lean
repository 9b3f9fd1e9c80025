import BusCache.Kind
import BusCache.Table

/-!
# Values — what the cache holds

A value is a scalar, a text, an object path, a list of values or a dictionary from text to values.
Its natural kind is read off its contents: a container whose contents agree in kind is a container
of that kind, and any other, the empty one included, a container of variants. A kind accepts the
values that may be held under it, which are more than those of which it is the natural kind.
-/

namespace BusCache

/-- A value without its static type. -/
inductive Value where
  | scalar (s : Scalar)
  | string (s : String)
  /-- An object path, not necessarily a well-formed one. -/
  | objectPath (path : String)
  | array (items : List Value)
  /-- A dictionary; a `Table`, written out because the type recurs in it. -/
  | dict (entries : List (String × Value))
deriving Inhabited

abbrev Properties := Table String Value

namespace Value

/-! ## Natural kinds -/

/-- The kind of all, if there is one, and variant otherwise. -/
def commonKind : List Kind → Kind
  | [] => .variant
  | k :: ks => if ks.all (· = k) then k else .variant

mutual

def kind : Value → Kind
  | scalar s => .basic s.type
  | string _ => .basic .string
  | objectPath _ => .basic .objectPath
  | array items => .array (commonKind (kinds items))
  | dict entries => .dict (commonKind (entryKinds entries))

def kinds : List Value → List Kind
  | [] => []
  | v :: vs => kind v :: kinds vs

def entryKinds : List (String × Value) → List Kind
  | [] => []
  | (_, v) :: es => kind v :: entryKinds es

end

def typeName : Value → String
  | scalar s => s.type.name
  | string _ => BasicType.string.name
  | objectPath _ => BasicType.objectPath.name
  | array _ => "array"
  | dict _ => "dict"

/-! ## Views -/

def asObjectPath? : Value → Option String
  | objectPath p => some p
  | _ => none

def asString? : Value → Option String
  | string s => some s
  | _ => none

/-- The object paths that a value names: itself, or those among its items. The path `/` names
nothing. -/
def objectPaths : Value → List String
  | objectPath p => if p = "/" then [] else [p]
  | array items => (items.filterMap asObjectPath?).filter (· ≠ "/")
  | _ => []

/-! ## Equality

Two values are the same if they have the same shape and the same contents, where doubles are
compared as numbers. It is not reflexive: no value that holds a NaN is the same as itself. -/

mutual

def same : Value → Value → Bool
  | scalar a, scalar b => a.same b
  | string a, string b => a == b
  | objectPath a, objectPath b => a == b
  | array as, array bs => sameItems as bs
  | dict as, dict bs => sameEntries as bs
  | _, _ => false

def sameItems : List Value → List Value → Bool
  | [], [] => true
  | a :: as, b :: bs => same a b && sameItems as bs
  | _, _ => false

def sameEntries : List (String × Value) → List (String × Value) → Bool
  | [], [] => true
  | (k, a) :: as, (l, b) :: bs => k == l && same a b && sameEntries as bs
  | _, _ => false

end

end Value

/-! ## Acceptance -/

namespace Kind

mutual

/-- Whether a value may be held under a kind. A variant holds any value, a signature is held as
text, and a structure as the array of its fields. -/
def accepts : Kind → Value → Bool
  | variant, _ => true
  | basic t, .scalar s => s.type = t
  | basic t, .string _ => t = .string || t = .signature
  | basic t, .objectPath _ => t = .objectPath
  | array e, .array items => items.all fun v => accepts e v
  | dict e, .dict entries => entries.all fun entry => accepts e entry.2
  | struct fs, .array items => acceptsEach fs items
  | _, _ => false

/-- Whether each kind accepts the value at its place, with none left over on either side. -/
def acceptsEach : List Kind → List Value → Bool
  | [], [] => true
  | k :: ks, v :: vs => accepts k v && acceptsEach ks vs
  | _, _ => false

end

end Kind

end BusCache
