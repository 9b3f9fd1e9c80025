import BusCache.Scalar

/-!
# Wire types — single complete types and their signatures

A wire type describes one value on the bus. Its text is its signature; reading a signature gives
back the type that it describes, and refuses text that is not exactly one complete type.
-/

namespace BusCache

/-- A single complete type of the bus. -/
inductive WireType where
  | basic (type : BasicType)
  /-- A file handle. -/
  | handle
  | variant
  | array (element : WireType)
  | dict (key value : WireType)
  | struct (fields : List WireType)
deriving Inhabited

namespace WireType

/-! ## Text -/

mutual

def chars : WireType → List Char
  | basic t => [t.code]
  | handle => ['h']
  | variant => ['v']
  | array e => 'a' :: chars e
  | dict k v => 'a' :: '\x7b' :: (chars k ++ chars v ++ ['\x7d'])
  | struct fs => '(' :: (charsOfList fs ++ [')'])

def charsOfList : List WireType → List Char
  | [] => []
  | t :: ts => chars t ++ charsOfList ts

end

def text (t : WireType) : String := String.ofList t.chars

/-! ## Reading -/

/-- What is left of some characters after at least one of them was read. -/
abbrev Shorter (cs : List Char) := { rest : List Char // rest.length < cs.length }

def Shorter.closed? {cs : List Char} (rest : Shorter cs) : Option (Shorter cs) :=
  match rest with
  | ⟨'\x7d' :: left, h⟩ => some ⟨left, by simp only [List.length_cons] at h; omega⟩
  | _ => none

/-- The type of one letter, containers apart. -/
def ofCode? : Char → Option WireType
  | 'h' => some handle
  | 'v' => some variant
  | c => (BasicType.ofCode? c).map basic

mutual

/-- Reads one complete type from the front. -/
def read? (cs : List Char) : Option (WireType × Shorter cs) :=
  match cs with
  | [] => none
  | '(' :: rest =>
      match readFields? rest with
      | some ([], _) | none => none
      | some (f :: fs, ⟨left, h⟩) =>
          some (struct (f :: fs), ⟨left, by simp only [List.length_cons]; omega⟩)
  | 'a' :: '\x7b' :: rest =>
      match read? rest with
      | none => none
      | some (k, ⟨afterKey, hk⟩) =>
          match read? afterKey with
          | none => none
          | some (v, afterValue) =>
              afterValue.closed?.map fun left =>
                (dict k v, ⟨left.1, by have := left.2; simp only [List.length_cons]; omega⟩)
  | 'a' :: rest =>
      match read? rest with
      | none => none
      | some (e, ⟨left, h⟩) => some (array e, ⟨left, by simp only [List.length_cons]; omega⟩)
  | c :: rest => (ofCode? c).map fun t => (t, ⟨rest, by simp⟩)
termination_by (cs.length, 0)

/-- Reads the types of a structure up to and with its closing parenthesis. -/
def readFields? (cs : List Char) : Option (List WireType × Shorter cs) :=
  match cs with
  | [] => none
  | ')' :: rest => some ([], ⟨rest, by simp⟩)
  | c :: rest =>
      match read? (c :: rest) with
      | none => none
      | some (t, ⟨after, h⟩) =>
          match readFields? after with
          | none => none
          | some (ts, ⟨left, hl⟩) => some (t :: ts, ⟨left, by omega⟩)
termination_by (cs.length, 1)

end

def readAll? (cs : List Char) : Option (List WireType) :=
  match cs with
  | [] => some []
  | c :: rest =>
      match read? (c :: rest) with
      | none => none
      | some (t, ⟨left, _⟩) => (readAll? left).map (t :: ·)
termination_by cs.length
decreasing_by assumption

/-- The type that a signature describes, if it describes exactly one. -/
def ofText? (signature : String) : Option WireType :=
  match read? signature.toList with
  | some (t, ⟨[], _⟩) => some t
  | _ => none

/-- A signature value: nothing, one complete type, or several types, which are held as the
structure of them. -/
def ofSignature? (signature : String) : Option (Option WireType) :=
  match readAll? signature.toList with
  | none => none
  | some [] => some none
  | some [t] => some (some t)
  | some ts => some (some (struct ts))

def signatureText : Option WireType → String
  | none => ""
  | some t => t.text

/-! ## Equality and order -/

mutual

def beq : WireType → WireType → Bool
  | basic a, basic b => a == b
  | handle, handle => true
  | variant, variant => true
  | array a, array b => beq a b
  | dict k v, dict k' v' => beq k k' && beq v v'
  | struct fs, struct gs => beqList fs gs
  | _, _ => false

def beqList : List WireType → List WireType → Bool
  | [], [] => true
  | a :: as, b :: bs => beq a b && beqList as bs
  | _, _ => false

end

mutual

theorem beq_iff : (a b : WireType) → (beq a b = true ↔ a = b)
  | basic a, b => by cases b <;> simp [beq]
  | handle, b => by cases b <;> simp [beq]
  | variant, b => by cases b <;> simp [beq]
  | array a, b => by cases b <;> simp [beq, beq_iff a]
  | dict k v, b => by cases b <;> simp [beq, beq_iff k, beq_iff v]
  | struct fs, b => by cases b <;> simp [beq, beqList_iff fs]

theorem beqList_iff : (as bs : List WireType) → (beqList as bs = true ↔ as = bs)
  | [], bs => by cases bs <;> simp [beqList]
  | a :: as, bs => by cases bs <;> simp [beqList, beq_iff a, beqList_iff as]

end

instance : DecidableEq WireType := fun a b => decidable_of_iff (beq a b = true) (beq_iff a b)

mutual

/-- The order of signatures as keys: types of one shape compare by their parts, and types of
different shapes are not told apart. -/
def compareKeys : WireType → WireType → Ordering
  | array a, array b => compareKeys a b
  | dict k v, dict k' v' => (compareKeys k k').then (compareKeys v v')
  | struct fs, struct gs => compareKeyLists fs gs
  | _, _ => .eq

def compareKeyLists : List WireType → List WireType → Ordering
  | [], [] => .eq
  | [], _ :: _ => .lt
  | _ :: _, [] => .gt
  | a :: as, b :: bs => (compareKeys a b).then (compareKeyLists as bs)

end

end WireType

end BusCache
