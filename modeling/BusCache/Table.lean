/-!
# Tables — finite maps as lists of entries in key order

Everything the cache looks up by name or by number is a table: the entries of a dictionary, the
properties of an element, the elements of a session, the routes of its messages. A table is a plain
list of entries, so it can stand inside an inductive type; writing keeps the keys in ascending
order, which makes two tables with the same content equal.
-/

namespace BusCache

/-- A finite map, one entry for each key, in ascending order of the keys. -/
abbrev Table (κ α : Type) := List (κ × α)

namespace Table

variable {κ α β : Type}

section Lookup

variable [DecidableEq κ]

def get? : Table κ α → κ → Option α
  | [], _ => none
  | (k, v) :: rest, key => if k = key then some v else get? rest key

def contains (t : Table κ α) (key : κ) : Bool := (get? t key).isSome

/-- What is stored under keys, in their order. -/
def getAll (t : Table κ α) (keys : List κ) : List α := keys.filterMap (get? t)

def erase (t : Table κ α) (key : κ) : Table κ α := t.filter fun e => e.1 ≠ key

def eraseAll (t : Table κ α) (keys : List κ) : Table κ α := keys.foldl erase t

/-- Changes what is stored under a key, if anything is. -/
def modify (t : Table κ α) (key : κ) (f : α → α) : Table κ α :=
  t.map fun e => if e.1 = key then (e.1, f e.2) else e

end Lookup

def keys (t : Table κ α) : List κ := t.map Prod.fst

def mapValues (f : α → β) (t : Table κ α) : Table κ β := t.map fun e => (e.1, f e.2)

section Writing

variable [DecidableEq κ] [LT κ] [DecidableLT κ]

def set : Table κ α → κ → α → Table κ α
  | [], key, value => [(key, value)]
  | (k, v) :: rest, key, value =>
      if k = key then (key, value) :: rest
      else if key < k then (key, value) :: (k, v) :: rest
      else (k, v) :: set rest key value

/-- The table of a list of entries; the last entry of a key counts. -/
def ofList (entries : List (κ × α)) : Table κ α :=
  entries.foldl (fun t e => set t e.1 e.2) []

end Writing

/-! ## Reading after writing -/

section Laws

variable [DecidableEq κ]

@[simp] theorem get?_nil (key : κ) : get? ([] : Table κ α) key = none := rfl

theorem get?_cons (k : κ) (v : α) (rest : Table κ α) (key : κ) :
    get? ((k, v) :: rest) key = if k = key then some v else get? rest key := rfl

variable [LT κ] [DecidableLT κ]

@[simp] theorem get?_set_self (t : Table κ α) (key : κ) (value : α) :
    get? (set t key value) key = some value := by
  induction t with
  | nil => simp [set, get?_cons]
  | cons e rest ih =>
    obtain ⟨k, v⟩ := e
    by_cases h : k = key
    · simp [set, h, get?_cons]
    · by_cases l : key < k
      · simp [set, h, l, get?_cons]
      · simp [set, h, l, get?_cons, ih]

theorem get?_set_of_ne (t : Table κ α) {key other : κ} (value : α) (ne : other ≠ key) :
    get? (set t key value) other = get? t other := by
  induction t with
  | nil => simp [set, get?_cons, Ne.symm ne]
  | cons e rest ih =>
    obtain ⟨k, v⟩ := e
    by_cases h : k = key
    · subst h
      simp [set, get?_cons, Ne.symm ne]
    · by_cases l : key < k
      · simp [set, h, l, get?_cons, Ne.symm ne]
      · simp [set, h, l, get?_cons, ih]

theorem get?_set (t : Table κ α) (key other : κ) (value : α) :
    get? (set t key value) other = if other = key then some value else get? t other := by
  by_cases h : other = key
  · subst h
    simp
  · simp [h, get?_set_of_ne t value h]

omit [LT κ] [DecidableLT κ] in
theorem get?_erase (t : Table κ α) (key other : κ) :
    get? (erase t key) other = if other = key then none else get? t other := by
  induction t with
  | nil => simp [erase]
  | cons e rest ih =>
    obtain ⟨k, v⟩ := e
    simp only [erase, ne_eq, decide_not] at ih ⊢
    by_cases h : k = key
    · subst h
      by_cases o : other = k
      · subst o
        simpa using ih
      · simpa [get?_cons, o, Ne.symm o] using ih
    · by_cases o : k = other
      · subst o
        simp [h, get?_cons]
      · simp [h, get?_cons, o, ih]

omit [LT κ] [DecidableLT κ] in
theorem get?_modify (t : Table κ α) (key other : κ) (f : α → α) :
    get? (modify t key f) other = if other = key then (get? t other).map f else get? t other := by
  induction t with
  | nil => simp [modify]
  | cons e rest ih =>
    obtain ⟨k, v⟩ := e
    simp only [modify, List.map_cons] at ih ⊢
    by_cases h : k = key
    · subst h
      by_cases o : other = k
      · subst o
        simp [get?_cons]
      · simpa [get?_cons, o, Ne.symm o] using ih
    · by_cases o : k = other
      · subst o
        simp [h, get?_cons]
      · simp [h, get?_cons, o, ih]

end Laws

end Table

end BusCache
