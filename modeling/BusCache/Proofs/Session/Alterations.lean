import BusCache.Proofs.Ordered
import BusCache.Proofs.Session.Consequences

/-!
# Alterations — changes of different properties do not disturb each other

An alteration writes one property and reads no other: what it leads to depends on where the element
belongs, on the property that it alters, and on nothing else of the element. So alterations of
different properties can be exchanged, and when they come in another order, the element becomes the
same, the same paths are found, and the same is told.
-/

namespace BusCache

/-! ## 1. What is written -/

namespace Alteration

/-- What becomes of the property, given the one before. -/
def result (old : Option Property) : Alteration → Option Property
  | write _ value given => some ⟨value, Element.kindFor old value given⟩
  | drop _ => none

/-- What becomes of the properties of an element. -/
def alter (c : Cache) : Alteration → Cache
  | write name value given =>
      Table.set c name ⟨value, Element.kindFor (Table.get? c name) value given⟩
  | drop name => Table.erase c name

def alterAll (c : Cache) (as : List Alteration) : Cache := as.foldl alter c

variable {as bs : List Alteration} {c c' : Cache} {name : String}

theorem get?_alter (a : Alteration) (c : Cache) (name : String) :
    Table.get? (alter c a) name =
      if name = a.name then a.result (Table.get? c a.name) else Table.get? c name := by
  cases a with
  | write written value given => exact Table.get?_set c written name _
  | drop dropped => exact Table.get?_erase c dropped name

/-- A property is altered by what names it, given the property before. -/
theorem get?_alterAll_congr (as : List Alteration)
    (same : Table.get? c' name = Table.get? c name) :
    Table.get? (alterAll c' as) name = Table.get? (alterAll c as) name := by
  induction as generalizing c c' with
  | nil => exact same
  | cons a rest ih =>
    apply ih
    rw [get?_alter, get?_alter]
    split
    next named => rw [← named, same]
    next => exact same

theorem get?_alterAll_of_unnamed (unnamed : ∀ a ∈ as, a.name ≠ name) :
    Table.get? (alterAll c as) name = Table.get? c name := by
  induction as generalizing c with
  | nil => rfl
  | cons a rest ih =>
    obtain ⟨first, others⟩ := List.forall_mem_cons.1 unnamed
    rw [show alterAll c (a :: rest) = alterAll (alter c a) rest from rfl, ih others, get?_alter,
      if_neg (Ne.symm first)]

theorem ordered_alter (ordered : Table.Ordered c) (a : Alteration) :
    Table.Ordered (alter c a) := by
  cases a with
  | write name value given => exact ordered.set name _
  | drop name => exact ordered.erase name

theorem ordered_alterAll (ordered : Table.Ordered c) (as : List Alteration) :
    Table.Ordered (alterAll c as) :=
  List.foldlRecOn (motive := Table.Ordered) as alter ordered fun _ h a _ => ordered_alter h a

/-- Alterations have no property in common. -/
def Apart (as bs : List Alteration) : Prop := ∀ a ∈ as, ∀ b ∈ bs, a.name ≠ b.name

theorem Apart.symm (h : Apart as bs) : Apart bs as := fun b hb a ha => (h a ha b hb).symm

/-- Alterations of different properties commute. -/
theorem alterAll_comm (apart : Apart as bs) (ordered : Table.Ordered c) :
    alterAll (alterAll c as) bs = alterAll (alterAll c bs) as := by
  apply (ordered_alterAll (ordered_alterAll ordered as) bs).ext
    (ordered_alterAll (ordered_alterAll ordered bs) as)
  intro name
  -- at most one of the two lists names the property
  by_cases named : ∃ a ∈ as, a.name = name
  · obtain ⟨a, mem, rfl⟩ := named
    have unnamed : ∀ b ∈ bs, b.name ≠ a.name := fun b hb => (apart a mem b hb).symm
    rw [get?_alterAll_of_unnamed unnamed]
    exact get?_alterAll_congr as (get?_alterAll_of_unnamed unnamed).symm
  · have unnamed : ∀ a ∈ as, a.name ≠ name := fun a mem eq => named ⟨a, mem, eq⟩
    rw [get?_alterAll_of_unnamed (c := alterAll c bs) unnamed]
    exact get?_alterAll_congr bs (get?_alterAll_of_unnamed unnamed)

end Alteration

/-! ## 2. What is read -/

/-- Two elements look the same to alterations: they belong to the same place, and the properties
that are altered are the same. -/
structure Element.LooksSame (e e' : Element) (as : List Alteration) : Prop where
  interface : e'.interface = e.interface
  depth : e'.depth = e.depth
  properties : ∀ a ∈ as, Table.get? e'.cache a.name = Table.get? e.cache a.name

/-- Of the children of one property no other property knows. -/
theorem Element.follow_congr (e e' : Element) {name : String}
    (interface : e'.interface = e.interface) (depth : e'.depth = e.depth)
    (same : Table.get? e'.cache name = Table.get? e.cache name) (config : Config) (path : Path) :
    e'.follow config path (some name) = e.follow config path (some name) := by
  have listed : e'.childInterface? config.children (some name) =
      e.childInterface? config.children (some name) := by
    funext child
    unfold childInterface?
    congr 2
    funext link
    rw [interface, Option.all_some]
    by_cases named : name = link.property
    · rw [← named, same]
    · -- a link for another property is passed over before the cache is read
      rw [decide_eq_false named, Bool.and_false, Bool.false_and, Bool.false_and]
  unfold follow
  rw [depth, listed]

/-- The children that an element lists belong below it. -/
theorem Element.follow_origin {e : Element} {config : Config} {path p : Path}
    {changed : Option String} {origin : Origin}
    (found : e.follow config path changed p = some origin) :
    origin.parent = path ∧ origin.depth = e.depth + 1 := by
  unfold follow at found
  split at found
  · cases found
  · obtain ⟨interface, _, rfl⟩ := Option.map_eq_some_iff.mp found
    exact ⟨rfl, rfl⟩

namespace Alteration

variable (config : Config) (handlers : EventKind → Option Handler) (path : Path) {e e' : Element}
  {as bs : List Alteration}

theorem consequence_element (a : Alteration) (e : Element) :
    (a.consequence config handlers path e).element = { e with cache := alter e.cache a } := by
  cases a <;> rfl

theorem consequences_element (e : Element) (as : List Alteration) :
    (consequences config handlers path e as).element =
      { e with cache := alterAll e.cache as } := by
  induction as generalizing e with
  | nil => rfl
  | cons a rest ih =>
    show (consequences config handlers path _ rest).element = _
    rw [ih, consequence_element]
    rfl

theorem consequence_congr {a : Alteration} (same : e.LooksSame e' [a]) :
    (a.consequence config handlers path e').children =
        (a.consequence config handlers path e).children
      ∧ (a.consequence config handlers path e').told =
        (a.consequence config handlers path e).told := by
  have property := same.properties a (List.mem_singleton_self a)
  cases a with
  | write name value given =>
    have written : Table.get? (e'.setProperty name value given).cache name =
        Table.get? (e.setProperty name value given).cache name := by
      show Table.get? (Table.set _ name _) name = Table.get? (Table.set _ name _) name
      rw [Table.get?_set_self, Table.get?_set_self]
      rw [show Table.get? e'.cache name = Table.get? e.cache name from property]
    exact ⟨Element.follow_congr (e.setProperty name value given) (e'.setProperty name value given)
      same.interface same.depth written config path, rfl⟩
  | drop name =>
    refine ⟨rfl, ?_⟩
    dsimp only [consequence]
    rw [show Table.get? e'.cache name = Table.get? e.cache name from property]

/-- Alterations look at the properties that they alter only. -/
theorem consequences_congr (same : e.LooksSame e' as) :
    (consequences config handlers path e' as).children =
        (consequences config handlers path e as).children
      ∧ (consequences config handlers path e' as).told =
        (consequences config handlers path e as).told := by
  induction as generalizing e e' with
  | nil => exact ⟨rfl, rfl⟩
  | cons a rest ih =>
    obtain ⟨property, properties⟩ := List.forall_mem_cons.1 same.properties
    have first := consequence_congr config handlers path
      ⟨same.interface, same.depth, List.forall_mem_singleton.2 property⟩
    have altered : (a.consequence config handlers path e).element.LooksSame
        (a.consequence config handlers path e').element rest := by
      rw [consequence_element, consequence_element]
      refine ⟨same.interface, same.depth, fun b mem => ?_⟩
      exact get?_alterAll_congr [a] (properties b mem)
    have next := ih altered
    dsimp only [consequences, Consequence.andThen]
    rw [first.1, first.2, next.1, next.2]
    exact ⟨rfl, rfl⟩

/-- What is altered before is not looked at by alterations of other properties. -/
theorem consequences_after (apart : Apart as bs) (e : Element) :
    (consequences config handlers path (consequences config handlers path e as).element
        bs).children = (consequences config handlers path e bs).children
      ∧ (consequences config handlers path (consequences config handlers path e as).element
        bs).told = (consequences config handlers path e bs).told := by
  apply consequences_congr
  rw [consequences_element]
  refine ⟨rfl, rfl, fun b mem => ?_⟩
  exact get?_alterAll_of_unnamed fun a ha => apart a ha b mem

theorem consequences_comm (apart : Apart as bs) (ordered : Table.Ordered e.cache) :
    (consequences config handlers path (consequences config handlers path e as).element
        bs).element =
      (consequences config handlers path (consequences config handlers path e bs).element
        as).element := by
  simp only [consequences_element]
  rw [alterAll_comm apart ordered]

theorem consequences_append (e : Element) (as bs : List Alteration) :
    consequences config handlers path e (as ++ bs) =
      (consequences config handlers path e as).andThen
        (consequences config handlers path
          (consequences config handlers path e as).element bs) := by
  induction as generalizing e with
  | nil => rfl
  | cons a rest ih =>
    dsimp only [List.cons_append, consequences]
    rw [ih]
    simp only [Consequence.andThen, Option.or_assoc, List.append_assoc]

/-- The paths that alterations find belong below the element. -/
theorem consequences_origin {p : Path} {origin : Origin}
    (found : (consequences config handlers path e as).children p = some origin) :
    origin.parent = path ∧ origin.depth = e.depth + 1 := by
  induction as generalizing e with
  | nil => cases found
  | cons a rest ih =>
    rcases Option.or_eq_some_iff.mp found with first | ⟨_, later⟩
    · cases a with
      | write name value given =>
        exact Element.follow_origin (e := e.setProperty name value given) first
      | drop name => cases first
    · have below := ih later
      rwa [consequence_element] at below

end Alteration

/-! ## 3. The order of alterations -/

/-- Two consequences are the same up to the order in which it all happens: the first link that lists
a path may be another one. -/
structure Consequence.Reordered (c c' : Consequence) : Prop where
  element : c'.element = c.element
  children : ∀ p, (c'.children p).isSome = (c.children p).isSome
  told : c'.told.Perm c.told

namespace Consequence.Reordered

variable {c c' c'' d : Consequence}

theorem refl (c : Consequence) : c.Reordered c := ⟨rfl, fun _ => rfl, .refl _⟩

theorem trans (h : c.Reordered c') (h' : c'.Reordered c'') : c.Reordered c'' where
  element := h'.element.trans h.element
  children p := (h'.children p).trans (h.children p)
  told := h'.told.trans h.told

theorem andThen_left (h : c.Reordered c') (d : Consequence) :
    (c.andThen d).Reordered (c'.andThen d) where
  element := rfl
  children p := by
    show ((c'.children p).or (d.children p)).isSome = ((c.children p).or (d.children p)).isSome
    rw [Option.isSome_or, Option.isSome_or, h.children]
  told := h.told.append_right _

theorem andThen_right (c : Consequence) (h : d.Reordered c') :
    (c.andThen d).Reordered (c.andThen c') where
  element := h.element
  children p := by
    show ((c.children p).or (c'.children p)).isSome = ((c.children p).or (d.children p)).isSome
    rw [Option.isSome_or, Option.isSome_or, h.children]
  told := h.told.append_left _

end Consequence.Reordered

namespace Alteration

variable (config : Config) (handlers : EventKind → Option Handler) (path : Path) {e : Element}
  {as bs : List Alteration}

/-- Two lists of alterations that have no property in common can be exchanged. -/
theorem consequences_swap (apart : Apart as bs) (ordered : Table.Ordered e.cache) :
    (consequences config handlers path e (as ++ bs)).Reordered
      (consequences config handlers path e (bs ++ as)) := by
  have left := consequences_after config handlers path apart e
  have right := consequences_after config handlers path apart.symm e
  rw [consequences_append, consequences_append]
  constructor
  · exact (consequences_comm config handlers path apart ordered).symm
  · intro p
    dsimp only [Consequence.andThen]
    rw [left.1, right.1, Option.isSome_or, Option.isSome_or, Bool.or_comm]
  · dsimp only [Consequence.andThen]
    rw [left.2, right.2]
    exact List.perm_append_comm

/-- No property is altered in two ways. -/
def Coherent (as : List Alteration) : Prop := ∀ a ∈ as, ∀ b ∈ as, a.name = b.name → a = b

/-- The order of alterations does not matter as long as no property is altered in two ways. -/
theorem consequences_perm (perm : as.Perm bs) (coherent : Coherent as)
    (ordered : Table.Ordered e.cache) :
    (consequences config handlers path e as).Reordered
      (consequences config handlers path e bs) := by
  induction perm generalizing e with
  | nil => exact .refl _
  | cons a _ ih =>
    apply Consequence.Reordered.andThen_right
    apply ih
    · exact fun b hb d hd => coherent b (List.mem_cons_of_mem a hb) d (List.mem_cons_of_mem a hd)
    · rw [consequence_element]
      exact ordered_alter ordered a
  | swap a b rest =>
    by_cases eq : b = a
    · rw [eq]
      exact .refl _
    · -- different alterations are of different properties
      have apart : Apart [b] [a] := by
        intro x hx y hy named
        rw [List.mem_singleton.1 hx, List.mem_singleton.1 hy] at named
        exact eq (coherent b List.mem_cons_self a
          (List.mem_cons_of_mem b List.mem_cons_self) named)
      have swapped := consequences_swap config handlers path apart ordered
      have same := swapped.element
      rw [show b :: a :: rest = ([b] ++ [a]) ++ rest from rfl,
        show a :: b :: rest = ([a] ++ [b]) ++ rest from rfl,
        consequences_append _ _ _ e ([b] ++ [a]), consequences_append _ _ _ e ([a] ++ [b]), same]
      exact swapped.andThen_left _
  | trans first _ ih ih' =>
    refine (ih coherent ordered).trans (ih' ?_ ordered)
    exact fun b hb d hd => coherent b (first.mem_iff.mpr hb) d (first.mem_iff.mpr hd)

end Alteration

/-! ## 4. The order of a listing -/

theorem Listing.entries_perm (l l' : Listing) (c : Cache) : (l.entries c).Perm (l'.entries c) :=
  ((l.perm .changes (Table.keys c)).trans (l'.perm .changes (Table.keys c)).symm).filterMap _

/-- In which order a session goes through the changed properties does not matter. -/
theorem PropertyChanges.alterations_reordered (changes : PropertyChanges) (l l' : Listing)
    {config : Config} {handlers : EventKind → Option Handler} {path : Path} {e : Element}
    (ordered : Table.Ordered e.cache) :
    (Alteration.consequences config handlers path e (changes.alterations l)).Reordered
      (Alteration.consequences config handlers path e (changes.alterations l')) := by
  have perm := (l.entries_perm l' changes.changed).map fun p =>
    Alteration.write p.1 p.2.value (some p.2.kind)
  have coherent : Alteration.Coherent ((l.entries changes.changed).map fun p =>
      Alteration.write p.1 p.2.value (some p.2.kind)) := by
    -- an entry is decided by its name
    have entry : ∀ a ∈ (l.entries changes.changed).map (fun p =>
        Alteration.write p.1 p.2.value (some p.2.kind)), ∃ p,
          Table.get? changes.changed a.name = some p ∧ a = .write a.name p.value (some p.kind) := by
      intro a mem
      obtain ⟨_, listed, rfl⟩ := List.mem_map.1 mem
      obtain ⟨name, _, found⟩ := List.mem_filterMap.1 listed
      obtain ⟨p, held, rfl⟩ := Option.map_eq_some_iff.mp found
      exact ⟨p, held, rfl⟩
    intro a ha b hb named
    obtain ⟨p, held, ea⟩ := entry a ha
    obtain ⟨q, held', eb⟩ := entry b hb
    rw [named, held'] at held
    cases held
    rw [ea, eb, named]
  have first := Alteration.consequences_perm config handlers path perm coherent ordered
  -- the invalidated properties are dropped in the order of the message, after all that changed
  unfold alterations
  rw [Alteration.consequences_append, Alteration.consequences_append, first.element]
  exact first.andThen_left _

end BusCache
