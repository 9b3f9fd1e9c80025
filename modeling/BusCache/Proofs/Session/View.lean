import BusCache.Proofs.Tables
import BusCache.Session.Run

/-!
# Views — what a session holds, place by place

A session is looked at through its elements: the call under way of a kind, the subscription of a
signal's name, the cached property of a name. Each of these views reads the element at a path and
then one of its tables, so how it changes follows from how the registry was written.
-/

namespace BusCache.Session

variable {α : Type}

/-- What is read off the element at a path, if there is one. -/
def look (s : Session) (path : Path) (read : Element → Option α) : Option α :=
  (s.element? path).bind read

def slot? (s : Session) (path : Path) (kind : CallKind) : Option Slot :=
  s.look path fun e => Table.get? e.pending kind

def subscription? (s : Session) (path : Path) (member : String) : Option SubscriptionId :=
  s.look path fun e => Table.get? e.subscriptions member

def cached? (s : Session) (path : Path) (name : String) : Option Property :=
  s.look path fun e => Table.get? e.cache name

theorem slot?_eq_some {s : Session} {path : Path} {kind : CallKind} {slot : Slot} :
    s.slot? path kind = some slot ↔
      ∃ e, s.element? path = some e ∧ Table.get? e.pending kind = some slot :=
  Option.bind_eq_some_iff

theorem subscription?_eq_some {s : Session} {path : Path} {member : String} {id : SubscriptionId} :
    s.subscription? path member = some id ↔
      ∃ e, s.element? path = some e ∧ Table.get? e.subscriptions member = some id :=
  Option.bind_eq_some_iff

/-! ## 1. Looking after writing -/

section Look

variable {s t : Session} {path : Path} {read : Element → Option α}

theorem look_eq_some {v : α} :
    s.look path read = some v ↔ ∃ e, s.element? path = some e ∧ read e = some v := by
  unfold look
  rw [Option.bind_eq_some_iff]

/-- What is read in an element shows that the element is registered. -/
theorem registered_of_look {v : α} (h : s.look path read = some v) : (s.element? path).isSome := by
  obtain ⟨e, here, _⟩ := look_eq_some.mp h
  exact Option.isSome_of_eq_some here

theorem look_of_element? {e : Element} (h : s.element? path = some e) :
    s.look path read = read e := by
  unfold look
  rw [h, Option.bind_some]

theorem look_of_element?_none (h : s.element? path = none) : s.look path read = none := by
  unfold look
  rw [h, Option.bind_none]

theorem element?_of_registry_eq (h : t.registry = s.registry) (p : Path) :
    t.element? p = s.element? p := by
  unfold element?
  rw [h]

theorem element?_of_modified {f : Element → Element}
    (h : t.registry = Table.modify s.registry path f) (p : Path) :
    t.element? p = if p = path then (s.element? p).map f else s.element? p := by
  unfold element?
  rw [h, Table.get?_modify]

/-- The element that was modified. -/
theorem element?_of_modified_self {f : Element → Element}
    (h : t.registry = Table.modify s.registry path f) {e : Element}
    (here : s.element? path = some e) : t.element? path = some (f e) := by
  rw [element?_of_modified h, if_pos rfl, here, Option.map_some]

theorem isSome_of_modified {f : Element → Element}
    (h : t.registry = Table.modify s.registry path f) {p : Path} (here : (s.element? p).isSome) :
    (t.element? p).isSome := by
  rw [element?_of_modified h]
  split
  · rw [Option.isSome_map]
    exact here
  · exact here

theorem element?_of_erased (h : t.registry = Table.erase s.registry path) (p : Path) :
    t.element? p = if p = path then none else s.element? p := by
  unfold element?
  rw [h, Table.get?_erase]

theorem element?_of_set {e : Element} (h : t.registry = Table.set s.registry path e) (p : Path) :
    t.element? p = if p = path then some e else s.element? p := by
  unfold element?
  rw [h, Table.get?_set]

theorem look_of_registry_eq (h : t.registry = s.registry) (p : Path) :
    t.look p read = s.look p read := by
  unfold look
  rw [element?_of_registry_eq h]

theorem look_of_modified {f : Element → Element}
    (h : t.registry = Table.modify s.registry path f) (p : Path) :
    t.look p read = if p = path then s.look p (fun e => read (f e)) else s.look p read := by
  unfold look
  rw [element?_of_modified h]
  by_cases hp : p = path
  · rw [if_pos hp, if_pos hp, Option.bind_map]
    rfl
  · rw [if_neg hp, if_neg hp]

/-- A change of an element that a reading does not see. -/
theorem look_of_modified_kept {f : Element → Element}
    (h : t.registry = Table.modify s.registry path f) (kept : ∀ e, read (f e) = read e)
    (p : Path) : t.look p read = s.look p read := by
  rw [look_of_modified h]
  simp only [kept, ite_self]

theorem look_of_erased (h : t.registry = Table.erase s.registry path) (p : Path) :
    t.look p read = if p = path then none else s.look p read := by
  unfold look
  rw [element?_of_erased h]
  by_cases hp : p = path
  · rw [if_pos hp, if_pos hp, Option.bind_none]
  · rw [if_neg hp, if_neg hp]

/-- A new element that a reading finds nothing on. -/
theorem look_of_set_blank {e : Element} (h : t.registry = Table.set s.registry path e)
    (new : s.element? path = none) (blank : read e = none) (p : Path) :
    t.look p read = s.look p read := by
  unfold look
  rw [element?_of_set h]
  by_cases hp : p = path
  · subst hp
    -- where there was no element nothing was found, and nothing is found on a blank one
    rw [if_pos rfl, new, Option.bind_some, Option.bind_none, blank]
  · rw [if_neg hp]

end Look

/-! ## 2. Slots, subscriptions and properties -/

section Places

variable {s t : Session} {path : Path}

theorem slot?_of_tracked {kind : CallKind} {slot : Slot}
    (h : t.registry = Table.modify s.registry path fun e => e.track kind slot)
    (here : (s.element? path).isSome) (p : Path) (k : CallKind) :
    t.slot? p k = if p = path ∧ k = kind then some slot else s.slot? p k := by
  obtain ⟨e, he⟩ := Option.isSome_iff_exists.mp here
  unfold slot?
  rw [look_of_modified h]
  by_cases hp : p = path
  · subst hp
    rw [if_pos rfl, look_of_element? he, look_of_element? he]
    simp only [Element.track, Table.get?_set, true_and]
  · rw [if_neg hp, if_neg fun hc => hp hc.1]

theorem slot?_of_freed {kind : CallKind}
    (h : t.registry = Table.modify s.registry path fun e => e.freeSlot kind)
    (p : Path) (k : CallKind) :
    t.slot? p k = if p = path ∧ k = kind then none else s.slot? p k := by
  unfold slot? look
  rw [element?_of_modified h]
  by_cases hp : p = path
  · subst hp
    simp only [if_true, true_and, Option.bind_map]
    -- without an element there is no slot, before and after
    cases s.element? p with
    | none => simp
    | some e => simp only [Option.bind_some, Function.comp, Element.freeSlot, Table.get?_erase]
  · rw [if_neg hp, if_neg fun hc => hp hc.1]

theorem subscription?_of_added {member : String} {id : SubscriptionId}
    (h : t.registry = Table.modify s.registry path fun e => e.addSubscription member id)
    (here : (s.element? path).isSome) (p : Path) (m : String) :
    t.subscription? p m = if p = path ∧ m = member then some id else s.subscription? p m := by
  obtain ⟨e, he⟩ := Option.isSome_iff_exists.mp here
  unfold subscription?
  rw [look_of_modified h]
  by_cases hp : p = path
  · subst hp
    rw [if_pos rfl, look_of_element? he, look_of_element? he]
    simp only [Element.addSubscription, Table.get?_set, true_and]
  · rw [if_neg hp, if_neg fun hc => hp hc.1]

theorem isRegistered_eq_false_iff : s.isRegistered path = false ↔ s.element? path = none := by
  unfold isRegistered Table.contains element?
  rw [Option.isSome_eq_false_iff, Option.isNone_iff_eq_none]

theorem mem_paths_iff : path ∈ s.paths ↔ (s.element? path).isSome := by
  unfold paths Listing.paths
  rw [(s.listing.perm _ _).mem_iff, Table.mem_keys_iff]
  rfl

end Places

end BusCache.Session

/-! ## 3. What a listing goes through -/

namespace BusCache.Listing

variable (l : Listing) (path : Path) (e : Element)

theorem kinds_perm :
    ((l.order (.calls path) ((Table.keys e.pending).map CallKind.name)).map CallKind.mk).Perm
      (Table.keys e.pending) := by
  have named : ((Table.keys e.pending).map CallKind.name).map CallKind.mk = Table.keys e.pending :=
    (List.map_map ..).trans (List.map_id _)
  have listed := (l.perm (.calls path) ((Table.keys e.pending).map CallKind.name)).map CallKind.mk
  rwa [named] at listed

theorem mem_slots_iff (slot : Slot) :
    slot ∈ l.slots path e ↔ ∃ kind, Table.get? e.pending kind = some slot :=
  Table.mem_getAll_iff (l.kinds_perm path e) slot

theorem mem_subscriptions_iff (id : SubscriptionId) :
    id ∈ l.subscriptions path e ↔ ∃ member, Table.get? e.subscriptions member = some id :=
  Table.mem_getAll_iff (l.perm _ _) id

end BusCache.Listing
