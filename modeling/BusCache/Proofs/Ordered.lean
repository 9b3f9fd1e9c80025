import BusCache.Proofs.Tables
import Mathlib.Data.List.Sort

/-!
# Tables of texts in ascending order

The tables that are keyed by names are kept in ascending order of the names. Writing and erasing
keep the order, and two tables in order with the same content are equal (`Ordered.ext`), so what is
written under different names can be exchanged. A list of entries in order is the table of itself
(`Ordered.ofList`).
-/

namespace BusCache.Table

variable {α : Type}

/-- The keys are in ascending order. -/
def Ordered (t : Table String α) : Prop := t.Pairwise fun e f => e.1 < f.1

instance (t : Table String α) : Decidable (Ordered t) :=
  inferInstanceAs (Decidable (t.Pairwise _))

instance : Std.Irrefl fun e f : String × α => e.1 < f.1 := ⟨fun e => String.lt_irrefl e.1⟩

instance : Std.Antisymm fun e f : String × α => e.1 < f.1 :=
  ⟨fun _ _ before after => absurd after (String.lt_asymm before)⟩

theorem ordered_nil : Ordered ([] : Table String α) := List.Pairwise.nil

theorem lt_of_mem_set {t : Table String α} {key bound : String} {value : α}
    (above : ∀ e ∈ t, bound < e.1) (new : bound < key) :
    ∀ e ∈ set t key value, bound < e.1 := by
  intro e mem
  rcases mem_of_mem_set mem with rfl | old
  · exact new
  · exact above e old

theorem set_of_lt {t : Table String α} {key : String} (value : α) (last : ∀ e ∈ t, e.1 < key) :
    set t key value = t ++ [(key, value)] := by
  induction t with
  | nil => rfl
  | cons e rest ih =>
    obtain ⟨k, v⟩ := e
    obtain ⟨before, later⟩ := List.forall_mem_cons.1 last
    have differ : k ≠ key := by
      rintro rfl
      exact String.lt_irrefl k before
    unfold set
    rw [if_neg differ, if_neg (String.lt_asymm before), ih later, List.cons_append]

namespace Ordered

variable {t u : Table String α}

theorem distinct (h : Ordered t) : Distinct t := by
  have ascending : (keys t).Pairwise (· < ·) := List.pairwise_map.2 h
  exact ascending.nodup

theorem mem_iff (h : Ordered t) (e : String × α) : e ∈ t ↔ get? t e.1 = some e.2 :=
  ⟨fun mem => h.distinct.get?_of_mem mem, mem_of_get?⟩

/-- Tables in order with the same content are equal. -/
theorem ext (ht : Ordered t) (hu : Ordered u) (same : ∀ key, get? t key = get? u key) : t = u :=
  ht.eq_of_mem_iff hu fun e => by rw [ht.mem_iff, hu.mem_iff, same]

theorem set (h : Ordered t) (key : String) (value : α) : Ordered (Table.set t key value) := by
  induction t with
  | nil => exact List.pairwise_singleton _ _
  | cons e rest ih =>
    obtain ⟨k, v⟩ := e
    obtain ⟨first, later⟩ := List.pairwise_cons.1 h
    unfold Table.set
    split
    next same =>
      subst same
      exact List.pairwise_cons.2 ⟨first, later⟩
    next differ =>
      split
      next below =>
        refine List.pairwise_cons.2 ⟨List.forall_mem_cons.2 ⟨below, fun e mem => ?_⟩, h⟩
        exact String.lt_trans below (first e mem)
      next notBelow =>
        have above : k < key := by
          by_contra notAbove
          exact differ (Std.Trichotomous.trichotomous k key notAbove notBelow)
        exact List.pairwise_cons.2 ⟨lt_of_mem_set first above, ih later⟩

theorem erase (h : Ordered t) (key : String) : Ordered (Table.erase t key) :=
  List.Pairwise.filter _ h

theorem foldl_set (h : Ordered t) (es : List (String × α)) :
    Ordered (es.foldl (fun t e => Table.set t e.1 e.2) t) := by
  induction es generalizing t with
  | nil => exact h
  | cons e es ih => exact ih (h.set e.1 e.2)

/-- Entries that come in order after those of a table are appended. -/
theorem foldl_set_eq_append {es : List (String × α)} (h : Ordered (t ++ es)) :
    es.foldl (fun t e => Table.set t e.1 e.2) t = t ++ es := by
  induction es generalizing t with
  | nil => rw [List.foldl_nil, List.append_nil]
  | cons e es ih =>
    obtain ⟨-, -, before⟩ := List.pairwise_append.1 h
    -- the first entry is set behind all of the table, and the rest follow those
    rw [List.foldl_cons, set_of_lt _ fun f mem => before f mem e List.mem_cons_self]
    rw [ih (by rwa [List.append_assoc]), List.append_assoc]
    rfl

/-- Entries in order are the table of themselves. -/
theorem ofList (h : Ordered t) : Table.ofList t = t := foldl_set_eq_append (t := []) h

end Ordered

end BusCache.Table
