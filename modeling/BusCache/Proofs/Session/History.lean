import BusCache.Session.Operation
import Mathlib.Data.List.Induction

/-!
# Histories — runs from an idle session on

A history is a list of operations, of the application and of the bus in any order. What holds of
every history is proved by induction on its last operation.
-/

namespace BusCache

/-- Where a list that ends in an element is split: at that element, or before it. -/
theorem concat_eq_append_cons_iff {α : Type} {xs before after : List α} {last x : α} :
    xs ++ [last] = before ++ x :: after ↔
      after = [] ∧ xs = before ∧ last = x
        ∨ ∃ rest, after = rest ++ [last] ∧ xs = before ++ x :: rest := by
  constructor
  · intro h
    rcases List.eq_nil_or_concat after with rfl | ⟨rest, y, rfl⟩
    · have ends := List.append_singleton_inj.mp h
      exact .inl ⟨rfl, ends.1, ends.2⟩
    · right
      rw [List.concat_eq_append] at h ⊢
      have ends : xs ++ [last] = (before ++ x :: rest) ++ [y] := by
        rw [h, List.append_assoc, List.cons_append]
      have inner := List.append_singleton_inj.mp ends
      exact ⟨rest, by rw [inner.2], inner.1⟩
  · rintro (⟨rfl, rfl, rfl⟩ | ⟨rest, rfl, rfl⟩)
    · rfl
    · rw [List.append_assoc, List.cons_append]

namespace Run

/-- An idle session that has done nothing. -/
def start (config : Config) (numbering : Numbering) (listing : Listing) : Run :=
  { session := Session.new config numbering listing }

/-- Performs operations one after the other, whatever they answer. -/
def performAll (ops : List Operation) (r : Run) : Run :=
  ops.foldl (fun r op => (op.perform r).2) r

theorem performAll_append (first rest : List Operation) (r : Run) :
    r.performAll (first ++ rest) = (r.performAll first).performAll rest :=
  List.foldl_append

theorem performAll_concat (ops : List Operation) (op : Operation) (r : Run) :
    r.performAll (ops ++ [op]) = (op.perform (r.performAll ops)).2 := by
  rw [performAll_append]
  rfl

theorem performAll_split (before since : List Operation) (op : Operation) (r : Run) :
    r.performAll (before ++ op :: since) = (r.performAll (before ++ [op])).performAll since := by
  rw [← performAll_append, List.append_assoc, List.singleton_append]

/-- What every operation keeps, a history keeps. -/
theorem performAll_keeps {I : Run → Prop} (keeps : ∀ r op, I r → I (Operation.perform op r).2)
    (ops : List Operation) {r : Run} (h : I r) : I (r.performAll ops) := by
  induction ops generalizing r with
  | nil => exact h
  | cons op rest ih => exact ih (keeps r op h)

end Run

end BusCache
