import Mathlib.Data.List.Nodup

/-!
# Ledgers — what was opened is live, closed or settled

A resource is opened under a number that no other one has. From then on it is live, until it is
either closed by the holder or settled by the other side, once. A ledger says that the books agree:
with the resources opened and closed so far on one side, and the live and the settled ones on the
other.
-/

namespace BusCache

variable {ι : Type}

structure Ledger (number : Nat → ι) (issued : Nat) (opened closed : List ι)
    (live settled : ι → Prop) : Prop where
  numbered : ∀ id ∈ opened, ∃ n, n < issued ∧ number n = id
  opened_once : opened.Nodup
  closed_once : closed.Nodup
  live_opened : ∀ id, live id → id ∈ opened
  closed_opened : ∀ id ∈ closed, id ∈ opened
  settled_opened : ∀ id, settled id → id ∈ opened
  live_not_closed : ∀ id, live id → id ∉ closed
  live_not_settled : ∀ id, live id → ¬ settled id
  closed_not_settled : ∀ id ∈ closed, ¬ settled id
  accounted : ∀ id ∈ opened, live id ∨ id ∈ closed ∨ settled id

namespace Ledger

variable {number : Nat → ι} {issued : Nat} {opened closed : List ι} {live settled : ι → Prop}

theorem empty (number : Nat → ι) (issued : Nat) {live settled : ι → Prop} (unused : ∀ id, ¬ live id)
    (unsettled : ∀ id, ¬ settled id) : Ledger number issued [] [] live settled where
  numbered := by simp
  opened_once := List.nodup_nil
  closed_once := List.nodup_nil
  live_opened id h := absurd h (unused id)
  closed_opened := by simp
  settled_opened id h := absurd h (unsettled id)
  live_not_closed := by simp
  live_not_settled id h := absurd h (unused id)
  closed_not_settled := by simp
  accounted := by simp

/-- The books depend on which resources are live and settled, and not on how this is said. -/
theorem of_iff (h : Ledger number issued opened closed live settled) {issued' : Nat}
    {live' settled' : ι → Prop} (hi : issued ≤ issued') (hl : ∀ id, live' id ↔ live id)
    (hs : ∀ id, settled' id ↔ settled id) :
    Ledger number issued' opened closed live' settled' := by
  have same : live' = live := funext fun id => propext (hl id)
  have same' : settled' = settled := funext fun id => propext (hs id)
  rw [same, same']
  refine { h with numbered := ?_ }
  intro id hid
  obtain ⟨n, hn, he⟩ := h.numbered id hid
  exact ⟨n, by omega, he⟩

theorem next_not_opened (h : Ledger number issued opened closed live settled)
    (injective : ∀ {m n}, number m = number n → m = n) : number issued ∉ opened := by
  intro hmem
  obtain ⟨n, hn, he⟩ := h.numbered _ hmem
  have : n = issued := injective he
  omega

theorem opens (h : Ledger number issued opened closed live settled)
    (injective : ∀ {m n}, number m = number n → m = n) {live' : ι → Prop}
    (hl : ∀ id, live' id ↔ id = number issued ∨ live id) :
    Ledger number (issued + 1) (opened ++ [number issued]) closed live' settled := by
  -- a number that was not given out is neither live, closed nor settled: each of these was opened
  have new := h.next_not_opened injective
  have mem : ∀ id, id ∈ opened ++ [number issued] ↔ id ∈ opened ∨ id = number issued := by
    intro id
    rw [List.mem_append, List.mem_singleton]
  constructor
  · intro id hid
    rcases (mem id).mp hid with old | rfl
    · obtain ⟨n, hn, he⟩ := h.numbered id old
      exact ⟨n, by omega, he⟩
    · exact ⟨issued, by omega, rfl⟩
  · rw [List.nodup_append]
    refine ⟨h.opened_once, List.nodup_singleton _, ?_⟩
    intro a ha b hb he
    rw [List.mem_singleton] at hb
    exact new (hb ▸ he ▸ ha)
  · exact h.closed_once
  · intro id hid
    rw [mem]
    exact ((hl id).mp hid).symm.imp_left (h.live_opened id)
  · exact fun id hid => (mem id).mpr (.inl (h.closed_opened id hid))
  · exact fun id hid => (mem id).mpr (.inl (h.settled_opened id hid))
  · intro id hid hc
    rcases (hl id).mp hid with rfl | old
    · exact new (h.closed_opened _ hc)
    · exact h.live_not_closed id old hc
  · intro id hid hs
    rcases (hl id).mp hid with rfl | old
    · exact new (h.settled_opened _ hs)
    · exact h.live_not_settled id old hs
  · exact h.closed_not_settled
  · intro id hid
    rcases (mem id).mp hid with old | rfl
    · exact (h.accounted id old).imp_left fun l => (hl id).mpr (.inr l)
    · exact .inl ((hl _).mpr (.inl rfl))

theorem closes (h : Ledger number issued opened closed live settled) {gone : List ι}
    (once : gone.Nodup) (held : ∀ id ∈ gone, live id) {live' : ι → Prop}
    (hl : ∀ id, live' id ↔ live id ∧ id ∉ gone) :
    Ledger number issued opened (closed ++ gone) live' settled := by
  have mem : ∀ id, id ∈ closed ++ gone ↔ id ∈ closed ∨ id ∈ gone := fun _ => List.mem_append
  refine { h with
    closed_once := ?_, live_opened := ?_, closed_opened := ?_, live_not_closed := ?_,
    live_not_settled := ?_, closed_not_settled := ?_, accounted := ?_ }
  · rw [List.nodup_append]
    refine ⟨h.closed_once, once, ?_⟩
    intro a ha b hb he
    exact h.live_not_closed b (held b hb) (he ▸ ha)
  · exact fun id hid => h.live_opened id ((hl id).mp hid).1
  · intro id hid
    rcases (mem id).mp hid with old | new
    · exact h.closed_opened id old
    · exact h.live_opened id (held id new)
  · intro id hid hc
    obtain ⟨live, kept⟩ := (hl id).mp hid
    rcases (mem id).mp hc with old | new
    · exact h.live_not_closed id live old
    · exact kept new
  · exact fun id hid => h.live_not_settled id ((hl id).mp hid).1
  · intro id hid
    rcases (mem id).mp hid with old | new
    · exact h.closed_not_settled id old
    · exact h.live_not_settled id (held id new)
  · intro id hid
    -- what was live and is not given back now is live still
    by_cases hg : id ∈ gone
    · exact .inr (.inl ((mem id).mpr (.inr hg)))
    · rcases h.accounted id hid with live | old | done
      · exact .inl ((hl id).mpr ⟨live, hg⟩)
      · exact .inr (.inl ((mem id).mpr (.inl old)))
      · exact .inr (.inr done)

theorem settles (h : Ledger number issued opened closed live settled) {one : ι} (held : live one)
    {live' settled' : ι → Prop} (hl : ∀ id, live' id ↔ live id ∧ id ≠ one)
    (hs : ∀ id, settled' id ↔ settled id ∨ id = one) :
    Ledger number issued opened closed live' settled' := by
  refine { h with
    live_opened := ?_, settled_opened := ?_, live_not_closed := ?_, live_not_settled := ?_,
    closed_not_settled := ?_, accounted := ?_ }
  · exact fun id hid => h.live_opened id ((hl id).mp hid).1
  · intro id hid
    rcases (hs id).mp hid with old | rfl
    · exact h.settled_opened id old
    · exact h.live_opened _ held
  · exact fun id hid => h.live_not_closed id ((hl id).mp hid).1
  · intro id hid done
    obtain ⟨live, other⟩ := (hl id).mp hid
    rcases (hs id).mp done with old | new
    · exact h.live_not_settled id live old
    · exact other new
  · intro id hid done
    rcases (hs id).mp done with old | rfl
    · exact h.closed_not_settled id hid old
    · exact h.live_not_closed _ held hid
  · intro id hid
    -- the resource that is settled was live, and all others are as they were
    by_cases ho : id = one
    · exact .inr (.inr ((hs id).mpr (.inr ho)))
    · rcases h.accounted id hid with live | old | done
      · exact .inl ((hl id).mpr ⟨live, ho⟩)
      · exact .inr (.inl old)
      · exact .inr (.inr ((hs id).mpr (.inl done)))

/-- A resource that was opened is in one of three states. -/
theorem trichotomy [DecidableEq ι] (h : Ledger number issued opened closed live settled) {id : ι}
    (hid : id ∈ opened) :
    live id ∧ id ∉ closed ∧ ¬ settled id
      ∨ settled id ∧ id ∉ closed ∧ ¬ live id
      ∨ closed.count id = 1 ∧ ¬ live id ∧ ¬ settled id := by
  rcases h.accounted id hid with alive | gone | done
  · exact .inl ⟨alive, h.live_not_closed id alive, h.live_not_settled id alive⟩
  · have still : ¬ live id := fun alive => h.live_not_closed id alive gone
    exact .inr (.inr ⟨List.count_eq_one_of_mem h.closed_once gone, still,
      h.closed_not_settled id gone⟩)
  · have still : ¬ live id := fun alive => h.live_not_settled id alive done
    exact .inr (.inl ⟨done, fun gone => h.closed_not_settled id gone done, still⟩)

/-- The books say of every number that it is not live: it was never opened, or it is done with. -/
theorem not_live_iff (h : Ledger number issued opened closed live settled) (id : ι) :
    ¬ live id ↔ id ∉ opened ∨ id ∈ closed ∨ settled id := by
  constructor
  · intro still
    by_cases hid : id ∈ opened
    · exact .inr ((h.accounted id hid).resolve_left still)
    · exact .inl hid
  · rintro (unopened | gone | done) alive
    · exact unopened (h.live_opened id alive)
    · exact h.live_not_closed id alive gone
    · exact h.live_not_settled id alive done

end Ledger

end BusCache
