import BusCache.Proofs.Session.Decomposition

/-!
# Call routes — replies find the calls that are under way

A call has a route exactly while it is under way on an element, to the slot that holds it, or while
it is the question who owns the name. Every act keeps this: the number of a new call is that of no
call under way, and whatever frees a slot takes its route away.
-/

namespace BusCache

/-! ## 1. The invariant -/

/-- Calls have routes exactly where they are under way. -/
structure Session.CallsRouted (s : Session) : Prop where
  element : ∀ call path kind,
    (∃ purpose, Table.get? s.callRoutes call = some (.element path kind purpose)) ↔
      ∃ slot, s.slot? path kind = some slot ∧ slot.call = call
  owner : ∀ call, Table.get? s.callRoutes call = some .nameOwner ↔ s.ownership.query = some call
  fresh : ∀ n, s.issued ≤ n → Table.get? s.callRoutes (s.numbering.call n) = none

/-- No kind of call and no name of a signal has two entries in an element. -/
def Element.Tidy (e : Element) : Prop := Table.Distinct e.pending ∧ Table.Distinct e.subscriptions

/-! ## 2. Tidy elements -/

theorem Act.Enabled.tidy {a : Act} {r : Run} (enabled : a.Enabled r.session)
    (tidy : ∀ p e, r.session.element? p = some e → e.Tidy) (p : Path) (e : Element)
    (he : (a.perform r).session.element? p = some e) : e.Tidy := by
  rcases element?_origin he with ⟨_, _, _, -, rfl⟩ | ⟨e₀, before, rfl | revised⟩
  · exact ⟨Table.distinct_nil, Table.distinct_nil⟩
  · exact tidy p e before
  · have h := tidy p e₀ before
    cases a with
    | send path kind purpose completion call =>
      obtain ⟨rfl, rfl⟩ := revised
      -- the slot is free, so its kind has no entry yet
      have free := enabled.2.2.1
      unfold Session.slot? at free
      rw [Session.look_of_element? before] at free
      exact ⟨h.1.set _ free, h.2⟩
    | subscribe path rule route =>
      obtain ⟨rfl, rfl⟩ := revised
      have free := enabled.2.2.1
      unfold Session.subscription? at free
      rw [Session.look_of_element? before] at free
      exact ⟨h.1, h.2.set _ free⟩
    | answer call path kind =>
      obtain ⟨rfl, rfl⟩ := revised
      exact ⟨h.1.erase kind, h.2⟩
    | _ => first | exact revised.elim | exact revised.2 ▸ h

/-! ## 3. Calls -/

structure Session.SameCalls (s t : Session) : Prop where
  slot : ∀ p k, t.slot? p k = s.slot? p k
  routes : t.callRoutes = s.callRoutes
  query : t.ownership.query = s.ownership.query
  numbering : t.numbering = s.numbering
  issued : s.issued ≤ t.issued

def Act.MovesCalls : Act → Prop
  | send _ _ _ _ _ => True
  | openQuery => True
  | closeQuery => True
  | release _ => True
  | answer _ _ _ => True
  | answerQuery _ => True
  | _ => False

theorem Act.Enabled.sameCalls {a : Act} {r : Run} (enabled : a.Enabled r.session)
    (still : ¬ a.MovesCalls) : r.session.SameCalls (a.perform r).session := by
  cases a with
  | register path interface parent depth =>
    exact ⟨fun p _ => Session.look_of_set_blank (r.register_registry path _) enabled.1 rfl p,
      rfl, rfl, rfl, Nat.le_refl _⟩
  | subscribe path rule route =>
    exact ⟨fun p _ => Session.look_of_modified_kept (r.openSubscription_registry path rule route)
      (fun _ => rfl) p, rfl, rfl, rfl, Nat.le_succ _⟩
  | openWatch => exact ⟨fun _ _ => rfl, rfl, rfl, rfl, Nat.le_succ _⟩
  | closeWatch =>
    show r.session.SameCalls r.closeWatch.session
    rw [Run.closeWatch_session]
    split <;> exact ⟨fun _ _ => rfl, rfl, rfl, rfl, Nat.le_refl _⟩
  | merge path fetched =>
    exact ⟨fun p _ => Session.look_of_modified_kept (merge_registry path fetched r)
      (fun _ => rfl) p, rfl, rfl, rfl, Nat.le_refl _⟩
  | store path name value given =>
    exact ⟨fun p _ => Session.look_of_modified_kept (store_registry path name value given r)
      (fun _ => rfl) p, rfl, rfl, rfl, Nat.le_refl _⟩
  | drop path name =>
    exact ⟨fun p _ => Session.look_of_modified_kept (drop_registry path name r)
      (fun _ => rfl) p, rfl, rfl, rfl, Nat.le_refl _⟩
  | emit kind path payload => exact ⟨fun _ _ => rfl, rfl, rfl, rfl, Nat.le_refl _⟩
  | tell completion outcome => exact ⟨fun _ _ => rfl, rfl, rfl, rfl, Nat.le_refl _⟩
  | setState state => exact ⟨fun _ _ => rfl, rfl, rfl, rfl, Nat.le_refl _⟩
  | setUsers users => exact ⟨fun _ _ => rfl, rfl, rfl, rfl, Nat.le_refl _⟩
  | setHandler kind handler => exact ⟨fun _ _ => rfl, rfl, rfl, rfl, Nat.le_refl _⟩
  | relist order => exact ⟨fun _ _ => rfl, rfl, rfl, rfl, Nat.le_refl _⟩
  | _ => exact absurd trivial still

namespace Session.CallsRouted

variable {r : Run}

theorem of_same {s t : Session} (h : s.CallsRouted) (same : s.SameCalls t) : t.CallsRouted where
  element call path kind := by
    rw [same.routes, same.slot]
    exact h.element call path kind
  owner call := by
    rw [same.routes, same.query]
    exact h.owner call
  fresh n hn := by
    rw [same.routes, same.numbering]
    exact h.fresh n (Nat.le_trans same.issued hn)

/-- No call under way has the number of the next one. -/
theorem nextCall_unrouted (h : r.session.CallsRouted) :
    Table.get? r.session.callRoutes r.nextCall = none :=
  h.fresh _ (Nat.le_refl _)

theorem slot?_call_ne_nextCall (h : r.session.CallsRouted) {path : Path} {kind : CallKind}
    {slot : Slot} (held : r.session.slot? path kind = some slot) : slot.call ≠ r.nextCall := by
  intro he
  obtain ⟨purpose, routed⟩ := (h.element slot.call path kind).mpr ⟨slot, held, rfl⟩
  rw [he, h.nextCall_unrouted] at routed
  cases routed

/-- When the next number is given a route, the later ones still have none. -/
theorem later_unrouted (h : r.session.CallsRouted) (route : CallRoute) {n : Nat}
    (later : r.session.issued + 1 ≤ n) :
    Table.get? (Table.set r.session.callRoutes r.nextCall route)
      (r.session.numbering.call n) = none := by
  have other : r.session.numbering.call n ≠ r.nextCall := by
    intro same
    have := r.session.numbering.call_injective same
    omega
  rw [Table.get?_set, if_neg other]
  exact h.fresh n (Nat.le_of_succ_le later)

theorem send (h : r.session.CallsRouted) {path : Path} {kind : CallKind} {purpose : CallPurpose}
    {completion : Option Completion} {call : MethodCall}
    (enabled : (Act.send path kind purpose completion call).Enabled r.session) :
    (r.sendCall path kind purpose completion call).session.CallsRouted := by
  obtain ⟨_, here, free, _, _⟩ := enabled
  have slots := Session.slot?_of_tracked
    (r.sendCall_registry path kind purpose completion call) here
  have routes : (r.sendCall path kind purpose completion call).session.callRoutes =
      Table.set r.session.callRoutes r.nextCall (.element path kind purpose) := rfl
  constructor
  · intro c p k
    rw [routes, slots, Table.get?_set]
    by_cases hc : c = r.nextCall
    · -- the new call is under way in its own slot alone
      subst hc
      rw [if_pos rfl]
      by_cases hpk : p = path ∧ k = kind
      · obtain ⟨rfl, rfl⟩ := hpk
        rw [if_pos ⟨rfl, rfl⟩]
        exact ⟨fun _ => ⟨_, rfl, rfl⟩, fun _ => ⟨purpose, rfl⟩⟩
      · rw [if_neg hpk]
        constructor
        · intro ⟨_, he⟩
          cases he
          exact absurd ⟨rfl, rfl⟩ hpk
        · intro ⟨slot, held, he⟩
          exact absurd he (h.slot?_call_ne_nextCall held)
    · -- an older call is not in a slot that was free until now
      rw [if_neg hc, h.element]
      by_cases hpk : p = path ∧ k = kind
      · obtain ⟨rfl, rfl⟩ := hpk
        rw [if_pos ⟨rfl, rfl⟩, free]
        constructor
        · intro ⟨_, he, _⟩
          cases he
        · intro ⟨_, he, hcall⟩
          rw [← Option.some.inj he] at hcall
          exact absurd hcall.symm hc
      · rw [if_neg hpk]
  · intro c
    rw [routes, Table.get?_set]
    show _ ↔ r.session.ownership.query = some c
    rw [← h.owner]
    -- the open question has a number of its own, as it was asked before
    by_cases hc : c = r.nextCall
    · subst hc
      rw [if_pos rfl, h.nextCall_unrouted]
      simp
    · rw [if_neg hc]
  · exact fun _ later => h.later_unrouted _ later

theorem openQuery (h : r.session.CallsRouted) (unasked : r.session.ownership.query = none) :
    r.openQuery.session.CallsRouted := by
  have routes : r.openQuery.session.callRoutes =
      Table.set r.session.callRoutes r.nextCall .nameOwner := rfl
  have slots : ∀ p k, r.openQuery.session.slot? p k = r.session.slot? p k := fun _ _ => rfl
  constructor
  · intro c p k
    rw [routes, slots, Table.get?_set, ← h.element]
    by_cases hc : c = r.nextCall
    · subst hc
      rw [if_pos rfl, h.nextCall_unrouted]
      simp
    · rw [if_neg hc]
  · -- no question was open, so no older call has its route
    intro c
    rw [routes, Table.get?_set]
    show _ ↔ some r.nextCall = some c
    by_cases hc : c = r.nextCall
    · rw [if_pos hc, hc]
      simp
    · rw [if_neg hc, h.owner, unasked]
      simp [Ne.symm hc]
  · exact fun _ later => h.later_unrouted _ later

/-- The question who owns the name is settled or given up. -/
theorem settle {t : Session} (h : r.session.CallsRouted) {asked : CallId}
    (query : r.session.ownership.query = some asked)
    (routes : t.callRoutes = Table.erase r.session.callRoutes asked)
    (slots : ∀ p k, t.slot? p k = r.session.slot? p k)
    (settled : t.ownership.query = none) (numbering : t.numbering = r.session.numbering)
    (issued : t.issued = r.session.issued) : t.CallsRouted := by
  have routed := (h.owner asked).mpr query
  constructor
  · intro c p k
    rw [routes, slots, Table.get?_erase, ← h.element]
    -- the route taken away was the question's, which leads to no slot
    by_cases hc : c = asked
    · rw [if_pos hc, hc, routed]
      simp
    · rw [if_neg hc]
  · intro c
    rw [routes, settled, Table.get?_erase]
    by_cases hc : c = asked
    · simp [hc]
    · rw [if_neg hc, h.owner, query]
      simp [Ne.symm hc]
  · intro n hn
    rw [routes, numbering, Table.get?_erase]
    split
    · rfl
    · exact h.fresh n (issued ▸ hn)

theorem answer (h : r.session.CallsRouted) {call : CallId} {path : Path} {kind : CallKind}
    (enabled : (Act.answer call path kind).Enabled r.session) :
    ((Act.answer call path kind).perform r).session.CallsRouted := by
  obtain ⟨⟨purpose, routed⟩, slot, held, hcall⟩ := enabled
  have routes : ((Act.answer call path kind).perform r).session.callRoutes =
      Table.erase r.session.callRoutes call := rfl
  have slots := Session.slot?_of_freed (Act.answer_registry call path kind r)
  constructor
  · intro c p k
    rw [routes, slots, Table.get?_erase]
    by_cases hpk : p = path ∧ k = kind
    · rw [if_pos hpk]
      constructor
      · intro ⟨purpose', he⟩
        by_cases hc : c = call
        · rw [if_pos hc] at he
          cases he
        · -- the slot held the answered call and no other
          rw [if_neg hc, hpk.1, hpk.2] at he
          obtain ⟨slot', held', hcall'⟩ := (h.element c path kind).mp ⟨purpose', he⟩
          rw [held] at held'
          rw [← Option.some.inj held', hcall] at hcall'
          exact absurd hcall'.symm hc
      · intro ⟨_, he, _⟩
        cases he
    · rw [if_neg hpk, ← h.element]
      by_cases hc : c = call
      · subst hc
        rw [if_pos rfl, routed]
        constructor
        · intro ⟨_, he⟩
          cases he
        · intro ⟨_, he⟩
          cases he
          exact absurd ⟨rfl, rfl⟩ hpk
      · rw [if_neg hc]
  · intro c
    -- the route taken away led to a slot, so the question's is another
    rw [routes, Table.get?_erase]
    show _ ↔ r.session.ownership.query = some c
    rw [← h.owner]
    by_cases hc : c = call
    · rw [if_pos hc, hc, routed]
      simp
    · rw [if_neg hc]
  · intro n hn
    show Table.get? (Table.erase r.session.callRoutes call) (r.session.numbering.call n) = none
    rw [Table.get?_erase]
    split
    · rfl
    · exact h.fresh n hn

/-- The calls of an element are those that routes name it for. -/
theorem mem_calls_iff (h : r.session.CallsRouted) {path : Path} {e : Element}
    (here : r.session.element? path = some e) (order : Listing) (c : CallId) :
    c ∈ (order.slots path e).map Slot.call ↔
      ∃ kind purpose, Table.get? r.session.callRoutes c = some (.element path kind purpose) := by
  rw [List.mem_map]
  constructor
  · rintro ⟨slot, hmem, rfl⟩
    obtain ⟨kind, hk⟩ := (order.mem_slots_iff path e slot).mp hmem
    have held : r.session.slot? path kind = some slot := by
      unfold Session.slot?
      rw [Session.look_of_element? here]
      exact hk
    exact ⟨kind, (h.element slot.call path kind).mpr ⟨slot, held, rfl⟩⟩
  · intro ⟨kind, routed⟩
    obtain ⟨slot, held, hcall⟩ := (h.element c path kind).mp routed
    unfold Session.slot? at held
    rw [Session.look_of_element? here] at held
    exact ⟨slot, (order.mem_slots_iff path e slot).mpr ⟨kind, held⟩, hcall⟩

theorem release (h : r.session.CallsRouted) {path : Path} {e : Element}
    (here : r.session.element? path = some e) :
    (r.releaseElement path).session.CallsRouted := by
  have gone := h.mem_calls_iff here r.session.listing
  have session := Run.releaseElement_session here
  have slots : ∀ p k, (r.releaseElement path).session.slot? p k =
      if p = path then none else r.session.slot? p k := fun p _ =>
    Session.look_of_erased (congrArg Session.registry session) p
  have routes : (r.releaseElement path).session.callRoutes =
      Table.eraseAll r.session.callRoutes ((r.session.listing.slots path e).map Slot.call) :=
    congrArg Session.callRoutes session
  constructor
  · intro c p k
    rw [routes, slots, Table.get?_eraseAll]
    by_cases hc : c ∈ (r.session.listing.slots path e).map Slot.call
    · -- a call of the released element is under way nowhere else
      rw [if_pos hc]
      obtain ⟨kind, purpose, routed⟩ := (gone c).mp hc
      by_cases hp : p = path
      · rw [if_pos hp]
        simp
      · rw [if_neg hp, ← h.element, routed]
        simp [Ne.symm hp]
    · rw [if_neg hc]
      by_cases hp : p = path
      · subst hp
        rw [if_pos rfl]
        constructor
        · intro ⟨purpose, routed⟩
          exact absurd ((gone c).mpr ⟨k, purpose, routed⟩) hc
        · intro ⟨_, he, _⟩
          cases he
      · rw [if_neg hp, h.element]
  · intro c
    have query : (r.releaseElement path).session.ownership.query = r.session.ownership.query := by
      rw [session]
    -- the routes taken away led to slots, so the question's stays
    rw [routes, query, Table.get?_eraseAll, ← h.owner]
    by_cases hc : c ∈ (r.session.listing.slots path e).map Slot.call
    · obtain ⟨kind, purpose, routed⟩ := (gone c).mp hc
      rw [if_pos hc, routed]
      simp
    · rw [if_neg hc]
  · intro n hn
    rw [session] at hn ⊢
    show Table.get? (Table.eraseAll r.session.callRoutes _) (r.session.numbering.call n) = none
    rw [Table.get?_eraseAll]
    split
    · rfl
    · exact h.fresh n hn

end Session.CallsRouted

theorem Act.Enabled.callsRouted {a : Act} {r : Run} (enabled : a.Enabled r.session)
    (h : r.session.CallsRouted) : (a.perform r).session.CallsRouted := by
  cases a with
  | send path kind purpose completion call => exact h.send enabled
  | openQuery => exact h.openQuery enabled
  | closeQuery =>
    show r.closeQuery.session.CallsRouted
    cases asked : r.session.ownership.query with
    | none =>
      rw [Run.closeQuery_session, asked]
      exact h
    | some call =>
      rw [Run.closeQuery_session, asked]
      exact h.settle asked rfl (fun _ _ => rfl) rfl rfl rfl
  | release path =>
    obtain ⟨e, here⟩ := Option.isSome_iff_exists.mp enabled
    exact h.release here
  | answer call path kind => exact h.answer enabled
  | answerQuery call => exact h.settle enabled.2 rfl (fun _ _ => rfl) rfl rfl rfl
  | _ => exact h.of_same (enabled.sameCalls id)

end BusCache
