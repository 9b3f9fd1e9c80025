import BusCache.Proofs.Session.CallRoutes

/-!
# Signal routes — deliveries find the elements that hold their subscriptions

A subscription has a route exactly while an element holds it, and the route leads to that element;
the watch has a route of its own. No subscription is held twice, whether by two elements or under
two names of one element.
-/

namespace BusCache

/-- Subscriptions have routes exactly where they are held, each in one place. -/
structure Session.SignalsRouted (s : Session) : Prop where
  element : ∀ id path,
    (∃ route, Table.get? s.signalRoutes id = some route ∧ route.target? s.config = some path) ↔
      ∃ member, s.subscription? path member = some id
  owner : ∀ id, Table.get? s.signalRoutes id = some .nameOwner ↔ s.ownership.watch = some id
  member : ∀ id path m n,
    s.subscription? path m = some id → s.subscription? path n = some id → m = n
  fresh : ∀ n, s.issued ≤ n → Table.get? s.signalRoutes (s.numbering.subscription n) = none

/-! ## 1. Acts that leave subscriptions alone -/

structure Session.SameSignals (s t : Session) : Prop where
  subscription : ∀ p m, t.subscription? p m = s.subscription? p m
  routes : t.signalRoutes = s.signalRoutes
  watch : t.ownership.watch = s.ownership.watch
  config : t.config = s.config
  numbering : t.numbering = s.numbering
  issued : s.issued ≤ t.issued

def Act.MovesSignals : Act → Prop
  | subscribe _ _ _ => True
  | openWatch => True
  | closeWatch => True
  | release _ => True
  | _ => False

theorem Act.Enabled.sameSignals {a : Act} {r : Run} (enabled : a.Enabled r.session)
    (still : ¬ a.MovesSignals) : r.session.SameSignals (a.perform r).session := by
  cases a with
  | register path interface parent depth =>
    exact ⟨fun p _ => Session.look_of_set_blank (r.register_registry path _) enabled.1 rfl p,
      rfl, rfl, rfl, rfl, Nat.le_refl _⟩
  | send path kind purpose completion call =>
    exact ⟨fun p _ => Session.look_of_modified_kept
      (r.sendCall_registry path kind purpose completion call) (fun _ => rfl) p,
      rfl, rfl, rfl, rfl, Nat.le_succ _⟩
  | openQuery => exact ⟨fun _ _ => rfl, rfl, rfl, rfl, rfl, Nat.le_succ _⟩
  | closeQuery =>
    show r.session.SameSignals r.closeQuery.session
    rw [Run.closeQuery_session]
    split <;> exact ⟨fun _ _ => rfl, rfl, rfl, rfl, rfl, Nat.le_refl _⟩
  | merge path fetched =>
    exact ⟨fun p _ => Session.look_of_modified_kept (merge_registry path fetched r)
      (fun _ => rfl) p, rfl, rfl, rfl, rfl, Nat.le_refl _⟩
  | store path name value given =>
    exact ⟨fun p _ => Session.look_of_modified_kept (store_registry path name value given r)
      (fun _ => rfl) p, rfl, rfl, rfl, rfl, Nat.le_refl _⟩
  | drop path name =>
    exact ⟨fun p _ => Session.look_of_modified_kept (drop_registry path name r)
      (fun _ => rfl) p, rfl, rfl, rfl, rfl, Nat.le_refl _⟩
  | answer call path kind =>
    exact ⟨fun p _ => Session.look_of_modified_kept (answer_registry call path kind r)
      (fun _ => rfl) p, rfl, rfl, rfl, rfl, Nat.le_refl _⟩
  | answerQuery call => exact ⟨fun _ _ => rfl, rfl, rfl, rfl, rfl, Nat.le_refl _⟩
  | emit kind path payload => exact ⟨fun _ _ => rfl, rfl, rfl, rfl, rfl, Nat.le_refl _⟩
  | tell completion outcome => exact ⟨fun _ _ => rfl, rfl, rfl, rfl, rfl, Nat.le_refl _⟩
  | setState state => exact ⟨fun _ _ => rfl, rfl, rfl, rfl, rfl, Nat.le_refl _⟩
  | setUsers users => exact ⟨fun _ _ => rfl, rfl, rfl, rfl, rfl, Nat.le_refl _⟩
  | setHandler kind handler => exact ⟨fun _ _ => rfl, rfl, rfl, rfl, rfl, Nat.le_refl _⟩
  | relist order => exact ⟨fun _ _ => rfl, rfl, rfl, rfl, rfl, Nat.le_refl _⟩
  | _ => exact absurd trivial still

/-! ## 2. Acts that begin or end one -/

namespace Session.SignalsRouted

variable {r : Run}

theorem of_same {s t : Session} (h : s.SignalsRouted) (same : s.SameSignals t) :
    t.SignalsRouted where
  element id path := by
    rw [same.routes, same.config]
    simp only [same.subscription]
    exact h.element id path
  owner id := by
    rw [same.routes, same.watch]
    exact h.owner id
  member id path m n := by
    rw [same.subscription, same.subscription]
    exact h.member id path m n
  fresh n hn := by
    rw [same.routes, same.numbering]
    exact h.fresh n (Nat.le_trans same.issued hn)

/-- No subscription that is held has the number of the next one. -/
theorem nextSubscription_unrouted (h : r.session.SignalsRouted) :
    Table.get? r.session.signalRoutes r.nextSubscription = none :=
  h.fresh _ (Nat.le_refl _)

theorem subscription?_ne_next (h : r.session.SignalsRouted) (path : Path) (member : String) :
    r.session.subscription? path member ≠ some r.nextSubscription := by
  intro held
  obtain ⟨route, routed, _⟩ := (h.element r.nextSubscription path).mpr ⟨member, held⟩
  rw [h.nextSubscription_unrouted] at routed
  cases routed

/-- When the next number is given a route, the later ones still have none. -/
theorem later_unrouted (h : r.session.SignalsRouted) (route : SignalRoute) {n : Nat}
    (later : r.session.issued + 1 ≤ n) :
    Table.get? (Table.set r.session.signalRoutes r.nextSubscription route)
      (r.session.numbering.subscription n) = none := by
  have other : r.session.numbering.subscription n ≠ r.nextSubscription := by
    intro same
    have := r.session.numbering.subscription_injective same
    omega
  rw [Table.get?_set, if_neg other]
  exact h.fresh n (Nat.le_of_succ_le later)

theorem subscribe (h : r.session.SignalsRouted) {path : Path} {rule : SignalRule}
    {route : SignalRoute} (enabled : (Act.subscribe path rule route).Enabled r.session) :
    (r.openSubscription path rule route).session.SignalsRouted := by
  obtain ⟨_, here, free, _, _, target, _⟩ := enabled
  have held := Session.subscription?_of_added (r.openSubscription_registry path rule route) here
  have routes : (r.openSubscription path rule route).session.signalRoutes =
      Table.set r.session.signalRoutes r.nextSubscription route := rfl
  have config : (r.openSubscription path rule route).session.config = r.session.config := rfl
  constructor
  · intro id p
    rw [routes, config, Table.get?_set]
    simp only [held]
    -- the new subscription is held where its route leads, and nowhere else
    by_cases hid : id = r.nextSubscription
    · subst hid
      rw [if_pos rfl]
      constructor
      · rintro ⟨route', he, hp⟩
        rw [← Option.some.inj he, target] at hp
        exact ⟨rule.member, by rw [if_pos ⟨(Option.some.inj hp).symm, rfl⟩]⟩
      · rintro ⟨m, hm⟩
        split at hm
        · rename_i hpm
          exact ⟨route, rfl, hpm.1 ▸ target⟩
        · exact absurd hm (h.subscription?_ne_next p m)
    · -- another subscription keeps its holder and its name
      rw [if_neg hid, h.element]
      constructor
      · rintro ⟨m, hm⟩
        refine ⟨m, ?_⟩
        rw [if_neg]
        · exact hm
        · -- the name was free, so the old holder has another one
          rintro ⟨rfl, rfl⟩
          rw [free] at hm
          cases hm
      · rintro ⟨m, hm⟩
        split at hm
        · exact absurd (Option.some.inj hm).symm hid
        · exact ⟨m, hm⟩
  · intro id
    rw [routes, Table.get?_set]
    show _ ↔ r.session.ownership.watch = some id
    rw [← h.owner]
    -- the new route leads to an element, so it is not the watch's
    by_cases hid : id = r.nextSubscription
    · subst hid
      rw [if_pos rfl, h.nextSubscription_unrouted]
      constructor
      · intro he
        rw [Option.some.inj he] at target
        cases target
      · intro he
        cases he
    · rw [if_neg hid]
  · intro id p m n hm hn
    rw [held] at hm hn
    -- the new subscription is under one name, and the others under the names they had
    by_cases hpm : p = path ∧ m = rule.member
    · rw [if_pos hpm] at hm
      by_cases hpn : p = path ∧ n = rule.member
      · rw [hpm.2, hpn.2]
      · rw [if_neg hpn, ← hm] at hn
        exact absurd hn (h.subscription?_ne_next p n)
    · rw [if_neg hpm] at hm
      by_cases hpn : p = path ∧ n = rule.member
      · rw [if_pos hpn] at hn
        rw [← hn] at hm
        exact absurd hm (h.subscription?_ne_next p m)
      · rw [if_neg hpn] at hn
        exact h.member id p m n hm hn
  · exact fun _ later => h.later_unrouted _ later

theorem openWatch (h : r.session.SignalsRouted) (unwatched : r.session.ownership.watch = none) :
    r.openWatch.session.SignalsRouted := by
  have routes : r.openWatch.session.signalRoutes =
      Table.set r.session.signalRoutes r.nextSubscription .nameOwner := rfl
  have held : ∀ p m, r.openWatch.session.subscription? p m = r.session.subscription? p m :=
    fun _ _ => rfl
  have config : r.openWatch.session.config = r.session.config := rfl
  constructor
  · intro id p
    simp only [held]
    rw [routes, config, Table.get?_set, ← h.element]
    by_cases hid : id = r.nextSubscription
    · subst hid
      rw [if_pos rfl, h.nextSubscription_unrouted]
      constructor
      · rintro ⟨_, he, target⟩
        rw [← Option.some.inj he] at target
        cases target
      · rintro ⟨_, he, _⟩
        cases he
    · rw [if_neg hid]
  · intro id
    rw [routes, Table.get?_set]
    show _ ↔ some r.nextSubscription = some id
    -- nothing was watched, so no older subscription has this route
    by_cases hid : id = r.nextSubscription
    · rw [if_pos hid, hid]
      simp
    · rw [if_neg hid, h.owner, unwatched]
      simp [Ne.symm hid]
  · intro id p m n hm hn
    exact h.member id p m n hm hn
  · exact fun _ later => h.later_unrouted _ later

theorem closeWatch (h : r.session.SignalsRouted) : r.closeWatch.session.SignalsRouted := by
  rw [Run.closeWatch_session]
  cases watched : r.session.ownership.watch with
  | none => exact h
  | some watch =>
    have routed := (h.owner watch).mpr watched
    constructor
    · intro id p
      show (∃ route, Table.get? (Table.erase r.session.signalRoutes watch) id = some route
        ∧ route.target? r.session.config = some p) ↔ ∃ m, r.session.subscription? p m = some id
      rw [Table.get?_erase, ← h.element]
      -- the route taken away was the watch's, which leads to no element
      by_cases hid : id = watch
      · rw [if_pos hid, hid, routed]
        constructor
        · rintro ⟨_, he, _⟩
          cases he
        · rintro ⟨_, he, target⟩
          rw [← Option.some.inj he] at target
          cases target
      · rw [if_neg hid]
    · intro id
      show Table.get? (Table.erase r.session.signalRoutes watch) id = some .nameOwner
        ↔ none = some id
      rw [Table.get?_erase]
      by_cases hid : id = watch
      · simp [hid]
      · rw [if_neg hid, h.owner, watched]
        simp [Ne.symm hid]
    · exact h.member
    · intro n hn
      show Table.get? (Table.erase r.session.signalRoutes watch)
        (r.session.numbering.subscription n) = none
      rw [Table.get?_erase]
      split
      · rfl
      · exact h.fresh n hn

/-- The subscriptions of an element are those that routes lead to it from. -/
theorem mem_subscriptions_iff (h : r.session.SignalsRouted) {path : Path} {e : Element}
    (here : r.session.element? path = some e) (order : Listing) (id : SubscriptionId) :
    id ∈ order.subscriptions path e ↔
      ∃ route, Table.get? r.session.signalRoutes id = some route
        ∧ route.target? r.session.config = some path := by
  rw [h.element, order.mem_subscriptions_iff]
  unfold Session.subscription?
  simp only [Session.look_of_element? here]

theorem release (h : r.session.SignalsRouted) {path : Path} {e : Element}
    (here : r.session.element? path = some e) :
    (r.releaseElement path).session.SignalsRouted := by
  have gone := h.mem_subscriptions_iff here r.session.listing
  have session := Run.releaseElement_session here
  have held : ∀ p m, (r.releaseElement path).session.subscription? p m =
      if p = path then none else r.session.subscription? p m := fun p _ =>
    Session.look_of_erased (congrArg Session.registry session) p
  have routes : (r.releaseElement path).session.signalRoutes =
      Table.eraseAll r.session.signalRoutes (r.session.listing.subscriptions path e) :=
    congrArg Session.signalRoutes session
  have config : (r.releaseElement path).session.config = r.session.config := by rw [session]
  constructor
  · intro id p
    rw [routes, config, Table.get?_eraseAll]
    simp only [held]
    by_cases hid : id ∈ r.session.listing.subscriptions path e
    · -- a subscription of the released element is held nowhere else
      rw [if_pos hid]
      obtain ⟨route, routed, target⟩ := (gone id).mp hid
      by_cases hp : p = path
      · simp [hp]
      · simp only [if_neg hp]
        rw [← h.element, routed]
        constructor
        · rintro ⟨_, he, _⟩
          cases he
        · rintro ⟨_, he, target'⟩
          rw [← Option.some.inj he, target] at target'
          exact absurd (Option.some.inj target').symm hp
    · rw [if_neg hid]
      by_cases hp : p = path
      · subst hp
        constructor
        · exact fun routed => absurd ((gone id).mpr routed) hid
        · simp
      · simp only [if_neg hp]
        rw [h.element]
  · intro id
    -- the watch is held by no element, so its route stays
    have watch : (r.releaseElement path).session.ownership.watch = r.session.ownership.watch := by
      rw [session]
    rw [routes, watch, Table.get?_eraseAll, ← h.owner]
    by_cases hid : id ∈ r.session.listing.subscriptions path e
    · obtain ⟨route, routed, target⟩ := (gone id).mp hid
      rw [if_pos hid, routed]
      constructor
      · intro he
        cases he
      · intro he
        rw [Option.some.inj he] at target
        cases target
    · rw [if_neg hid]
  · intro id p m n hm hn
    rw [held] at hm hn
    split at hm
    · cases hm
    · rename_i hp
      rw [if_neg hp] at hn
      exact h.member id p m n hm hn
  · intro n hn
    rw [session] at hn ⊢
    show Table.get? (Table.eraseAll r.session.signalRoutes _)
      (r.session.numbering.subscription n) = none
    rw [Table.get?_eraseAll]
    split
    · rfl
    · exact h.fresh n hn

end Session.SignalsRouted

theorem Act.Enabled.signalsRouted {a : Act} {r : Run} (enabled : a.Enabled r.session)
    (h : r.session.SignalsRouted) : (a.perform r).session.SignalsRouted := by
  cases a with
  | subscribe path rule route => exact h.subscribe enabled
  | openWatch => exact h.openWatch enabled
  | closeWatch => exact h.closeWatch
  | release path =>
    obtain ⟨e, here⟩ := Option.isSome_iff_exists.mp enabled
    exact h.release here
  | _ => exact h.of_same (enabled.sameSignals id)

end BusCache
