import BusCache.Proofs.Ledger
import BusCache.Proofs.Session.Effects
import BusCache.Proofs.Session.Routing

/-!
# Resources — what the transport gives out comes back

Seen from the transport, every subscription is held in one place until it is given back, and every
call is awaited in one place until it is answered or canceled. Nothing is given back twice, or
before it was given out. The books of a run are kept act by act, with the routes as the record of
what is live.
-/

namespace BusCache

/-! ## 1. Places -/

inductive Holder where
  | watch
  | element (path : Path) (member : String)

inductive Asker where
  | nameOwner
  | element (path : Path) (kind : CallKind)

namespace Session

def held? (s : Session) : Holder → Option SubscriptionId
  | .watch => s.ownership.watch
  | .element path member => s.subscription? path member

def awaited? (s : Session) : Asker → Option CallId
  | .nameOwner => s.ownership.query
  | .element path kind => (s.slot? path kind).map Slot.call

end Session

namespace Session

variable {s : Session}

theorem CallsRouted.awaited_iff (h : s.CallsRouted) (c : CallId) :
    (∃ asker, s.awaited? asker = some c) ↔ (Table.get? s.callRoutes c).isSome := by
  constructor
  · intro ⟨asker, held⟩
    cases asker with
    | nameOwner =>
      rw [(h.owner c).mpr held]
      rfl
    | element path kind =>
      obtain ⟨slot, hslot, hcall⟩ := Option.map_eq_some_iff.mp held
      obtain ⟨purpose, routed⟩ := (h.element c path kind).mpr ⟨slot, hslot, hcall⟩
      rw [routed]
      rfl
  · intro routed
    obtain ⟨route, routed⟩ := Option.isSome_iff_exists.mp routed
    cases route with
    | nameOwner => exact ⟨.nameOwner, (h.owner c).mp routed⟩
    | element path kind purpose =>
      obtain ⟨slot, hslot, hcall⟩ := (h.element c path kind).mp ⟨purpose, routed⟩
      exact ⟨.element path kind, Option.map_eq_some_iff.mpr ⟨slot, hslot, hcall⟩⟩

/-- The place of a call is the one that its route names. -/
theorem CallsRouted.asker_unique (h : s.CallsRouted) {c : CallId} {a b : Asker}
    (ha : s.awaited? a = some c) (hb : s.awaited? b = some c) : a = b := by
  -- both places are read off the one route of the call
  have route : ∀ x, s.awaited? x = some c → ∃ purpose, Table.get? s.callRoutes c =
      some (match x with
        | .nameOwner => .nameOwner
        | .element path kind => .element path kind purpose) := by
    intro x hx
    cases x with
    | nameOwner => exact ⟨.call, (h.owner c).mpr hx⟩
    | element path kind =>
      obtain ⟨slot, hslot, hcall⟩ := Option.map_eq_some_iff.mp hx
      exact (h.element c path kind).mpr ⟨slot, hslot, hcall⟩
  obtain ⟨pa, hra⟩ := route a ha
  obtain ⟨pb, hrb⟩ := route b hb
  rw [hra] at hrb
  cases a <;> cases b <;> simp_all

theorem SignalsRouted.held_iff (h : s.SignalsRouted) (id : SubscriptionId) :
    (∃ holder, s.held? holder = some id) ↔ (Table.get? s.signalRoutes id).isSome := by
  constructor
  · intro ⟨holder, held⟩
    cases holder with
    | watch =>
      rw [(h.owner id).mpr held]
      rfl
    | element path member =>
      obtain ⟨route, routed, _⟩ := (h.element id path).mpr ⟨member, held⟩
      rw [routed]
      rfl
  · intro routed
    obtain ⟨route, routed⟩ := Option.isSome_iff_exists.mp routed
    cases target : route.target? s.config with
    | none =>
      rw [(route.target?_eq_none_iff s.config).mp target] at routed
      exact ⟨.watch, (h.owner id).mp routed⟩
    | some path =>
      obtain ⟨member, held⟩ := (h.element id path).mp ⟨route, routed, target⟩
      exact ⟨.element path member, held⟩

theorem SignalsRouted.holder_unique (h : s.SignalsRouted) {id : SubscriptionId} {a b : Holder}
    (ha : s.held? a = some id) (hb : s.held? b = some id) : a = b := by
  -- the watch and the elements have routes of different kinds
  have apart : ∀ path member, s.held? .watch = some id →
      s.held? (.element path member) ≠ some id := by
    intro path member watched held
    obtain ⟨route, routed, target⟩ := (h.element id path).mpr ⟨member, held⟩
    rw [(h.owner id).mpr watched] at routed
    rw [← Option.some.inj routed] at target
    cases target
  cases a with
  | watch =>
    cases b with
    | watch => rfl
    | element path member => exact absurd hb (apart path member ha)
  | element path member =>
    cases b with
    | watch => exact absurd ha (apart path member hb)
    | element other name =>
      obtain ⟨route, routed, target⟩ := (h.element id path).mpr ⟨member, ha⟩
      obtain ⟨route', routed', target'⟩ := (h.element id other).mpr ⟨name, hb⟩
      rw [routed] at routed'
      rw [← Option.some.inj routed', target] at target'
      -- one route leads to one element, which files the subscription under one name
      have hp : path = other := Option.some.inj target'
      subst hp
      rw [h.member id path member name ha hb]

end Session

theorem Session.CallsRouted.calls_nodup {s : Session} (h : s.CallsRouted) {path : Path}
    {e : Element} (here : s.element? path = some e) (tidy : e.Tidy) (order : Listing) :
    ((order.slots path e).map Slot.call).Nodup := by
  apply tidy.1.nodup_map_getAll (order.kinds_perm path e)
  intro k l v w hv hw he
  have slot : ∀ kind x, Table.get? e.pending kind = some x →
      s.awaited? (.element path kind) = some x.call := by
    intro kind x hx
    show (s.slot? path kind).map Slot.call = some x.call
    unfold Session.slot?
    rw [Session.look_of_element? here, hx, Option.map_some]
  have same := h.asker_unique (slot k v hv) ((slot l w hw).trans (congrArg some he.symm))
  exact (Asker.element.inj same).2

theorem Session.SignalsRouted.subscriptions_nodup {s : Session} (h : s.SignalsRouted) {path : Path}
    {e : Element} (here : s.element? path = some e) (tidy : e.Tidy) (order : Listing) :
    (order.subscriptions path e).Nodup := by
  have nodup : ((order.subscriptions path e).map id).Nodup := by
    apply tidy.2.nodup_map_getAll (order.perm _ _)
    intro m n v w hv hw he
    have held : ∀ member x, Table.get? e.subscriptions member = some x →
        s.subscription? path member = some x := by
      intro member x hx
      unfold Session.subscription?
      rw [Session.look_of_element? here, hx]
    exact h.member v path m n (held m v hv) ((held n w hw).trans (congrArg some he.symm))
  rwa [List.map_id] at nodup

/-! ## 2. The books along acts -/

/-- The call whose reply an act takes. -/
def Act.answers? : Act → Option CallId
  | answer call _ _ => some call
  | answerQuery call => some call
  | _ => none

theorem Act.Comes.unheard {a : Act} (h : a.Comes) : a.answers? = none := by
  cases a <;> first | exact h.elim | rfl

theorem Act.Changes.unheard {a : Act} (h : a.Changes) : a.answers? = none := by
  cases a <;> first | exact h.elim | rfl

theorem Operation.Takes.unheard {op : Operation} {a : Act} (h : op.Takes a) :
    a.answers? = none := by
  cases a <;> first | exact h.elim | rfl

namespace Run

/-- Whatever was given back had been given out before. -/
def Follows {ι : Type} (back out : Effect → Option ι) (r : Run) : Prop :=
  ∀ before, before <+: r.trace → ∀ id ∈ before.filterMap (fun m => back m.effect),
    id ∈ before.filterMap fun m => out m.effect

/-- The state of the transport's books after a run, given which calls were answered. -/
structure Books (answered : CallId → Prop) (r : Run) : Prop where
  routed : r.session.Routed
  calls : Ledger r.session.numbering.call r.session.issued (r.shown Effect.placed?)
    (r.shown Effect.canceled?) (fun c => (Table.get? r.session.callRoutes c).isSome) answered
  subscriptions : Ledger r.session.numbering.subscription r.session.issued
    (r.shown Effect.opened?) (r.shown Effect.closed?)
    (fun id => (Table.get? r.session.signalRoutes id).isSome) fun _ => False
  canceled_placed : r.Follows Effect.canceled? Effect.placed?
  closed_opened : r.Follows Effect.closed? Effect.opened?

theorem Follows.perform {ι : Type} {back out : Effect → Option ι} {r : Run}
    (h : r.Follows back out) {a : Act}
    (fits : ∀ id ∈ (a.shows r).filterMap back, id ∈ r.shown out) :
    (a.perform r).Follows back out := by
  obtain ⟨new, trace, effects⟩ := a.perform_trace r
  intro before hb id hid
  rw [trace] at hb
  obtain ⟨rest, hrest⟩ := hb
  -- the instant lies within what was shown before the act, or within what the act shows
  rcases List.append_eq_append_iff.mp hrest with ⟨more, hold, _⟩ | ⟨part, rfl, hnew⟩
  · exact h before ⟨more, hold.symm⟩ id hid
  · rw [List.filterMap_append, List.mem_append] at hid ⊢
    left
    rcases hid with old | fresh
    · exact h r.trace (List.prefix_refl _) id old
    · apply fits
      rw [← effects, List.filterMap_map, hnew, List.filterMap_append, List.mem_append]
      exact .inl fresh

end Run

namespace Act.Enabled

variable {a : Act} {r : Run} {answered : CallId → Prop}

theorem canceled_routed (enabled : a.Enabled r.session) (routed : r.session.Routed) :
    ∀ c ∈ (a.shows r).filterMap Effect.canceled?, (Table.get? r.session.callRoutes c).isSome := by
  intro c hc
  cases a with
  | closeQuery =>
    rw [closeQuery_canceled, Option.mem_toList] at hc
    rw [(routed.calls.owner c).mpr hc]
    rfl
  | closeWatch =>
    rw [closeWatch_unseen fun _ => rfl] at hc
    exact absurd hc List.not_mem_nil
  | release path =>
    obtain ⟨e, here⟩ := Option.isSome_iff_exists.mp enabled
    rw [release_canceled here] at hc
    obtain ⟨kind, purpose, hroute⟩ := (routed.calls.mem_calls_iff here _ c).mp hc
    rw [hroute]
    rfl
  | _ => exact absurd hc List.not_mem_nil

theorem closed_routed (enabled : a.Enabled r.session) (routed : r.session.Routed) :
    ∀ id ∈ (a.shows r).filterMap Effect.closed?,
      (Table.get? r.session.signalRoutes id).isSome := by
  intro id hid
  cases a with
  | closeWatch =>
    rw [closeWatch_closed, Option.mem_toList] at hid
    rw [(routed.signals.owner id).mpr hid]
    rfl
  | closeQuery =>
    rw [closeQuery_unseen fun _ => rfl] at hid
    exact absurd hid List.not_mem_nil
  | release path =>
    obtain ⟨e, here⟩ := Option.isSome_iff_exists.mp enabled
    rw [release_closed here] at hid
    obtain ⟨route, hroute, _⟩ := (routed.signals.mem_subscriptions_iff here _ id).mp hid
    rw [hroute]
    rfl
  | _ => exact absurd hid List.not_mem_nil

theorem calls_still (still : ¬ a.MovesCalls) :
    (a.shows r).filterMap Effect.placed? = [] ∧ (a.shows r).filterMap Effect.canceled? = [] := by
  cases a with
  | closeWatch => exact ⟨closeWatch_unseen (fun _ => rfl) r, closeWatch_unseen (fun _ => rfl) r⟩
  | send _ _ _ _ _ => exact absurd trivial still
  | openQuery => exact absurd trivial still
  | closeQuery => exact absurd trivial still
  | release _ => exact absurd trivial still
  | _ => exact ⟨rfl, rfl⟩

theorem signals_still (still : ¬ a.MovesSignals) :
    (a.shows r).filterMap Effect.opened? = [] ∧ (a.shows r).filterMap Effect.closed? = [] := by
  cases a with
  | closeQuery => exact ⟨closeQuery_unseen (fun _ => rfl) r, closeQuery_unseen (fun _ => rfl) r⟩
  | subscribe _ _ _ => exact absurd trivial still
  | openWatch => exact absurd trivial still
  | closeWatch => exact absurd trivial still
  | release _ => exact absurd trivial still
  | _ => exact ⟨rfl, rfl⟩

theorem answered_iff (unheard : a.answers? = none) (c : CallId) :
    answered c ∨ a.answers? = some c ↔ answered c := by
  rw [unheard]
  exact or_iff_left (fun h => by cases h)

theorem calls_ledger (enabled : a.Enabled r.session) (books : r.Books answered) :
    Ledger (a.perform r).session.numbering.call (a.perform r).session.issued
      ((a.perform r).shown Effect.placed?) ((a.perform r).shown Effect.canceled?)
      (fun c => (Table.get? (a.perform r).session.callRoutes c).isSome)
      fun c => answered c ∨ a.answers? = some c := by
  have h := books.calls
  have injective : ∀ {m n}, r.session.numbering.call m = r.session.numbering.call n → m = n :=
    r.session.numbering.call_injective
  rw [perform_shown, perform_shown]
  by_cases moves : a.MovesCalls
  · cases a with
    | send path kind purpose completion call =>
      show Ledger _ _ (_ ++ [r.nextCall]) (_ ++ []) _ _
      rw [List.append_nil]
      exact (h.opens injective fun c => Table.isSome_get?_set _ _ _ _).of_iff
        (Nat.le_refl _) (fun _ => Iff.rfl) (answered_iff rfl)
    | openQuery =>
      show Ledger _ _ (_ ++ [r.nextCall]) (_ ++ []) _ _
      rw [List.append_nil]
      exact (h.opens injective fun c => Table.isSome_get?_set _ _ _ _).of_iff
        (Nat.le_refl _) (fun _ => Iff.rfl) (answered_iff rfl)
    | closeQuery =>
      -- the question is canceled if it is open
      rw [closeQuery_unseen fun _ => rfl, List.append_nil]
      have held := canceled_routed enabled books.routed
      rw [closeQuery_canceled] at held ⊢
      show Ledger r.closeQuery.session.numbering.call r.closeQuery.session.issued _ _
        (fun c => (Table.get? r.closeQuery.session.callRoutes c).isSome) _
      rw [Run.closeQuery_session]
      cases asked : r.session.ownership.query with
      | none =>
        rw [Option.toList_none, List.append_nil]
        exact h.of_iff (Nat.le_refl _) (fun _ => Iff.rfl) (answered_iff rfl)
      | some call =>
        rw [asked] at held
        refine (h.closes (List.nodup_singleton call) held fun c => ?_).of_iff
          (Nat.le_refl _) (fun _ => Iff.rfl) (answered_iff rfl)
        rw [List.mem_singleton]
        exact Table.isSome_get?_erase _ _ _
    | release path =>
      -- all calls of the element are canceled, each of them once
      obtain ⟨e, here⟩ := Option.isSome_iff_exists.mp enabled
      rw [release_unseen (fun _ => rfl) (fun _ => rfl) (fun _ _ => rfl) (fun _ _ => rfl) here,
        List.append_nil]
      have held := canceled_routed enabled books.routed
      rw [release_canceled here] at held ⊢
      show Ledger (r.releaseElement path).session.numbering.call
        (r.releaseElement path).session.issued _ _
        (fun c => (Table.get? (r.releaseElement path).session.callRoutes c).isSome) _
      rw [Run.releaseElement_session here]
      have once := books.routed.calls.calls_nodup here (books.routed.tidy path e here)
        r.session.listing
      exact (h.closes once held fun c => Table.isSome_get?_eraseAll _ _ _).of_iff
        (Nat.le_refl _) (fun _ => Iff.rfl) (answered_iff rfl)
    | answer call path kind =>
      -- a reply settles the call, which is not canceled any more
      show Ledger _ _ (_ ++ []) (_ ++ []) _ _
      rw [List.append_nil, List.append_nil]
      obtain ⟨purpose, routed⟩ := enabled.1
      have held : (Table.get? r.session.callRoutes call).isSome := by
        rw [routed]
        rfl
      exact h.settles held (fun c => Table.isSome_get?_erase _ _ _)
        (fun c => or_congr_right ⟨fun he => (Option.some.inj he).symm, fun he => he ▸ rfl⟩)
    | answerQuery call =>
      show Ledger _ _ (_ ++ []) (_ ++ []) _ _
      rw [List.append_nil, List.append_nil]
      have held : (Table.get? r.session.callRoutes call).isSome := by
        rw [enabled.1]
        rfl
      exact h.settles held (fun c => Table.isSome_get?_erase _ _ _)
        (fun c => or_congr_right ⟨fun he => (Option.some.inj he).symm, fun he => he ▸ rfl⟩)
    | _ => exact moves.elim
  · have same := enabled.sameCalls moves
    rw [(calls_still moves).1, (calls_still moves).2, List.append_nil, List.append_nil,
      same.numbering, same.routes]
    refine h.of_iff same.issued (fun _ => Iff.rfl) (answered_iff ?_)
    cases a <;> first | rfl | exact absurd trivial moves

theorem subscriptions_ledger (enabled : a.Enabled r.session) (books : r.Books answered) :
    Ledger (a.perform r).session.numbering.subscription (a.perform r).session.issued
      ((a.perform r).shown Effect.opened?) ((a.perform r).shown Effect.closed?)
      (fun id => (Table.get? (a.perform r).session.signalRoutes id).isSome) fun _ => False := by
  have h := books.subscriptions
  have injective : ∀ {m n},
      r.session.numbering.subscription m = r.session.numbering.subscription n → m = n :=
    r.session.numbering.subscription_injective
  rw [perform_shown, perform_shown]
  by_cases moves : a.MovesSignals
  · cases a with
    | subscribe path rule route =>
      show Ledger _ _ (_ ++ [r.nextSubscription]) (_ ++ []) _ _
      rw [List.append_nil]
      exact h.opens injective fun id => Table.isSome_get?_set _ _ _ _
    | openWatch =>
      show Ledger _ _ (_ ++ [r.nextSubscription]) (_ ++ []) _ _
      rw [List.append_nil]
      exact h.opens injective fun id => Table.isSome_get?_set _ _ _ _
    | closeWatch =>
      rw [closeWatch_unseen fun _ => rfl, List.append_nil]
      have held := closed_routed enabled books.routed
      rw [closeWatch_closed] at held ⊢
      show Ledger r.closeWatch.session.numbering.subscription r.closeWatch.session.issued _ _
        (fun id => (Table.get? r.closeWatch.session.signalRoutes id).isSome) _
      rw [Run.closeWatch_session]
      cases watched : r.session.ownership.watch with
      | none =>
        rw [Option.toList_none, List.append_nil]
        exact h
      | some watch =>
        rw [watched] at held
        refine h.closes (List.nodup_singleton watch) held fun id => ?_
        rw [List.mem_singleton]
        exact Table.isSome_get?_erase _ _ _
    | release path =>
      -- all subscriptions of the element are given back, each of them once
      obtain ⟨e, here⟩ := Option.isSome_iff_exists.mp enabled
      rw [release_unseen (fun _ => rfl) (fun _ => rfl) (fun _ _ => rfl) (fun _ _ => rfl) here,
        List.append_nil]
      have held := closed_routed enabled books.routed
      rw [release_closed here] at held ⊢
      show Ledger (r.releaseElement path).session.numbering.subscription
        (r.releaseElement path).session.issued _ _
        (fun id => (Table.get? (r.releaseElement path).session.signalRoutes id).isSome) _
      rw [Run.releaseElement_session here]
      have once := books.routed.signals.subscriptions_nodup here (books.routed.tidy path e here)
        r.session.listing
      exact h.closes once held fun id => Table.isSome_get?_eraseAll _ _ _
    | _ => exact moves.elim
  · have same := enabled.sameSignals moves
    rw [(signals_still moves).1, (signals_still moves).2, List.append_nil, List.append_nil,
      same.numbering, same.routes]
    exact h.of_iff same.issued (fun _ => Iff.rfl) fun _ => Iff.rfl

/-- Every act keeps the books. -/
theorem books (enabled : a.Enabled r.session) (books : r.Books answered) :
    (a.perform r).Books fun c => answered c ∨ a.answers? = some c where
  routed := enabled.routed books.routed
  calls := enabled.calls_ledger books
  subscriptions := enabled.subscriptions_ledger books
  canceled_placed := books.canceled_placed.perform fun c hc =>
    books.calls.live_opened c (enabled.canceled_routed books.routed c hc)
  closed_opened := books.closed_opened.perform fun id hid =>
    books.subscriptions.live_opened id (enabled.closed_routed books.routed id hid)

end Act.Enabled

theorem Steps.books {P : Act → Prop} {r r' : Run} {answered : CallId → Prop} (h : Steps P r r')
    (unheard : ∀ a, P a → a.answers? = none) (start : r.Books answered) : r'.Books answered := by
  apply h.preserves (I := fun q => q.Books answered) _ start
  intro q a mem enabled books
  have same : (fun c => answered c ∨ a.answers? = some c) = answered :=
    funext fun c => propext (Act.Enabled.answered_iff (unheard a mem) c)
  have next := enabled.books books
  rwa [same] at next

/-! ## 3. The books along operations -/

theorem Operation.perform_books {r : Run} {answered : CallId → Prop} (sound : r.session.Sound)
    (books : r.Books answered) (op : Operation) :
    (op.perform r).2.Books fun c => answered c
      ∨ (∃ result, op = .dispatch (.reply c result))
        ∧ ∃ asker, r.session.awaited? asker = some c := by
  have live := books.routed.calls.awaited_iff
  cases op.course sound with
  | own steps unheard =>
    -- the operation takes no reply; if it is one, it has no route
    have same : (fun c => answered c ∨ (∃ result, op = .dispatch (.reply c result))
        ∧ ∃ asker, r.session.awaited? asker = some c) = answered := by
      funext c
      apply propext
      refine or_iff_left ?_
      intro ⟨⟨result, reply⟩, awaited⟩
      rw [live, unheard c result reply] at awaited
      cases awaited
    rw [same]
    exact steps.books (fun _ taken => taken.unheard) books
  | query call result reply enabled steps =>
    have same : (fun c => answered c ∨ (∃ result, op = .dispatch (.reply c result))
        ∧ ∃ asker, r.session.awaited? asker = some c) =
        fun c => answered c ∨ (Act.answerQuery call).answers? = some c := by
      funext c
      apply propext
      apply or_congr_right
      constructor
      · intro ⟨⟨other, he⟩, _⟩
        rw [reply] at he
        cases he
        rfl
      · intro he
        cases he
        -- the answer to the question settles the question's call
        exact ⟨⟨result, reply⟩, .nameOwner, enabled.2⟩
    rw [same]
    exact steps.books (fun _ comes => comes.unheard) (enabled.books books)
  | call call result path kind purpose completion r₁ reply hroute held steps after =>
    have enabled := Act.answer_enabled hroute held
    have same : (fun c => answered c ∨ (∃ result, op = .dispatch (.reply c result))
        ∧ ∃ asker, r.session.awaited? asker = some c) =
        fun c => answered c ∨ (Act.answer call path kind).answers? = some c := by
      funext c
      apply propext
      apply or_congr_right
      constructor
      · intro ⟨⟨other, he⟩, _⟩
        rw [reply] at he
        cases he
        rfl
      · intro he
        cases he
        refine ⟨⟨result, reply⟩, .element path kind, ?_⟩
        show (r.session.slot? path kind).map Slot.call = some call
        rw [held, Option.map_some]
    rw [same, after]
    have told := r₁.complete_steps completion (purpose.outcome result)
    apply told.books
    · rintro a ⟨c, _, rfl⟩
      rfl
    · exact steps.books (fun _ changes => changes.unheard) (enabled.books books)

/-! ## 4. Histories -/

/-- A reply to a call was delivered while the call was awaited. -/
def Run.Answered (r : Run) (ops : List Operation) (c : CallId) : Prop :=
  ∃ before result after, ops = before ++ .dispatch (.reply c result) :: after
    ∧ ∃ asker, (r.performAll before).session.awaited? asker = some c

theorem Run.answered_concat (r : Run) (ops : List Operation) (op : Operation) (c : CallId) :
    r.Answered (ops ++ [op]) c ↔ r.Answered ops c
      ∨ (∃ result, op = .dispatch (.reply c result))
        ∧ ∃ asker, (r.performAll ops).session.awaited? asker = some c := by
  unfold Answered
  constructor
  · intro ⟨before, result, after, split, awaited⟩
    rcases concat_eq_append_cons_iff.mp split with ⟨_, rfl, rfl⟩ | ⟨rest, _, rfl⟩
    · exact .inr ⟨⟨result, rfl⟩, awaited⟩
    · exact .inl ⟨before, result, rest, rfl, awaited⟩
  · rintro (⟨before, result, after, rfl, awaited⟩ | ⟨⟨result, rfl⟩, awaited⟩)
    · refine ⟨before, result, after ++ [op], ?_, awaited⟩
      rw [List.append_assoc, List.cons_append]
    · exact ⟨ops, result, [], rfl, awaited⟩

namespace Run

variable (config : Config) (numbering : Numbering) (listing : Listing)

theorem start_books : (start config numbering listing).Books fun _ => False where
  routed := Session.new_routed config numbering listing
  calls := Ledger.empty _ _ (fun _ h => by cases h) fun _ h => h
  subscriptions := Ledger.empty _ _ (fun _ h => by cases h) fun _ h => h
  canceled_placed before hb c hc := by
    rw [List.prefix_nil.mp hb] at hc
    cases hc
  closed_opened before hb id hid := by
    rw [List.prefix_nil.mp hb] at hid
    cases hid

theorem performAll_books (ops : List Operation) :
    ((start config numbering listing).performAll ops).Books
      ((start config numbering listing).Answered ops) := by
  -- on the last operation, with the calls answered before it
  induction ops using List.reverseRecOn with
  | nil =>
    have none : (start config numbering listing).Answered [] = fun _ => False := by
      funext c
      apply propext
      refine ⟨?_, False.elim⟩
      intro ⟨before, result, after, split, _⟩
      cases before <;> cases split
    rw [none]
    exact start_books config numbering listing
  | append_singleton ops op ih =>
    have sound := performAll_sound (start_sound config numbering listing) ops
    have next := op.perform_books sound ih
    rw [performAll_concat]
    have same : (start config numbering listing).Answered (ops ++ [op]) = _ :=
      funext fun c => propext (answered_concat _ ops op c)
    rw [same]
    exact next

theorem shutdown_one {r : Run} (last : r.session.users = 1) :
    r.shutdown =
      (if (r.setUsers 0).session.state.isPresent then (r.setUsers 0).exit
        else (r.setUsers 0).removeAll).closeWatch.closeQuery := by
  unfold shutdown
  rw [last]
  rfl

/-- The last user leaves nothing behind. -/
theorem shutdown_last {r : Run} (last : r.session.users = 1) :
    (∀ path, r.shutdown.session.element? path = none)
      ∧ r.shutdown.session.ownership.watch = none ∧ r.shutdown.session.ownership.query = none := by
  rw [shutdown_one last]
  refine ⟨fun path => ?_, ?_, ?_⟩
  · rw [Session.element?_of_registry_eq (closeQuery_registry _),
      Session.element?_of_registry_eq (closeWatch_registry _)]
    split
    · exact removeAll_element? _ path
    · exact removeAll_element? _ path
  · rw [closeQuery_ownership, closeWatch_ownership]
  · rw [closeQuery_ownership]

end Run

theorem Session.held?_of_empty {s : Session} (empty : ∀ path, s.element? path = none)
    (unwatched : s.ownership.watch = none) (holder : Holder) : s.held? holder = none := by
  cases holder with
  | watch => exact unwatched
  | element path member => exact Session.look_of_element?_none (empty path)

theorem Session.awaited?_of_empty {s : Session} (empty : ∀ path, s.element? path = none)
    (unasked : s.ownership.query = none) (asker : Asker) : s.awaited? asker = none := by
  cases asker with
  | nameOwner => exact unasked
  | element path kind =>
    show (s.slot? path kind).map Slot.call = none
    unfold slot?
    rw [Session.look_of_element?_none (empty path), Option.map_none]

/-- The transport's resources are conserved in every history. A subscription that was given out is
held in one place and was never given back, or it is held nowhere and was given back once. A call
that was placed is awaited in one place, or was answered while it was awaited, or was canceled once,
and only one of the three. At every instant, what was given back by then had been given out by then.
When the last user leaves, nothing is held any more. -/
theorem resources_conserved (config : Config) (numbering : Numbering) (listing : Listing)
    (ops : List Operation) :
    let r₀ := Run.start config numbering listing
    let r := r₀.performAll ops
    (∀ id ∈ r.shown Effect.opened?,
      (∃! holder, r.session.held? holder = some id) ∧ id ∉ r.shown Effect.closed?
        ∨ (∀ holder, r.session.held? holder ≠ some id)
          ∧ (r.shown Effect.closed?).count id = 1)
    ∧ (∀ c ∈ r.shown Effect.placed?,
      (∃! asker, r.session.awaited? asker = some c)
          ∧ c ∉ r.shown Effect.canceled? ∧ ¬ r₀.Answered ops c
        ∨ r₀.Answered ops c
          ∧ c ∉ r.shown Effect.canceled? ∧ (∀ asker, r.session.awaited? asker ≠ some c)
        ∨ (r.shown Effect.canceled?).count c = 1
          ∧ (∀ asker, r.session.awaited? asker ≠ some c) ∧ ¬ r₀.Answered ops c)
    ∧ (∀ before, before <+: r.trace →
      (∀ id ∈ before.filterMap (fun m => m.effect.closed?),
        id ∈ before.filterMap fun m => m.effect.opened?)
      ∧ ∀ c ∈ before.filterMap (fun m => m.effect.canceled?),
        c ∈ before.filterMap fun m => m.effect.placed?)
    ∧ (r.session.users = 1 →
      (∀ holder, (Operation.shutdown.perform r).2.session.held? holder = none)
      ∧ ∀ asker, (Operation.shutdown.perform r).2.session.awaited? asker = none) := by
  intro r₀ r
  have books : r.Books (r₀.Answered ops) := Run.performAll_books config numbering listing ops
  have calls := books.routed.calls
  have signals := books.routed.signals
  refine ⟨?_, ?_, ?_, ?_⟩
  · intro id hid
    -- subscriptions are never settled by the other side, which leaves two states
    rcases books.subscriptions.trichotomy hid with ⟨live, kept, _⟩ | ⟨done, _⟩ | ⟨once, gone, _⟩
    · obtain ⟨holder, held⟩ := (signals.held_iff id).mpr live
      exact .inl ⟨⟨holder, held, fun _ other => signals.holder_unique other held⟩, kept⟩
    · exact done.elim
    · exact .inr ⟨fun holder held => gone ((signals.held_iff id).mp ⟨holder, held⟩), once⟩
  · intro c hc
    have awaited : ¬ (Table.get? r.session.callRoutes c).isSome →
        ∀ asker, r.session.awaited? asker ≠ some c :=
      fun gone asker held => gone ((calls.awaited_iff c).mp ⟨asker, held⟩)
    rcases books.calls.trichotomy hc with
      ⟨live, kept, unanswered⟩ | ⟨done, kept, gone⟩ | ⟨once, gone, unanswered⟩
    · obtain ⟨asker, held⟩ := (calls.awaited_iff c).mpr live
      exact .inl ⟨⟨asker, held, fun _ other => calls.asker_unique other held⟩, kept,
        unanswered⟩
    · exact .inr (.inl ⟨done, kept, awaited gone⟩)
    · exact .inr (.inr ⟨once, awaited gone, unanswered⟩)
  · exact fun before hb => ⟨books.closed_opened before hb, books.canceled_placed before hb⟩
  · intro last
    obtain ⟨empty, unwatched, unasked⟩ := Run.shutdown_last last
    exact ⟨Session.held?_of_empty empty unwatched, Session.awaited?_of_empty empty unasked⟩

end BusCache
