import BusCache.Proofs.Session.Decomposition

/-!
# Effects — what each act shows

An act shows a list of effects that depends on the run before it alone, and operations only ever
append to what was shown. So whatever is read off the effects of a run (what the transport was asked
for, which elements were removed, what completions were told) is read off act by act.
-/

namespace BusCache

namespace Effect

def opened? : Effect → Option SubscriptionId
  | watch id _ => some id
  | subscribe id _ => some id
  | _ => none

def closed? : Effect → Option SubscriptionId
  | unsubscribe id => some id
  | _ => none

def placed? : Effect → Option CallId
  | query id _ => some id
  | call id _ => some id
  | _ => none

/-- A call and its number. -/
def call? : Effect → Option (CallId × MethodCall)
  | call id sent => some (id, sent)
  | _ => none

def canceled? : Effect → Option CallId
  | cancel id => some id
  | _ => none

def removed? : Effect → Option Path
  | event ⟨.elementRemoved, path, _⟩ _ => some path
  | _ => none

def event? : Effect → Option Event
  | event e _ => some e
  | _ => none

def told? (c : Completion) : Effect → Option (Except BusError (List Value))
  | complete d outcome => if d = c then some outcome else none
  | _ => none

end Effect

/-! ## 1. Effects of a run -/

namespace Run

/-- What is read off the effects of a run, in their order. -/
def shown {α : Type} (f : Effect → Option α) (r : Run) : List α :=
  r.trace.filterMap fun m => f m.effect

/-- The events of a run, whether or not a handler was told. -/
def events (r : Run) : List Event := r.shown Effect.event?

theorem shown_append {α : Type} (f : Effect → Option α) {r r' : Run} {new : List Moment}
    (h : r'.trace = r.trace ++ new) :
    r'.shown f = r.shown f ++ new.filterMap fun m => f m.effect := by
  unfold shown
  rw [h, List.filterMap_append]

theorem recordAll_trace (r : Run) (effects : List Effect) :
    (r.recordAll effects).trace = r.trace ++ effects.map fun e => ⟨e, r.session⟩ := by
  induction effects generalizing r with
  | nil =>
    rw [List.map_nil, List.append_nil]
    rfl
  | cons e rest ih =>
    -- showing an effect leaves the session as it is, so all are shown with the same one
    have next : (r.recordAll (e :: rest)).trace = ((r.record e).recordAll rest).trace := rfl
    rw [next, ih, record_session, List.map_cons]
    show (r.trace ++ [_]) ++ _ = _
    rw [List.append_assoc]
    rfl

end Run

/-! ## 2. Removal -/

namespace Element

/-- The calls and subscriptions that are given up when an element leaves. -/
def surrenders (order : Listing) (path : Path) (e : Element) : List Effect :=
  ((order.slots path e).map Slot.call).map .cancel
    ++ (order.subscriptions path e).map .unsubscribe

/-- The announcement that an element left, and what its completions are told then. -/
def partings (order : Listing) (path : Path) (handler : Option Handler) (e : Element) :
    List Effect :=
  .event ⟨.elementRemoved, path, .snapshot e.properties⟩ handler
    :: ((order.slots path e).filterMap Slot.completion).map fun c => .complete c (.error .canceled)

end Element

namespace Run

/-- What is given up is given up first, when the path no longer resolves. The announcement and the
completions come when no route is left either. -/
theorem releaseElement_trace {r : Run} {path : Path} {e : Element}
    (h : r.session.element? path = some e) :
    ∃ between : Session, between.registry = Table.erase r.session.registry path
      ∧ (r.releaseElement path).trace =
        r.trace ++ (e.surrenders r.session.listing path).map (fun x => ⟨x, between⟩)
          ++ (e.partings r.session.listing path (r.session.handlers .elementRemoved)).map
              fun x => ⟨x, (r.releaseElement path).session⟩ := by
  refine ⟨{ r.session with registry := Table.erase r.session.registry path }, rfl, ?_⟩
  rw [releaseElement_session h]
  unfold releaseElement
  rw [h]
  dsimp only
  rw [recordAll_trace]
  simp only [emit, record, update, recordAll_trace, recordAll_session, Element.surrenders,
    Element.partings, List.map_append, List.map_cons, List.append_assoc, List.cons_append,
    List.nil_append]

end Run

/-! ## 3. Acts -/

def Act.shows : Act → Run → List Effect
  | send _ _ _ _ call, r => [.call r.nextCall call]
  | subscribe _ rule _, r => [.subscribe r.nextSubscription rule]
  | openWatch, r => [.watch r.nextSubscription r.session.config.service]
  | openQuery, r => [.query r.nextCall r.session.config.service]
  | closeWatch, r => r.session.ownership.watch.toList.map .unsubscribe
  | closeQuery, r => r.session.ownership.query.toList.map .cancel
  | release path, r =>
      match r.session.element? path with
      | none => []
      | some e =>
          e.surrenders r.session.listing path
            ++ e.partings r.session.listing path (r.session.handlers .elementRemoved)
  | emit kind path payload, r => [.event ⟨kind, path, payload⟩ (r.session.handlers kind)]
  | tell completion outcome, _ => [.complete completion outcome]
  | _, _ => []

theorem Act.perform_trace (a : Act) (r : Run) :
    ∃ new, (a.perform r).trace = r.trace ++ new ∧ new.map Moment.effect = a.shows r := by
  cases a with
  | release path =>
    show ∃ new, (r.releaseElement path).trace = r.trace ++ new ∧ _
    cases h : r.session.element? path with
    | none =>
      rw [Run.releaseElement_of_none h]
      refine ⟨[], (List.append_nil _).symm, ?_⟩
      simp only [shows, h, List.map_nil]
    | some e =>
      -- both parts of what a removal shows, whatever the sessions at their instants
      obtain ⟨between, _, trace⟩ := Run.releaseElement_trace h
      rw [List.append_assoc] at trace
      refine ⟨_, trace, ?_⟩
      simp only [shows, h, List.map_append, List.map_map, Function.comp_def, List.map_id']
  | closeWatch =>
    show ∃ new, r.closeWatch.trace = r.trace ++ new ∧ _
    unfold Run.closeWatch
    simp only [shows]
    cases r.session.ownership.watch with
    | none => exact ⟨[], (List.append_nil _).symm, rfl⟩
    | some id => exact ⟨[_], rfl, rfl⟩
  | closeQuery =>
    show ∃ new, r.closeQuery.trace = r.trace ++ new ∧ _
    unfold Run.closeQuery
    simp only [shows]
    cases r.session.ownership.query with
    | none => exact ⟨[], (List.append_nil _).symm, rfl⟩
    | some id => exact ⟨[_], rfl, rfl⟩
  | send _ _ _ _ _ => exact ⟨[_], rfl, rfl⟩
  | subscribe _ _ _ => exact ⟨[_], rfl, rfl⟩
  | openWatch => exact ⟨[_], rfl, rfl⟩
  | openQuery => exact ⟨[_], rfl, rfl⟩
  | emit _ _ _ => exact ⟨[_], rfl, rfl⟩
  | tell _ _ => exact ⟨[_], rfl, rfl⟩
  | _ => exact ⟨[], (List.append_nil _).symm, rfl⟩

theorem Act.perform_shown {α : Type} (f : Effect → Option α) (a : Act) (r : Run) :
    (a.perform r).shown f = r.shown f ++ (a.shows r).filterMap f := by
  obtain ⟨new, trace, effects⟩ := a.perform_trace r
  rw [Run.shown_append f trace, ← effects, List.filterMap_map]
  rfl

/-! ## 4. Readings of what acts show -/

namespace Effect

variable {α β : Type} {f : Effect → Option α}

theorem filterMap_seen {g : α → Effect} (seen : ∀ x, f (g x) = some x) (l : List α) :
    (l.map g).filterMap f = l := by
  rw [List.filterMap_map]
  have same : f ∘ g = some := funext seen
  rw [same, List.filterMap_some]

theorem filterMap_unseen {g : β → Effect} (unseen : ∀ x, f (g x) = none) (l : List β) :
    (l.map g).filterMap f = [] := by
  rw [List.filterMap_map, List.filterMap_eq_nil_iff]
  exact fun x _ => unseen x

end Effect

namespace Element

variable (order : Listing) (path : Path) (e : Element)

theorem surrenders_canceled :
    (e.surrenders order path).filterMap Effect.canceled? =
      (order.slots path e).map Slot.call := by
  unfold surrenders
  rw [List.filterMap_append,
    Effect.filterMap_seen (f := Effect.canceled?) (g := .cancel) fun _ => rfl,
    Effect.filterMap_unseen (g := .unsubscribe) fun _ => rfl, List.append_nil]

theorem surrenders_closed :
    (e.surrenders order path).filterMap Effect.closed? = order.subscriptions path e := by
  unfold surrenders
  rw [List.filterMap_append, Effect.filterMap_unseen (g := .cancel) fun _ => rfl,
    Effect.filterMap_seen (f := Effect.closed?) (g := .unsubscribe) fun _ => rfl, List.nil_append]

theorem surrenders_unseen {α : Type} {f : Effect → Option α} (cancel : ∀ id, f (.cancel id) = none)
    (unsubscribe : ∀ id, f (.unsubscribe id) = none) :
    (e.surrenders order path).filterMap f = [] := by
  unfold surrenders
  rw [List.filterMap_append, Effect.filterMap_unseen cancel, Effect.filterMap_unseen unsubscribe,
    List.append_nil]

/-- A reading that sees neither announcements nor completions sees nothing of the partings. -/
theorem partings_unseen {α : Type} {f : Effect → Option α} (event : ∀ x h, f (.event x h) = none)
    (complete : ∀ c o, f (.complete c o) = none) (handler : Option Handler) :
    (e.partings order path handler).filterMap f = [] := by
  unfold partings
  rw [List.filterMap_cons_none (event _ _), Effect.filterMap_unseen fun _ => complete _ _]

end Element

namespace Act

variable {r : Run} {path : Path} {e : Element}

theorem shows_release (here : r.session.element? path = some e) :
    (release path).shows r =
      e.surrenders r.session.listing path
        ++ e.partings r.session.listing path (r.session.handlers .elementRemoved) := by
  simp only [shows, here]

theorem release_canceled (here : r.session.element? path = some e) :
    ((release path).shows r).filterMap Effect.canceled? =
      (r.session.listing.slots path e).map Slot.call := by
  rw [shows_release here, List.filterMap_append, Element.surrenders_canceled,
    Element.partings_unseen _ _ _ (fun _ _ => rfl) (fun _ _ => rfl), List.append_nil]

theorem release_closed (here : r.session.element? path = some e) :
    ((release path).shows r).filterMap Effect.closed? =
      r.session.listing.subscriptions path e := by
  rw [shows_release here, List.filterMap_append, Element.surrenders_closed,
    Element.partings_unseen _ _ _ (fun _ _ => rfl) (fun _ _ => rfl), List.append_nil]

theorem release_events (here : r.session.element? path = some e) :
    ((release path).shows r).filterMap Effect.event? =
      [⟨.elementRemoved, path, .snapshot e.properties⟩] := by
  rw [shows_release here, List.filterMap_append,
    Element.surrenders_unseen _ _ _ (fun _ => rfl) (fun _ => rfl), List.nil_append]
  unfold Element.partings
  rw [List.filterMap_cons_some (f := Effect.event?) rfl, Effect.filterMap_unseen fun _ => rfl]

theorem release_unseen {α : Type} {f : Effect → Option α} (cancel : ∀ id, f (.cancel id) = none)
    (unsubscribe : ∀ id, f (.unsubscribe id) = none) (event : ∀ x h, f (.event x h) = none)
    (complete : ∀ c o, f (.complete c o) = none) (here : r.session.element? path = some e) :
    ((release path).shows r).filterMap f = [] := by
  rw [shows_release here, List.filterMap_append, Element.surrenders_unseen _ _ _ cancel unsubscribe,
    Element.partings_unseen _ _ _ event complete, List.append_nil]

theorem closeQuery_canceled (r : Run) :
    (closeQuery.shows r).filterMap Effect.canceled? = r.session.ownership.query.toList :=
  Effect.filterMap_seen (f := Effect.canceled?) (g := .cancel) (fun _ => rfl) _

theorem closeWatch_closed (r : Run) :
    (closeWatch.shows r).filterMap Effect.closed? = r.session.ownership.watch.toList :=
  Effect.filterMap_seen (f := Effect.closed?) (g := .unsubscribe) (fun _ => rfl) _

theorem closeQuery_unseen {α : Type} {f : Effect → Option α} (cancel : ∀ id, f (.cancel id) = none)
    (r : Run) : (closeQuery.shows r).filterMap f = [] :=
  Effect.filterMap_unseen (g := .cancel) cancel _

theorem closeWatch_unseen {α : Type} {f : Effect → Option α}
    (unsubscribe : ∀ id, f (.unsubscribe id) = none) (r : Run) :
    (closeWatch.shows r).filterMap f = [] :=
  Effect.filterMap_unseen (g := .unsubscribe) unsubscribe _

end Act

/-! ## 5. Readings of what sequences of acts show -/

/-- Nothing that was shown is taken back. -/
theorem Steps.trace_extends {P : Act → Prop} {r r' : Run} (h : Steps P r r') :
    r.trace <+: r'.trace := by
  apply h.preserves (I := fun q => r.trace <+: q.trace) _ (List.prefix_refl _)
  intro q a _ _ before
  obtain ⟨new, trace, _⟩ := a.perform_trace q
  rw [trace]
  exact before.trans (List.prefix_append _ _)

/-- Acts that a reading does not see. -/
theorem Steps.shown_eq {α : Type} {f : Effect → Option α} {P : Act → Prop} {r r' : Run}
    (h : Steps P r r')
    (unseen : ∀ q a, P a → a.Enabled q.session → (a.shows q).filterMap f = []) :
    r'.shown f = r.shown f := by
  apply h.preserves (I := fun q => q.shown f = r.shown f) _ rfl
  intro q a mem enabled same
  rw [Act.perform_shown, unseen q a mem enabled, List.append_nil, same]

end BusCache
