import BusCache.Proofs.Session.Resources

/-!
# Lateness — events that nothing waits for

A reply answers a call, and a delivery comes from a subscription. When the call is no longer awaited
or the subscription no longer held, or when there never was one, the event does nothing at all. It
makes no difference what has become of the path that the call or the subscription once belonged to:
no number is given out twice, so an element that is registered there again has others.
-/

namespace BusCache

/-! ## 1. What an event is about -/

/-- What the transport numbers. -/
abbrev Request : Type := CallId ⊕ SubscriptionId

/-- The call or the subscription that an event comes from. -/
def BusEvent.source : BusEvent → Request
  | reply call _ => .inl call
  | signal subscription _ _ _ => .inr subscription
  | ownerChanged subscription _ _ _ => .inr subscription

/-- Some place of the session awaits the call, or holds the subscription. -/
def Session.Expects (s : Session) : Request → Prop
  | .inl call => ∃ asker, s.awaited? asker = some call
  | .inr subscription => ∃ holder, s.held? holder = some subscription

namespace Run

/-- The transport gave the number out. -/
def Issued (r : Run) : Request → Prop
  | .inl call => call ∈ r.shown Effect.placed?
  | .inr subscription => subscription ∈ r.shown Effect.opened?

/-- In a history, the call was answered or canceled, or the subscription was given back. -/
def Spent (r : Run) (ops : List Operation) : Request → Prop
  | .inl call => r.Answered ops call ∨ call ∈ (r.performAll ops).shown Effect.canceled?
  | .inr subscription => subscription ∈ (r.performAll ops).shown Effect.closed?

end Run

/-! ## 2. Events without a route -/

def Session.Routes (s : Session) : Request → Prop
  | .inl call => (Table.get? s.callRoutes call).isSome
  | .inr subscription => (Table.get? s.signalRoutes subscription).isSome

theorem Session.Routed.expects_iff {s : Session} (h : s.Routed) (source : Request) :
    s.Expects source ↔ s.Routes source := by
  cases source with
  | inl call => exact h.calls.awaited_iff call
  | inr subscription => exact h.signals.held_iff subscription

theorem Run.dispatch_of_unrouted {r : Run} {event : BusEvent}
    (unrouted : ¬ r.session.Routes event.source) : r.dispatch event = r := by
  cases event with
  | reply call result =>
    have none : Table.get? r.session.callRoutes call = none :=
      Option.not_isSome_iff_eq_none.mp unrouted
    exact handleReply_of_none none result
  | signal subscription path member args =>
    have none : Table.get? r.session.signalRoutes subscription = none :=
      Option.not_isSome_iff_eq_none.mp unrouted
    show r.handleSignal subscription member args = r
    unfold handleSignal
    rw [none]
  | ownerChanged subscription name oldOwner newOwner =>
    have none : Table.get? r.session.signalRoutes subscription = none :=
      Option.not_isSome_iff_eq_none.mp unrouted
    show r.handleOwnerChanged subscription name oldOwner newOwner = r
    unfold handleOwnerChanged
    rw [none, if_neg]
    rintro ⟨watched, _⟩
    cases watched

/-! ## 3. Histories -/

namespace Run

/-- What the session does not expect was never given out, or is done with. -/
theorem performAll_expects_iff (config : Config) (numbering : Numbering) (listing : Listing)
    (ops : List Operation) (source : Request) :
    ¬ ((start config numbering listing).performAll ops).session.Expects source ↔
      ¬ ((start config numbering listing).performAll ops).Issued source
        ∨ (start config numbering listing).Spent ops source := by
  have books := performAll_books config numbering listing ops
  rw [books.routed.expects_iff]
  cases source with
  | inl call => exact (books.calls.not_live_iff call).trans (or_congr_right or_comm)
  | inr subscription =>
    -- a subscription is never settled by the other side
    exact (books.subscriptions.not_live_iff subscription).trans (or_congr_right (or_iff_left id))

theorem Answered.later {r : Run} {before : List Operation} {call : CallId}
    (h : r.Answered before call) (after : List Operation) : r.Answered (before ++ after) call := by
  obtain ⟨first, result, rest, rfl, awaited⟩ := h
  exact ⟨first, result, rest ++ after, by rw [List.append_assoc, List.cons_append], awaited⟩

/-- What is done with stays done with. -/
theorem Spent.later {r : Run} (sound : r.session.Sound) {before : List Operation} {source : Request}
    (h : r.Spent before source) (after : List Operation) : r.Spent (before ++ after) source := by
  obtain ⟨new, trace⟩ := (performAll_acts (performAll_sound sound before) after).trace_extends
  rw [← performAll_append] at trace
  cases source with
  | inl call =>
    rcases h with answered | canceled
    · exact .inl (answered.later after)
    · right
      rw [shown_append Effect.canceled? trace.symm]
      exact List.mem_append_left _ canceled
  | inr subscription =>
    show subscription ∈ shown _ _
    rw [shown_append Effect.closed? trace.symm]
    exact List.mem_append_left _ h

end Run

/-- Late and foreign events are inert in every session that a history leads to. What a session does
not expect was never given out, or was answered, canceled or given back. An event from there is
taken without any effect and leaves the run as it was. So does one from what was done with at any
point of the history, whatever was registered at its path since then. -/
theorem late_events_inert (config : Config) (numbering : Numbering) (listing : Listing)
    (ops : List Operation) :
    let r₀ := Run.start config numbering listing
    let r := r₀.performAll ops
    (∀ source, ¬ r.session.Expects source ↔ ¬ r.Issued source ∨ r₀.Spent ops source)
    ∧ (∀ event : BusEvent, ¬ r.session.Expects event.source →
      (Operation.dispatch event).perform r = (.ok .done, r))
    ∧ ∀ (event : BusEvent) (before since : List Operation), ops = before ++ since →
      r₀.Spent before event.source → (Operation.dispatch event).perform r = (.ok .done, r) := by
  intro r₀ r
  have sound : r₀.session.Sound := Run.start_sound config numbering listing
  have routed : r.session.Routed := (Run.performAll_sound sound ops).routed
  have expected := Run.performAll_expects_iff config numbering listing ops
  have inert : ∀ event : BusEvent, ¬ r.session.Expects event.source →
      (Operation.dispatch event).perform r = (.ok .done, r) := by
    intro event unexpected
    rw [routed.expects_iff] at unexpected
    rw [Operation.perform_dispatch, Run.dispatch_of_unrouted unexpected]
  refine ⟨expected, inert, ?_⟩
  rintro event before since rfl spent
  exact inert event ((expected event.source).mpr (.inr (spent.later sound since)))

/-- The root was removed while it was fetched, and is registered and fetched again. The reply to the
first fetch comes when the second one is under way. -/
theorem late_reply_after_return_inert :
    let config : Config :=
      { service := "net.connman", rootPath := "/", rootInterface := "net.connman.Manager",
        protocol := .legacy }
    let before : List Operation :=
      [.init, .dispatch (.ownerChanged ⟨1⟩ "net.connman" "" ":1.5"), .remove "/"]
    let since : List Operation := [.create "/" "net.connman.Manager", .sync "/" none]
    let r₀ := Run.start config .counting .ascending
    let r := r₀.performAll (before ++ since)
    let reply : BusEvent := .reply ⟨4⟩ (.ok [])
    r.session.awaited? (.element "/" .propertiesGet) = some ⟨6⟩
    ∧ r.session.held? (.element "/" "PropertyChanged") = some ⟨5⟩
    ∧ r₀.Spent before reply.source
    ∧ (Operation.dispatch reply).perform r = (.ok .done, r) := by
  intro config before since
  have evaluated :
      (((Run.start config .counting .ascending).performAll before).shown Effect.canceled?,
        ((Run.start config .counting .ascending).performAll (before ++ since)).session.awaited?
          (.element "/" .propertiesGet),
        ((Run.start config .counting .ascending).performAll (before ++ since)).session.held?
          (.element "/" "PropertyChanged")) = ([⟨4⟩], some ⟨6⟩, some ⟨5⟩) := by
    subst config before since
    rfl
  obtain ⟨canceled, rest⟩ := Prod.mk.inj evaluated
  obtain ⟨awaited, held⟩ := Prod.mk.inj rest
  have spent : (Run.start config .counting .ascending).Spent before (.inl ⟨4⟩) := by
    right
    rw [canceled]
    exact List.mem_singleton_self _
  obtain ⟨_, _, inert⟩ := late_events_inert config .counting .ascending (before ++ since)
  exact ⟨awaited, held, spent, inert (.reply ⟨4⟩ (.ok [])) before since rfl spent⟩

end BusCache
