import BusCache.Proofs.Session.Announcements
import BusCache.Proofs.Session.Trees

/-!
# Teardown — what is left when the service goes away

However the service goes, every element leaves, each once and after those discovered through it, and
is announced with its last properties. Then the service is announced down. Nothing is left of the
elements: no call, no subscription and no route.
-/

namespace BusCache

/-! ## 1. What elements leave behind -/

/-- The event that an element left, with the properties that it had last. -/
def Event.removal (left : Path × Element) : Event :=
  ⟨.elementRemoved, left.1, .snapshot left.2.properties⟩

namespace Run.Sheds

variable {r r' : Run} {gone : List (Path × Element)}

/-- What is read off the removals, element by element. -/
theorem shown {α : Type} {f : Effect → Option α} (seen : Listing → Path × Element → List α)
    (release : ∀ q path e, q.session.element? path = some e →
      ((Act.release path).shows q).filterMap f = seen q.session.listing (path, e))
    (h : r.Sheds gone r') : r'.shown f = r.shown f ++ gone.flatMap (seen r.session.listing) := by
  induction h with
  | nothing => rw [List.flatMap_nil, List.append_nil]
  | @release r r' path e gone here _ _ ih =>
    have first : (r.releaseElement path).shown f =
        r.shown f ++ seen r.session.listing (path, e) := by
      rw [← release r path e here]
      exact Act.perform_shown f (.release path) r
    have order : (r.releaseElement path).session.listing = r.session.listing :=
      Act.perform_listing (a := .release path) (by rintro _ ⟨⟩) r
    rw [ih, first, order, List.flatMap_cons, List.append_assoc]

theorem events (h : r.Sheds gone r') : r'.events = r.events ++ gone.map Event.removal := by
  rw [List.map_eq_flatMap]
  exact h.shown (fun _ left => [Event.removal left]) fun _ _ _ here => Act.release_events here

theorem canceled (h : r.Sheds gone r') :
    r'.shown Effect.canceled? = r.shown Effect.canceled?
      ++ gone.flatMap fun left => (r.session.listing.slots left.1 left.2).map Slot.call :=
  h.shown (fun order left => (order.slots left.1 left.2).map Slot.call)
    fun _ _ _ here => Act.release_canceled here

theorem unsubscribed (h : r.Sheds gone r') :
    r'.shown Effect.closed? = r.shown Effect.closed?
      ++ gone.flatMap fun left => r.session.listing.subscriptions left.1 left.2 :=
  h.shown (fun order left => order.subscriptions left.1 left.2)
    fun _ _ _ here => Act.release_closed here

end Run.Sheds

/-! ## 2. Teardowns -/

/-- What a teardown does to a run, given the elements in the order in which they left and the run
when the service is down. The calls and the subscriptions of an element are given up in the order
in which the session goes through them. -/
structure Run.TornDown (r : Run) (gone : List (Path × Element)) (down : Run) : Prop where
  /-- No element leaves twice, -/
  once : (gone.map Prod.fst).Nodup
  /-- every element leaves, as it was when the teardown began, -/
  all : ∀ path e, (path, e) ∈ gone ↔ r.session.element? path = some e
  /-- and it leaves after all that were discovered through it. -/
  children_first : ∀ before parent after, gone = before ++ parent :: after →
    ∀ child ∈ gone, child.2.parent = some parent.1 → child ∈ before
  events : down.events = r.events
    ++ (gone.map Event.removal ++ [⟨.serviceDown, r.session.config.rootPath, .none⟩])
  canceled : down.shown Effect.canceled? = r.shown Effect.canceled?
    ++ gone.flatMap fun left => (r.session.listing.slots left.1 left.2).map Slot.call
  unsubscribed : down.shown Effect.closed? = r.shown Effect.closed?
    ++ gone.flatMap fun left => r.session.listing.subscriptions left.1 left.2
  empty : down.session.registry = []
  absent : down.session.state = .absent
  calls : ∀ call route, Table.get? down.session.callRoutes call = some route → route = .nameOwner
  signals : ∀ id route, Table.get? down.session.signalRoutes id = some route → route = .nameOwner
  watch : ∀ id, Table.get? down.session.signalRoutes id = some .nameOwner ↔
    r.session.ownership.watch = some id

namespace Run

variable {r : Run}

/-- A reading that does not see events sees only the removals. -/
theorem exit_shown {α : Type} {f : Effect → Option α} (unseen : ∀ e h, f (.event e h) = none) :
    r.exit.shown f = r.removeAll.shown f := by
  have emitted := Act.perform_shown f (.emit .serviceDown r.session.config.rootPath .none)
    (r.removeAll.setState .absent)
  rw [show (Act.emit .serviceDown r.session.config.rootPath .none).shows _ = [_] from rfl,
    List.filterMap_cons_none (unseen _ _), List.filterMap_nil, List.append_nil] at emitted
  exact emitted

theorem exit_tornDown (routed : r.session.Routed) (forest : r.session.Forest) :
    ∃ gone, r.TornDown gone r.exit := by
  obtain ⟨gone, shed, all⟩ := removeAll_sheds forest
  have empty : ∀ path, r.exit.session.element? path = none := removeAll_element? r
  have still := Session.still_of_empty empty
  have routed' := (exit_steps r).routed routed
  refine ⟨gone, ?_⟩
  constructor
  · exact shed.nodup
  · exact all
  · exact fun _ _ _ split _ left below => shed.children_first split left below
  · rw [exit_events, shed.events, List.append_assoc]
  · rw [exit_shown fun _ _ => rfl, shed.canceled]
  · rw [exit_shown fun _ _ => rfl, shed.unsubscribed]
  · exact (Table.eq_nil_iff _).mpr empty
  · exact exit_state r
  · exact fun _ _ => routed'.calls.of_still still
  · exact fun _ _ => routed'.signals.of_still still
  · intro id
    rw [routed'.signals.owner, exit_ownership]

/-! ## 3. Ways in which the service goes -/

theorem ownerChanged_tornDown (routed : r.session.Routed) (forest : r.session.Forest)
    {oldOwner newOwner : String} (exits : r.session.state.classify oldOwner newOwner = .exit) :
    ∃ gone, r.TornDown gone (r.ownerChanged oldOwner newOwner) := by
  unfold ownerChanged
  rw [exits]
  exact exit_tornDown routed forest

/-- A replaced service goes down as a whole before the new owner is taken on. -/
theorem ownerChanged_replaced (routed : r.session.Routed) (forest : r.session.Forest)
    {oldOwner newOwner owner : String}
    (replaces : r.session.state.classify oldOwner newOwner = .replace owner) :
    ∃ gone down, r.TornDown gone down ∧ r.ownerChanged oldOwner newOwner = down.enter owner
      ∧ (r.ownerChanged oldOwner newOwner).events =
        down.events ++ [⟨.serviceUp, r.session.config.rootPath, .owner owner⟩] := by
  obtain ⟨gone, torn⟩ := exit_tornDown routed forest
  have after : r.ownerChanged oldOwner newOwner = r.exit.enter owner := by
    unfold ownerChanged
    rw [replaces]
  refine ⟨gone, r.exit, torn, after, ?_⟩
  rw [after, enter_events, (exit_steps r).sameSetup.config]

theorem shutdown_tornDown (routed : r.session.Routed) (forest : r.session.Forest)
    (present : r.session.state.isPresent) (last : r.session.users = 1) :
    ∃ gone down, r.TornDown gone down ∧ r.shutdown = down.closeWatch.closeQuery
      ∧ down.session.ownership.watch = r.session.ownership.watch
      ∧ down.session.ownership.query = r.session.ownership.query := by
  -- counting the last user down concerns neither the elements nor what was shown
  have routed' := (Act.Enabled.routed (a := .setUsers 0) trivial routed)
  obtain ⟨gone, torn⟩ := exit_tornDown (r := r.setUsers 0) routed' forest
  refine ⟨gone, (r.setUsers 0).exit, { torn with }, ?_, ?_, ?_⟩
  · rw [shutdown_one last]
    exact congrArg (fun q : Run => q.closeWatch.closeQuery) (if_pos present)
  · rw [exit_ownership]
    rfl
  · rw [exit_ownership]
    rfl

/-- After the last user no route is left. -/
theorem shutdown_unrouted (routed : r.session.Routed) (last : r.session.users = 1) :
    r.shutdown.session.callRoutes = [] ∧ r.shutdown.session.signalRoutes = [] := by
  obtain ⟨empty, unwatched, unasked⟩ := shutdown_last last
  have left : r.shutdown.session.Routed := (shutdown_steps r).routed routed
  exact left.unrouted (Session.still_of_empty empty) unwatched unasked

end Run

/-- Teardown is complete and ordered in every session that a history leads to, in whatever orders it
went through its tables so far and goes through them from here on. It is the same when a
notification says that nobody owns the name, before a new owner is taken on, whether a notification
or the answer to the question names it, and when the last user leaves, who also gives up the watch
and the question. -/
theorem teardown_complete_and_ordered (config : Config) (numbering : Numbering) (listing : Listing)
    (ops : List Operation) (order : Listing) :
    let r := ((Run.start config numbering listing).performAll ops).relist order
    let up (owner : String) : Event := ⟨.serviceUp, r.session.config.rootPath, .owner owner⟩
    (∀ subscription oldOwner newOwner, r.session.ownership.watch = some subscription →
      let after := ((Operation.dispatch (.ownerChanged subscription r.session.config.service
        oldOwner newOwner)).perform r).2
      (r.session.state.classify oldOwner newOwner = .exit → ∃ gone, r.TornDown gone after)
      ∧ ∀ owner, r.session.state.classify oldOwner newOwner = .replace owner →
        ∃ gone down, r.TornDown gone down ∧ after = down.enter owner
          ∧ after.events = down.events ++ [up owner])
    ∧ (∀ call result owner rest, r.session.ownership.query = some call →
      result >>= WireValue.decodeAll = .ok (.string owner :: rest) →
      r.session.state.classify "" owner = .replace owner →
      let after := ((Operation.dispatch (.reply call result)).perform r).2
      ∃ gone down, r.TornDown gone down ∧ after = down.enter owner
        ∧ after.events = down.events ++ [up owner])
    ∧ (r.session.state.isPresent → r.session.users = 1 →
      let after := (Operation.shutdown.perform r).2
      ∃ gone down, r.TornDown gone down ∧ after.events = down.events
        ∧ after.session.registry = [] ∧ after.session.state = .absent
        ∧ after.session.callRoutes = [] ∧ after.session.signalRoutes = []
        ∧ after.shown Effect.canceled? =
          down.shown Effect.canceled? ++ r.session.ownership.query.toList
        ∧ after.shown Effect.closed? =
          down.shown Effect.closed? ++ r.session.ownership.watch.toList) := by
  intro r up
  have started := Run.start_sound config numbering listing
  have sound : r.session.Sound :=
    (Operation.relist order).perform_sound (Run.performAll_sound started ops)
  have routed := sound.routed
  have forest : r.session.Forest :=
    Run.performAll_forest started (Run.start_forest config numbering listing) ops
  refine ⟨?_, ?_, ?_⟩
  · intro subscription oldOwner newOwner watched after
    have told : after = r.ownerChanged oldOwner newOwner := by
      rw [← Run.handleOwnerChanged_watched routed watched]
      exact congrArg Prod.snd (Operation.perform_dispatch _ r)
    rw [told]
    exact ⟨Run.ownerChanged_tornDown routed forest,
      fun owner replaces => Run.ownerChanged_replaced routed forest replaces⟩
  · intro call result owner rest asked answer replaces after
    have enabled : (Act.answerQuery call).Enabled r.session :=
      ⟨(routed.calls.owner call).mpr asked, asked⟩
    have named := ServiceState.named_of_replace replaces
    have told : after = ((Act.answerQuery call).perform r).ownerChanged "" owner := by
      show ((Operation.dispatch (.reply call result)).perform r).2 = _
      rw [Operation.perform_reply, Run.handleReply_query enabled.1 enabled.2, answer]
      dsimp only
      rw [named]
      rfl
    rw [told]
    -- settling the question concerns neither the elements nor what was shown
    obtain ⟨gone, down, torn, entered, shown⟩ :=
      Run.ownerChanged_replaced (r := (Act.answerQuery call).perform r) (enabled.routed routed)
        forest replaces
    exact ⟨gone, down, { torn with }, entered, shown⟩
  · intro present last after
    obtain ⟨gone, down, torn, closed, watch, query⟩ :=
      Run.shutdown_tornDown routed forest present last
    obtain ⟨events, canceled, unsubscribed⟩ := down.closed_shown
    have told : after = r.shutdown := rfl
    obtain ⟨noCalls, noSignals⟩ := Run.shutdown_unrouted routed last
    refine ⟨gone, down, torn, ?_, ?_, ?_, ?_, ?_, ?_, ?_⟩
    · rw [told, closed, events]
    · rw [told]
      exact (Table.eq_nil_iff _).mpr (Run.shutdown_last last).1
    · rw [told, Run.shutdown_last_state last]
    · rw [told, noCalls]
    · rw [told, noSignals]
    · rw [told, closed, canceled, query]
    · rw [told, closed, unsubscribed, watch]

/-- A root and an element discovered through it, with a call under way on each. The session went
through its tables backwards until now, so the root, which came last, comes first. -/
theorem teardown_of_lost_tree :
    let config : Config :=
      { service := "net.connman", rootPath := "/", rootInterface := "net.connman.Manager",
        protocol := .legacy,
        lifecycle := [⟨"net.connman.Manager", "TechnologyAdded", .added "net.connman.Technology"⟩] }
    let ops : List Operation :=
      [.init, .dispatch (.ownerChanged ⟨1⟩ "net.connman" "" ":1.5"),
        .dispatch (.signal ⟨3⟩ "/" "TechnologyAdded" [.objectPath "/wifi"])]
    let descending : Listing := ⟨fun _ => List.reverse, fun _ => List.reverse_perm⟩
    let r := ((Run.start config .counting descending).performAll ops).relist .ascending
    r.session.parent? "/wifi" = some "/"
    ∧ r.session.ownership.watch = some ⟨1⟩
    ∧ r.session.state.classify ":1.5" "" = .exit
    ∧ ∃ gone, r.TornDown gone ((Operation.dispatch
        (.ownerChanged ⟨1⟩ r.session.config.service ":1.5" "")).perform r).2 := by
  intro config ops descending
  have evaluated :
      (((Run.start config .counting descending).performAll ops).session.parent? "/wifi",
        ((Run.start config .counting descending).performAll ops).session.ownership) =
          (some "/", ⟨1, .present ":1.5", some ⟨1⟩, some ⟨2⟩⟩) := by
    subst config ops descending
    rfl
  obtain ⟨lost, _⟩ := teardown_complete_and_ordered config .counting descending ops .ascending
  generalize (Run.start config .counting descending).performAll ops = q at evaluated lost ⊢
  obtain ⟨tree, ownership⟩ := Prod.mk.inj evaluated
  have watched : (q.relist .ascending).session.ownership.watch = some ⟨1⟩ :=
    congrArg Ownership.watch ownership
  have owned : (q.relist .ascending).session.state = .present ":1.5" :=
    congrArg Ownership.state ownership
  have exits : (q.relist .ascending).session.state.classify ":1.5" "" = .exit := by
    rw [owned]
    rfl
  exact ⟨tree, watched, exits, (lost ⟨1⟩ ":1.5" "" watched).1 exits⟩

end BusCache
