import BusCache.Proofs.Session.Silence

/-!
# Subscriptions — what the elements listen to

A subscription is made for a rule, which names a sender, an object and one of its signals. As long
as a subscription has a route to an element, its rule is about that element: the sender is the owner
of the service, the object is the element's, and the element files the subscription under the name
of the signal. A route for changes of properties goes with the signal that announces them, as the
interface of an element never changes. That this is about the current owner is kept because no
element outlives its owner, which is proved once for every such property.
-/

namespace BusCache

/-! ## 1. Rules -/

/-- A subscription and the rule that it was made for. -/
def Effect.subscribed? : Effect → Option (SubscriptionId × SignalRule)
  | subscribe id rule => some (id, rule)
  | _ => none

/-- The subscription was made for a rule about the element at a path, which holds it. -/
structure Run.MadeFor (r : Run) (id : SubscriptionId) (route : SignalRoute) (path : Path)
    (rule : SignalRule) : Prop where
  shown : (id, rule) ∈ r.shown Effect.subscribed?
  sender : rule.sender = r.session.destination
  about : rule.path = path
  held : r.session.subscription? path rule.member = some id
  suits : route.Suits r.session path rule

/-- Every subscription that has a route to an element was made for a rule about the element. -/
def Run.Addressed (r : Run) : Prop :=
  ∀ id route path, Table.get? r.session.signalRoutes id = some route →
    route.target? r.session.config = some path → ∃ rule, r.MadeFor id route path rule

/-- Where no element holds a subscription there is nothing to show. -/
theorem Run.addressed_of_still {r : Run} (routed : r.session.Routed) (still : r.session.Still) :
    r.Addressed := by
  intro id route path found target
  rw [routed.signals.of_still still found] at target
  cases target

/-! ## 2. Acts -/

def Session.interface? (s : Session) (path : Path) : Option String :=
  s.look path fun e => some e.interface

/-- An element keeps its interface as long as it is registered. -/
theorem Act.Enabled.interface?_kept {a : Act} {r : Run} (enabled : a.Enabled r.session)
    {path : Path} (here : (r.session.element? path).isSome) (kept : a ≠ .release path) :
    (a.perform r).session.interface? path = r.session.interface? path :=
  enabled.look_kept here kept fun _ _ revised => congrArg some revised.origin.interface

theorem SignalRoute.Suits.kept {s t : Session} {path : Path} {rule : SignalRule}
    {route : SignalRoute} (h : route.Suits s path rule) (config : t.config = s.config)
    (destination : t.destination = s.destination)
    (interface : t.interface? path = s.interface? path) : route.Suits t path rule := by
  have changes : (∃ e, s.element? path = some e
        ∧ rule = s.config.protocol.changes s.destination path e.interface) →
      ∃ e, t.element? path = some e
        ∧ rule = t.config.protocol.changes t.destination path e.interface := by
    intro ⟨e, here, hrule⟩
    have same : t.interface? path = some e.interface :=
      interface.trans (Session.look_of_element? here)
    obtain ⟨x, there, hx⟩ := Session.look_eq_some.mp same
    refine ⟨x, there, ?_⟩
    rw [hrule, config, destination, Option.some.inj hx]
  cases route with
  | propertyChanged _ => exact changes h
  | propertiesChanged _ => exact changes h
  | lifecycle action =>
    show _ ∈ t.config.lifecycle
    rw [config]
    exact h
  | forward _ => trivial
  | nameOwner => exact h.elim

namespace Run.MadeFor

variable {r : Run} {id : SubscriptionId} {route : SignalRoute} {path : Path} {rule : SignalRule}

/-- An act that neither releases the element nor moves the subscription. -/
theorem perform {a : Act} (h : r.MadeFor id route path rule) (enabled : a.Enabled r.session)
    (destination : (a.perform r).session.destination = r.session.destination)
    (kept : a ≠ .release path)
    (held : (a.perform r).session.subscription? path rule.member = some id) :
    (a.perform r).MadeFor id route path rule where
  shown := by
    rw [Act.perform_shown]
    exact List.mem_append_left _ h.shown
  sender := h.sender.trans destination.symm
  about := h.about
  held := held
  suits := h.suits.kept (a.perform_sameSetup r).config destination
    (enabled.interface?_kept (Session.registered_of_look h.held) kept)

end Run.MadeFor

theorem Act.Enabled.addressed {a : Act} {r : Run} (enabled : a.Enabled r.session)
    (routed : r.session.Routed)
    (destination : (a.perform r).session.destination = r.session.destination)
    (h : r.Addressed) : (a.perform r).Addressed := by
  intro id route path found target
  rw [(a.perform_sameSetup r).config] at target
  -- a route from before leads to an element that held the subscription and was not released
  have old : Table.get? r.session.signalRoutes id = some route → a ≠ .release path →
      (∀ member, r.session.subscription? path member = some id →
        (a.perform r).session.subscription? path member = some id) →
      ∃ rule, (a.perform r).MadeFor id route path rule := by
    intro before kept holds
    obtain ⟨rule, made⟩ := h id route path before target
    exact ⟨rule, made.perform enabled destination kept (holds _ made.held)⟩
  cases a with
  | subscribe p rule route' =>
    have added := Session.subscription?_of_added (r.openSubscription_registry p rule route')
      enabled.2.1
    change Table.get? (Table.set r.session.signalRoutes r.nextSubscription route') id =
      some route at found
    rw [Table.get?_set] at found
    by_cases new : id = r.nextSubscription
    · rw [if_pos new] at found
      cases found
      obtain ⟨_, here, free, sender, about, leads, suits⟩ := enabled
      rw [leads] at target
      cases target
      refine ⟨rule, ?_, sender.trans destination.symm, about, ?_, ?_⟩
      · rw [Act.perform_shown, new]
        exact List.mem_append_right _ (List.mem_singleton_self _)
      · show (r.openSubscription path rule route).session.subscription? path rule.member = some id
        rw [added, if_pos ⟨rfl, rfl⟩, new]
      · exact suits.kept rfl destination (Session.look_of_modified_kept
          (r.openSubscription_registry path rule route) (fun _ => rfl) path)
    · rw [if_neg new] at found
      refine old found (by rintro ⟨⟩) fun member held => ?_
      show (r.openSubscription p rule route').session.subscription? path member = some id
      rw [added, if_neg]
      · exact held
      · -- the place of the new subscription was free
        rintro ⟨rfl, rfl⟩
        rw [enabled.2.2.1] at held
        cases held
  | openWatch =>
    change Table.get? (Table.set r.session.signalRoutes r.nextSubscription .nameOwner) id =
      some route at found
    rw [Table.get?_set] at found
    split at found
    · cases found
      cases target
    · exact old found (by rintro ⟨⟩) fun _ held => held
  | closeWatch =>
    have before : Table.get? r.session.signalRoutes id = some route := by
      change Table.get? r.closeWatch.session.signalRoutes id = some route at found
      rw [Run.closeWatch_session] at found
      split at found
      · exact found
      · change Table.get? (Table.erase _ _) id = some route at found
        rw [Table.get?_erase] at found
        split at found
        · cases found
        · exact found
    exact old before (by rintro ⟨⟩) fun _ held =>
      (Session.look_of_registry_eq r.closeWatch_registry path).trans held
  | release p =>
    obtain ⟨e, here⟩ := Option.isSome_iff_exists.mp enabled
    have session := Run.releaseElement_session here
    change Table.get? (r.releaseElement p).session.signalRoutes id = some route at found
    rw [session] at found
    change Table.get? (Table.eraseAll r.session.signalRoutes
      (r.session.listing.subscriptions p e)) id = some route at found
    rw [Table.get?_eraseAll] at found
    split at found
    · cases found
    · rename_i other
      -- a route to the released element would have been given up
      have apart : path ≠ p := by
        rintro rfl
        exact other ((routed.signals.mem_subscriptions_iff here _ id).mpr ⟨route, found, target⟩)
      refine old found (fun same => apart (Act.release.inj same).symm) fun member held => ?_
      show (r.releaseElement p).session.subscription? path member = some id
      unfold Session.subscription?
      rw [Session.look_of_erased (congrArg Session.registry session), if_neg apart]
      exact held
  | _ =>
    have same := enabled.sameSignals fun moves => moves
    rw [same.routes] at found
    exact old found (by rintro ⟨⟩) fun member held => (same.subscription path member).trans held

/-! ## 3. Properties about the owner -/

/-- A property of runs about the owner of the service: it holds where no element awaits a call or
holds a subscription, and every act keeps it that changes nothing about the owner. -/
structure Run.FollowsOwner (I : Run → Prop) : Prop where
  still : ∀ {q : Run}, q.session.Routed → q.session.Still → I q
  act : ∀ {q : Run} {a : Act}, a.Enabled q.session → q.session.Routed →
    (a.perform q).session.state = q.session.state → I q → I (a.perform q)

theorem Run.exit_still (r : Run) : r.exit.session.Still :=
  Session.still_of_empty (Run.removeAll_element? r)

namespace Run.FollowsOwner

variable {I : Run → Prop} {r : Run}

/-- What stays within the elements keeps it. -/
theorem inside (follows : FollowsOwner I) {r' : Run} (h : Steps Act.Inside r r')
    (routed : r.session.Routed) (start : I r) : I r' := by
  have kept : r'.session.Routed ∧ I r' := by
    apply h.preserves (I := fun q => q.session.Routed ∧ I q) _ ⟨routed, start⟩
    intro q a inside enabled ⟨routed, holds⟩
    refine ⟨enabled.routed routed, follows.act enabled routed ?_ holds⟩
    unfold Session.state
    rw [inside.ownership_eq enabled]
  exact kept.2

theorem enter (follows : FollowsOwner I) (routed : r.session.Routed) (still : r.session.Still)
    (owner : String) : I (r.enter owner) := by
  obtain ⟨grown, grows, entered⟩ := enter_grows owner r
  -- nothing is awaited or held when the owner gets known, so a new owner is no harm
  have known : (r.setState (.present owner)).session.Routed :=
    Act.Enabled.routed (a := .setState (.present owner)) trivial routed
  have start : I (r.setState (.present owner)) :=
    follows.still known (still.of_registry_eq rfl)
  have inside := (grows.mono Act.Grows.works).works_inside
  have enabled : (Act.emit .serviceUp r.session.config.rootPath (.owner owner)).Enabled
      grown.session := by
    show EventKind.serviceUp ≠ .elementRemoved
    decide
  rw [entered]
  exact follows.act enabled (inside.routed known) rfl (follows.inside inside known start)

theorem ownerChanged (follows : FollowsOwner I) (routed : r.session.Routed)
    (silent : r.session.Silent) (holds : I r) (oldOwner newOwner : String) :
    I (r.ownerChanged oldOwner newOwner) := by
  have down : r.exit.session.Routed := (exit_steps r).routed routed
  unfold Run.ownerChanged
  split
  · rename_i enters
    exact follows.enter routed (silent (ServiceState.classify_enter enters).1) _
  · exact follows.still down (exit_still r)
  · exact follows.enter down (exit_still r) _
  · exact holds

theorem perform (follows : FollowsOwner I) (sound : r.session.Sound) (silent : r.session.Silent)
    (holds : I r) (op : Operation) : I (op.perform r).2 := by
  have routed := sound.routed
  cases op.turn sound with
  | works steps => exact follows.inside steps.works_inside routed holds
  | removes path after =>
    rw [after]
    exact follows.inside (removeTree_inside path r) routed holds
  | starts unused after =>
    have counted : (Act.setUsers 1).Enabled r.session := trivial
    have watched : Act.openWatch.Enabled (r.setUsers 1).session := (sound.idle unused).1
    have asked : Act.openQuery.Enabled (r.setUsers 1).openWatch.session := (sound.idle unused).2
    have first := follows.act counted routed rfl holds
    have second := follows.act watched (counted.routed routed) rfl first
    rw [after]
    exact follows.act asked (watched.routed (counted.routed routed)) rfl second
  | counts users before left after =>
    have counted : (Act.setUsers users).Enabled r.session := trivial
    rw [after]
    exact follows.act counted routed rfl holds
  | ends last shut after =>
    have routed' := op.perform_routed sound
    rw [after] at routed' ⊢
    exact follows.still routed' (Session.still_of_empty (shutdown_last last).1)
  | notified subscription oldOwner newOwner event watched after =>
    rw [after]
    exact follows.ownerChanged routed silent holds oldOwner newOwner
  | answered call result event enabled after =>
    have settled := follows.act enabled routed rfl holds
    have silent' : ((Act.answerQuery call).perform r).session.Silent :=
      fun absent => (silent absent).of_registry_eq rfl
    rcases after with after | ⟨owner, after⟩
    · rw [after]
      exact settled
    · rw [after]
      exact follows.ownerChanged (enabled.routed routed) silent' settled "" owner

theorem performAll (follows : FollowsOwner I) (config : Config) (numbering : Numbering)
    (listing : Listing) (ops : List Operation) :
    I ((start config numbering listing).performAll ops) := by
  have unused : (start config numbering listing).session.Still :=
    Session.still_of_empty fun _ => rfl
  have sound := start_sound config numbering listing
  have kept := performAll_sound_keeps (I := fun q => q.session.Silent ∧ q.Truthful ∧ I q)
    (fun _ op sound ⟨silent, truthful, holds⟩ =>
      have heard := op.perform_heard sound silent truthful
      ⟨heard.1, heard.2, follows.perform sound silent holds op⟩)
    sound ⟨fun _ => unused, fun _ => rfl, follows.still sound.routed unused⟩ ops
  exact kept.2.2

end Run.FollowsOwner

theorem Run.addressed_followsOwner : FollowsOwner Addressed where
  still := addressed_of_still
  act {q a} enabled routed state := by
    apply enabled.addressed routed
    unfold Session.destination
    rw [state, (a.perform_sameSetup q).config]

theorem Run.performAll_addressed (config : Config) (numbering : Numbering) (listing : Listing)
    (ops : List Operation) : ((start config numbering listing).performAll ops).Addressed :=
  addressed_followsOwner.performAll config numbering listing ops

end BusCache
