import BusCache.Proofs.Session.Addresses
import BusCache.Proofs.Session.Hearing
import BusCache.Proofs.Session.ServiceEvents

/-!
# Deliveries — which subscriptions lead where

An element files its subscriptions under the names of signals, one for each name, whatever interface
the signal is of and whoever asked for it. So a request for a signal is met by any subscription that
the element holds under the name, and what is delivered then goes where that one leads. A request
that finds none is met by a subscription of its own: its deliveries are forwarded until the element
is removed. When an owner comes, the root holds no subscription yet, and of the configured signals
the first of each name gets its own.
-/

namespace BusCache

/-! ## 1. Listening -/

/-- The element at a path holds a subscription that was made for a rule and was not given up, and
what is delivered to it takes a route. -/
structure Run.Listens (r : Run) (path : Path) (rule : SignalRule) (route : SignalRoute)
    (id : SubscriptionId) : Prop where
  held : r.session.subscription? path rule.member = some id
  made : (id, rule) ∈ r.shown Effect.subscribed?
  live : id ∉ r.shown Effect.closed?
  routed : Table.get? r.session.signalRoutes id = some route

namespace Run

variable {r r' : Run} {path : Path} {rule : SignalRule} {route : SignalRoute} {id : SubscriptionId}

theorem Books.made_once {answered : CallId → Prop} (books : r.Books answered) {other : SignalRule}
    (made : (id, rule) ∈ r.shown Effect.subscribed?)
    (again : (id, other) ∈ r.shown Effect.subscribed?) : rule = other :=
  shown_unique books.subscriptions.opened_once Effect.opened?_of_subscribed made again

/-- Listening comes down to what a subscription was made for and where it leads. -/
theorem Books.listens {answered : CallId → Prop} (books : r.Books answered)
    (addressed : r.Addressed) (made : (id, rule) ∈ r.shown Effect.subscribed?)
    (routed : Table.get? r.session.signalRoutes id = some route)
    (target : route.target? r.session.config = some path) : r.Listens path rule route id := by
  obtain ⟨other, known⟩ := addressed id route path routed target
  refine ⟨?_, made, ?_, routed⟩
  · rw [books.made_once made known.shown]
    exact known.held
  · exact books.subscriptions.live_not_closed id (Option.isSome_of_eq_some routed)

theorem made_later (extends_ : r.trace <+: r'.trace)
    (made : (id, rule) ∈ r.shown Effect.subscribed?) :
    (id, rule) ∈ r'.shown Effect.subscribed? := by
  obtain ⟨new, trace⟩ := extends_
  rw [shown_append Effect.subscribed? trace.symm]
  exact List.mem_append_left _ made

theorem openSubscription_made (r : Run) (path : Path) (rule : SignalRule) (route : SignalRoute) :
    (r.nextSubscription, rule) ∈
      (r.openSubscription path rule route).shown Effect.subscribed? := by
  have shown := (Act.subscribe path rule route).perform_shown Effect.subscribed? r
  exact shown ▸ List.mem_append_right _ (List.mem_singleton_self _)

/-- Who holds a subscription under a name listens to nothing else under it. -/
theorem Books.listens_unique {answered : CallId → Prop} (books : r.Books answered)
    {other : SignalRule} {route' : SignalRoute} {id' : SubscriptionId}
    (h : r.Listens path rule route id) (h' : r.Listens path other route' id')
    (named : rule.member = other.member) : rule = other ∧ route = route' := by
  have same := h.held
  rw [named, h'.held] at same
  cases same
  have routes := h.routed
  rw [h'.routed] at routes
  exact ⟨books.made_once h.made h'.made, (Option.some.inj routes).symm⟩

/-- A delivery to a subscription that forwards emits its arguments, and does nothing else. -/
theorem Listens.forwarded (h : r.Listens path rule (.forward path) id) (sender : Path)
    (member : String) {args : List WireValue} {values : List Value}
    (decoded : WireValue.decodeAll args = .ok values) :
    (Operation.dispatch (.signal id sender member args)).perform r =
      (.ok .done, r.emit .elementSignal path (.signal member values)) := by
  have registered : r.session.isRegistered path = true := Session.registered_of_look h.held
  rw [Operation.perform_dispatch]
  show (_, r.handleSignal id member args) = _
  unfold handleSignal
  rw [h.routed]
  dsimp only
  rw [if_pos registered, decoded]

/-- A delivery of a signal that announces objects does to the object that it names what the signal
is for. -/
theorem Listens.applied {action : LifecycleAction} (h : r.Listens path rule (.lifecycle action) id)
    (sender : Path) (member : String) {args : List WireValue} {target : Path} {rest : List Value}
    (decoded : WireValue.decodeAll args = .ok (.objectPath target :: rest)) :
    (Operation.dispatch (.signal id sender member args)).perform r =
      (.ok .done, r.applyLifecycle action target) := by
  rw [Operation.perform_dispatch]
  show (_, r.handleSignal id member args) = _
  unfold handleSignal
  rw [h.routed]
  dsimp only
  rw [decoded]

/-- Under the name that it hears of changes by, an element is not led anywhere else. -/
theorem HearsChanges.unled {action : LifecycleAction} {id' : SubscriptionId}
    (hears : r.HearsChanges path id) (h : r.Listens path rule (.lifecycle action) id') :
    rule.member ≠ r.session.config.protocol.changeSignal := by
  intro named
  have held := h.held
  rw [named, hears.subscription?] at held
  cases held
  obtain ⟨_, _, _, _, _, _, _, changes⟩ := hears
  have routed := h.routed
  rw [changes] at routed
  unfold Attempt.changesRoute at routed
  split at routed <;> cases routed

variable (config : Config) (numbering : Numbering) (listing : Listing)

theorem performAll_listens (ops : List Operation)
    (made : (id, rule) ∈
      ((start config numbering listing).performAll ops).shown Effect.subscribed?)
    (routed : Table.get? ((start config numbering listing).performAll ops).session.signalRoutes id =
      some route) (target : route.target? config = some path) :
    ((start config numbering listing).performAll ops).Listens path rule route id := by
  apply (performAll_books config numbering listing ops).listens
    (performAll_addressed config numbering listing ops) made routed
  rwa [performAll_config]

/-- An element listens until it is removed. -/
theorem performAll_listens_lasts (ops since : List Operation)
    (h : ((start config numbering listing).performAll ops).Listens path rule route id)
    (target : route.target? config = some path)
    (stays : ¬ ((start config numbering listing).performAll ops).Removed
      (((start config numbering listing).performAll ops).performAll since) path) :
    (((start config numbering listing).performAll ops).performAll since).Listens path rule route
      id := by
  have acts := performAll_acts (performAll_sound (start_sound config numbering listing) ops) since
  have routed := (performAll_sound (start_sound config numbering listing) ops).routed
  have still := acts.route_kept routed h.routed
    (by rwa [performAll_config config numbering listing ops]) stays
  have made := made_later acts.trace_extends h.made
  rw [← performAll_append] at still made ⊢
  exact performAll_listens config numbering listing _ made still target

end Run

/-! ## 2. Requests for signals -/

namespace Operation

variable {r : Run} {path : Path} {interface member : String}

/-- What a request for a signal is answered, and what it leaves: everything as it was if a
subscription is held under the name, and else a new subscription. -/
theorem subscribeSignal_cases (r : Run) (path : Path) (interface member : String) :
    (∃ error, (subscribeSignal path interface member).perform r = (.error error, r))
      ∨ r.session.state.isPresent ∧ (r.session.element? path).isSome
        ∧ ((r.session.subscription? path member).isSome
            ∧ (subscribeSignal path interface member).perform r = (.ok .done, r)
          ∨ r.session.subscription? path member = none
            ∧ (subscribeSignal path interface member).perform r =
              (.ok .done, r.openSubscription path
                { sender := r.session.destination, path, interface, member } (.forward path))) := by
  have performed : (subscribeSignal path interface member).perform r =
      ((Attempt.subscribeSignal path interface member r).1.map fun _ => .done,
        (Attempt.subscribeSignal path interface member r).2) :=
    silent_apply (Attempt.subscribeSignal path interface member) r
  rw [performed]
  unfold Attempt.subscribeSignal
  rcases @Attempt.openUnlessHeld_cases path r
      (fun s _ => { sender := s.destination, path, interface, member }) (.forward path) with
    ⟨error, refused⟩ | ⟨e, present, here, ⟨held, same⟩ | ⟨free, opened⟩⟩
  · rw [refused]
    exact .inl ⟨error, rfl⟩
  · rw [same]
    exact .inr ⟨present, Option.isSome_of_eq_some here, .inl ⟨held, rfl⟩⟩
  · rw [opened]
    exact .inr ⟨present, Option.isSome_of_eq_some here, .inr ⟨free, rfl⟩⟩

/-- A request is met exactly on elements of a service that has an owner. -/
theorem subscribeSignal_done_iff :
    ((subscribeSignal path interface member).perform r).1 = .ok .done ↔
      r.session.state.isPresent ∧ (r.session.element? path).isSome := by
  constructor
  · intro done
    rcases subscribeSignal_cases r path interface member with
      ⟨error, refused⟩ | ⟨present, here, _⟩
    · rw [refused] at done
      cases done
    · exact ⟨present, here⟩
  · rintro ⟨present, here⟩
    obtain ⟨e, here⟩ := Option.isSome_iff_exists.mp here
    show (silent (Attempt.subscribeSignal path interface member) r).1 = _
    rw [silent_apply]
    unfold Attempt.subscribeSignal
    rw [Attempt.openUnlessHeld_eq present here]
    rfl

/-- A request that was met is met again by the same subscription. -/
theorem subscribeSignal_again
    (done : ((subscribeSignal path interface member).perform r).1 = .ok .done) :
    let after := ((subscribeSignal path interface member).perform r).2
    (subscribeSignal path interface member).perform after = (.ok .done, after) := by
  intro after
  rcases subscribeSignal_cases r path interface member with
    ⟨error, refused⟩ | ⟨present, here, ⟨_, same⟩ | ⟨_, opened⟩⟩
  · rw [refused] at done
    cases done
  · have unchanged : after = r := congrArg Prod.snd same
    rw [unchanged]
    exact same
  · have left := congrArg Prod.snd opened
    change after = r.openSubscription path _ (.forward path) at left
    have registry := r.openSubscription_registry path
      { sender := r.session.destination, path, interface, member } (.forward path)
    rw [← left] at registry
    have held : after.session.subscription? path member = some r.nextSubscription := by
      rw [Session.subscription?_of_added registry here, if_pos ⟨rfl, rfl⟩]
    have still : after.session.state.isPresent ∧ (after.session.element? path).isSome := by
      refine ⟨?_, Session.isSome_of_modified registry here⟩
      rw [left]
      exact present
    rcases subscribeSignal_cases after path interface member with
      ⟨error, refused⟩ | ⟨_, _, ⟨_, same⟩ | ⟨free, _⟩⟩
    · have met : ((subscribeSignal path interface member).perform after).1 = .ok .done :=
        subscribeSignal_done_iff.mpr still
      rw [refused] at met
      cases met
    · exact same
    · rw [held] at free
      cases free

end Operation

/-! ## 3. The root of a new owner -/

/-- What the root of an owner subscribes to for a configured signal. -/
def LifecycleSignal.rule (signal : LifecycleSignal) (sender : String) (root : Path) : SignalRule :=
  { sender, path := root, interface := signal.interface, member := signal.member }

/-- The first of some signals that has a name. -/
def LifecycleSignal.firstNamed (signals : List LifecycleSignal) (member : String) :
    Option LifecycleSignal :=
  signals.find? fun signal => signal.member = member

/-- No configured signal before it has the name of this one. -/
def Config.Leads (config : Config) (signal : LifecycleSignal) : Prop :=
  LifecycleSignal.firstNamed config.lifecycle signal.member = some signal

instance (config : Config) (signal : LifecycleSignal) : Decidable (config.Leads signal) :=
  inferInstanceAs (Decidable (_ = _))

theorem LifecycleSignal.firstNamed_member {signals : List LifecycleSignal} {member : String}
    {signal : LifecycleSignal} (found : firstNamed signals member = some signal) :
    signal.member = member := by
  unfold firstNamed at found
  simpa using List.find?_some found

theorem LifecycleSignal.exists_firstNamed {signals : List LifecycleSignal}
    {signal : LifecycleSignal} (mem : signal ∈ signals) :
    ∃ first, firstNamed signals signal.member = some first := by
  unfold firstNamed
  rw [← Option.isSome_iff_exists, List.find?_isSome]
  exact ⟨signal, mem, decide_eq_true rfl⟩

theorem Config.exists_leader {config : Config} {signal : LifecycleSignal}
    (configured : signal ∈ config.lifecycle) :
    ∃ first, config.Leads first ∧ first.member = signal.member := by
  obtain ⟨first, found⟩ := LifecycleSignal.exists_firstNamed configured
  have named := LifecycleSignal.firstNamed_member found
  refine ⟨first, ?_, named⟩
  unfold Leads
  rwa [named]

theorem LifecycleSignal.firstNamed_concat (signals : List LifecycleSignal)
    (signal : LifecycleSignal) (member : String) :
    firstNamed (signals ++ [signal]) member =
      (firstNamed signals member).or (if signal.member = member then some signal else none) := by
  unfold firstNamed
  rw [List.find?_append]
  congr 1
  rw [List.find?_singleton]
  simp only [decide_eq_true_eq]

namespace Run

/-- One round of the subscriptions for the configured signals. -/
def openFor (root : Path) (r : Run) (signal : LifecycleSignal) : Run :=
  match r.session.element? root with
  | none => r
  | some e =>
      if e.hasSubscription signal.member then r
      else
        r.openSubscription root
          { sender := r.session.destination
            path := root
            interface := signal.interface
            member := signal.member }
          (.lifecycle signal.action)

theorem subscribeLifecycle_eq (root : Path) (r : Run) :
    r.subscribeLifecycle root = r.session.config.lifecycle.foldl (openFor root) r := rfl

/-- The root of an owner is subscribed to the first signal of each name among some, and to nothing
else. -/
structure Attends (r : Run) (owner : String) (signals : List LifecycleSignal) : Prop where
  routed : r.session.Routed
  state : r.session.state = .present owner
  here : (r.session.element? r.session.config.rootPath).isSome
  held : ∀ member, (r.session.subscription? r.session.config.rootPath member).isSome =
    (LifecycleSignal.firstNamed signals member).isSome
  first : ∀ member signal, LifecycleSignal.firstNamed signals member = some signal →
    ∃ id, (id, signal.rule owner r.session.config.rootPath) ∈ r.shown Effect.subscribed?
      ∧ Table.get? r.session.signalRoutes id = some (.lifecycle signal.action)

variable {r : Run} {owner : String}

/-- A signal of a new name gets a subscription. -/
theorem Attends.subscribe {done : List LifecycleSignal} (h : r.Attends owner done)
    {signal : LifecycleSignal} (configured : signal ∈ r.session.config.lifecycle)
    (new : LifecycleSignal.firstNamed done signal.member = none) :
    (r.openSubscription r.session.config.rootPath (signal.rule owner r.session.config.rootPath)
      (.lifecycle signal.action)).Attends owner (done ++ [signal]) := by
  let root := r.session.config.rootPath
  let opening := Act.subscribe root (signal.rule owner root) (.lifecycle signal.action)
  have destination : r.session.destination = owner := Session.destination_of_present h.state
  have enabled : opening.Enabled r.session := by
    refine ⟨?_, h.here, ?_, destination.symm, rfl, rfl, configured⟩
    · rw [h.state]
      rfl
    · show r.session.subscription? root signal.member = none
      rw [← Option.not_isSome_iff_eq_none, h.held, new]
      exact Bool.false_ne_true
  have added := Session.subscription?_of_added
    (r.openSubscription_registry root (signal.rule owner root) (.lifecycle signal.action)) h.here
  have step : Steps (fun _ => True) r (opening.perform r) := Steps.one trivial enabled
  refine ⟨enabled.routed h.routed, h.state, ?_, fun member => ?_, fun member x found => ?_⟩
  · exact opening.element?_isSome (fun _ => Act.noConfusion) h.here
  · refine (congrArg Option.isSome (added root member)).trans ?_
    rw [LifecycleSignal.firstNamed_concat]
    -- its name is held from now on, and the other names as before
    by_cases named : signal.member = member
    · rw [if_pos ⟨rfl, named.symm⟩, if_pos named, Option.isSome_or]
      exact (Bool.or_true _).symm
    · rw [if_neg fun both => named both.2.symm, if_neg named, Option.or_none]
      exact h.held member
  · rw [LifecycleSignal.firstNamed_concat, Option.or_eq_some_iff] at found
    rcases found with old | ⟨_, last⟩
    · obtain ⟨id, made, route⟩ := h.first member x old
      exact ⟨id, made_later step.trace_extends made,
        enabled.route_kept h.routed route rfl Act.noConfusion⟩
    · split at last
      · cases last
        exact ⟨r.nextSubscription, openSubscription_made r root _ _, Table.get?_set_self _ _ _⟩
      · cases last

/-- A signal whose name is held changes nothing, and any other gets a subscription. -/
theorem Attends.openFor {done : List LifecycleSignal} (h : r.Attends owner done)
    {signal : LifecycleSignal} (configured : signal ∈ r.session.config.lifecycle) :
    (r.openFor r.session.config.rootPath signal).Attends owner (done ++ [signal])
      ∧ (r.openFor r.session.config.rootPath signal).session.config = r.session.config := by
  obtain ⟨e, here⟩ := Option.isSome_iff_exists.mp h.here
  have known := h.held signal.member
  unfold Session.subscription? at known
  rw [Session.look_of_element? here] at known
  unfold Run.openFor
  rw [here]
  dsimp only
  by_cases held : e.hasSubscription signal.member = true
  · rw [if_pos held]
    have same : ∀ member, LifecycleSignal.firstNamed (done ++ [signal]) member =
        LifecycleSignal.firstNamed done member := by
      intro member
      rw [LifecycleSignal.firstNamed_concat]
      split
      · subst member
        obtain ⟨x, found⟩ := Option.isSome_iff_exists.mp (known.symm.trans held)
        rw [found]
        rfl
      · exact Option.or_none
    refine ⟨⟨h.routed, h.state, h.here, fun member => ?_, fun member x found => ?_⟩, rfl⟩
    · rw [same]
      exact h.held member
    · rw [same] at found
      exact h.first member x found
  · rw [if_neg held]
    have new : LifecycleSignal.firstNamed done signal.member = none := by
      rw [← Option.not_isSome_iff_eq_none, ← known]
      exact held
    rw [Session.destination_of_present h.state]
    exact ⟨h.subscribe configured new, rfl⟩

theorem Attends.foldl {done : List LifecycleSignal} (rest : List LifecycleSignal)
    (h : r.Attends owner done) (configured : ∀ signal ∈ rest, signal ∈ r.session.config.lifecycle) :
    (rest.foldl (Run.openFor r.session.config.rootPath) r).Attends owner (done ++ rest)
      ∧ (rest.foldl (Run.openFor r.session.config.rootPath) r).session.config =
        r.session.config := by
  -- on the signals still to come: each finds the same root
  induction rest generalizing r done with
  | nil =>
    rw [List.append_nil]
    exact ⟨h, rfl⟩
  | cons signal rest ih =>
    obtain ⟨next, config⟩ := h.openFor (configured signal List.mem_cons_self)
    have more := ih next fun x hx => by
      rw [config]
      exact configured x (List.mem_cons_of_mem _ hx)
    rw [config, List.append_assoc] at more
    exact more

/-- An owner finds a root that holds no subscription and awaits no call. -/
theorem attends_nothing (routed : r.session.Routed) (still : r.session.Still) (owner : String)
    (interface : String) :
    let ready := ((r.setState (.present owner)).getOrCreate r.session.config.rootPath
      { interface }).2
    ready.Attends owner [] ∧ ready.session.config = r.session.config
      ∧ ready.session.slot? r.session.config.rootPath .propertiesGet = none := by
  intro ready
  let known := r.setState (.present owner)
  have prepares : Steps Act.Prepares known ready := getOrCreate_prepares none 0 rfl
  have config : ready.session.config = r.session.config := prepares.sameSetup.config
  have start : known.session.Routed :=
    Act.Enabled.routed (a := .setState (.present owner)) trivial routed
  refine ⟨⟨prepares.routed start, ?_, ?_, fun member => ?_, fun _ _ found => ?_⟩, config, ?_⟩
  · unfold Session.state
    rw [(prepares.mono Act.Prepares.grows).ownership_eq]
    rfl
  · rw [config]
    exact getOrCreate_isSome known _ _
  · have none : ready.session.subscription? r.session.config.rootPath member = none := by
      show (known.getOrCreate _ _).2.session.subscription? _ member = none
      unfold getOrCreate
      split
      · exact still.subscription _ _
      · rename_i unregistered
        rw [Bool.not_eq_true, Session.isRegistered_eq_false_iff] at unregistered
        exact (Session.look_of_set_blank (known.register_registry _ _) unregistered rfl _).trans
          (still.subscription _ _)
    rw [config, none]
    rfl
  · cases found
  · exact (prepares.slot?_eq _ _).trans (still.slot _ _)

/-- If none of the signals has the name of the signal of changes, the fetch of the root subscribes
to its changes. -/
theorem Attends.fetch {signals : List LifecycleSignal} (h : r.Attends owner signals)
    (free : r.session.slot? r.session.config.rootPath .propertiesGet = none)
    (unnamed : ∀ signal ∈ signals,
      signal.member ≠ r.session.config.protocol.changeSignal) :
    ∃ id, Table.get?
        (Attempt.sync r.session.config.rootPath none r).2.session.signalRoutes id =
      some (Attempt.changesRoute r.session.config r.session.config.rootPath) := by
  obtain ⟨e, here⟩ := Option.isSome_iff_exists.mp h.here
  have present : r.session.state.isPresent := by
    rw [h.state]
    rfl
  have none : LifecycleSignal.firstNamed signals r.session.config.protocol.changeSignal = none := by
    unfold LifecycleSignal.firstNamed
    rw [List.find?_eq_none]
    exact fun signal mem => by simpa using unnamed signal mem
  have unheld := h.held r.session.config.protocol.changeSignal
  rw [none] at unheld
  refine ⟨r.nextSubscription, ?_⟩
  rw [Attempt.sync_eq present here free]
  rcases Attempt.subscribeChanges_leaves present here with ⟨id, held, _⟩ | ⟨_, opened⟩
  · rw [held] at unheld
    cases unheld
  · rw [opened]
    exact Table.get?_set_self _ _ _

/-- When an owner comes, its root is subscribed to the first configured signal of each name, and to
the changes of its properties if no configured signal has that name. -/
theorem enter_listens (routed : r.session.Routed) (still : r.session.Still) (owner : String) :
    let after := r.enter owner
    (∀ signal, r.session.config.Leads signal →
      ∃ id, (id, signal.rule owner r.session.config.rootPath) ∈ after.shown Effect.subscribed?
        ∧ Table.get? after.session.signalRoutes id = some (.lifecycle signal.action))
    ∧ ((∀ signal ∈ r.session.config.lifecycle,
          signal.member ≠ r.session.config.protocol.changeSignal) →
        ∃ id, Table.get? after.session.signalRoutes id =
          some (Attempt.changesRoute r.session.config r.session.config.rootPath)) := by
  intro after
  let root := r.session.config.rootPath
  obtain ⟨found, config₂, idle⟩ :=
    attends_nothing routed still owner r.session.config.rootInterface
  have entered : after = (Attempt.sync root none
      ((((r.setState (.present owner)).getOrCreate root
        { interface := r.session.config.rootInterface }).2).subscribeLifecycle root)).2.emit
          .serviceUp root (.owner owner) := rfl
  generalize ((r.setState (.present owner)).getOrCreate root
    { interface := r.session.config.rootInterface }).2 = r₂ at found config₂ idle entered
  obtain ⟨attends, config⟩ := found.foldl r₂.session.config.lifecycle fun _ mem => mem
  have subscribes : Steps Act.Subscribes r₂ (r₂.subscribeLifecycle r₂.session.config.rootPath) := by
    apply subscribeLifecycle_steps
    rw [found.state]
    rfl
  have free := ((subscribes.mono Act.Subscribes.prepares).slot?_eq root .propertiesGet).trans idle
  rw [subscribeLifecycle_eq] at free entered
  rw [config₂] at attends config free entered
  rw [List.nil_append] at attends
  generalize r.session.config.lifecycle.foldl (Run.openFor root) r₂ = r₃
    at attends config free entered
  -- what follows the subscriptions releases nothing, so their routes stay
  have later : Steps (fun a => ∀ path, a ≠ .release path) r₃ after := by
    have fetched : Steps Act.Grows r₃ (Attempt.sync root none r₃).2 := Attempt.sync_sends.steps
    rw [entered]
    refine (fetched.mono fun a grows path he => ?_).trans (emit_steps (fun _ => Act.noConfusion)
      EventKind.noConfusion _)
    subst he
    exact grows
  constructor
  · intro signal leads
    obtain ⟨id, made, route⟩ := attends.first signal.member signal leads
    rw [config] at made
    exact ⟨id, made_later later.trace_extends made,
      later.route_kept attends.routed route rfl (later.unremoved (fun _ h => h) _)⟩
  · intro unnamed
    have opened := attends.fetch (by rwa [config]) (by rwa [config])
    rw [config] at opened
    rw [entered]
    exact opened

end Run

/-! ## 4. Histories -/

namespace Run

variable (config : Config) (numbering : Numbering) (listing : Listing)

/-- When an owner comes, a configured signal gets its subscription exactly if it is the first of its
name. -/
theorem performAll_leads_iff (ops : List Operation) (op : Operation) {owner : String}
    (present : (op.perform ((start config numbering listing).performAll ops)).2.session.state =
      .present owner)
    (other : ((start config numbering listing).performAll ops).session.state ≠ .present owner)
    {signal : LifecycleSignal} (configured : signal ∈ config.lifecycle) :
    (∃ id, (op.perform ((start config numbering listing).performAll ops)).2.Listens config.rootPath
      (signal.rule owner config.rootPath) (.lifecycle signal.action) id) ↔ config.Leads signal := by
  have sound := performAll_sound (start_sound config numbering listing) ops
  have silent := (performAll_heard config numbering listing ops).1
  have setup := performAll_config config numbering listing ops
  obtain ⟨q, finds, entered⟩ := op.perform_enters sound silent present other
  have opened := (enter_listens finds.routed finds.still owner).1
  rw [finds.config, setup, ← entered] at opened
  rw [← performAll_concat] at opened ⊢
  have listens : ∀ leader, config.Leads leader →
      ∃ id, ((start config numbering listing).performAll (ops ++ [op])).Listens config.rootPath
        (leader.rule owner config.rootPath) (.lifecycle leader.action) id := by
    intro leader leads
    obtain ⟨id, made, route⟩ := opened leader leads
    exact ⟨id, performAll_listens config numbering listing _ made route rfl⟩
  refine ⟨fun ⟨id, heard⟩ => ?_, listens signal⟩
  -- some signal of this name comes first, and the name leads to no other subscription
  obtain ⟨first, leads, named⟩ := Config.exists_leader configured
  obtain ⟨_, led⟩ := listens first leads
  have books := performAll_books config numbering listing (ops ++ [op])
  obtain ⟨rules, routes⟩ := books.listens_unique led heard named
  have same : first = signal := by
    obtain ⟨_, _, interface, _⟩ := SignalRule.mk.inj rules
    cases first
    cases signal
    cases SignalRoute.lifecycle.inj routes
    cases interface
    cases named
    rfl
  exact same ▸ leads

end Run

/-- A request for a signal of a registered element of a present service is met. The element gets the
signal from then on exactly if every subscription that it held under the name was made by such a
request for this signal. Then it gets the signal until it is removed: every delivery that can be
decoded is emitted, and nothing else happens. The same request again changes nothing. When an owner
comes, a configured signal has a subscription of the root of its own exactly if no configured signal
before it has its name. -/
theorem signal_is_delivered_iff (config : Config) (numbering : Numbering) (listing : Listing)
    (ops : List Operation) (path : Path) (interface member : String) :
    let r := (Run.start config numbering listing).performAll ops
    let request := Operation.subscribeSignal path interface member
    let result := request.perform r
    let rule : SignalRule := { sender := r.session.destination, path, interface, member }
    (result.1 = .ok .done ↔ r.session.state.isPresent ∧ (r.session.element? path).isSome)
    ∧ (result.1 = .ok .done →
      ((∃ id, result.2.Listens path rule (.forward path) id) ↔
        ∀ id, r.session.subscription? path member = some id →
          r.Listens path rule (.forward path) id)
      ∧ (∀ id, result.2.Listens path rule (.forward path) id →
        ∀ since, ¬ result.2.Removed (result.2.performAll since) path →
          let later := result.2.performAll since
          later.Listens path rule (.forward path) id
          ∧ ∀ args values, WireValue.decodeAll args = .ok values →
            (Operation.dispatch (.signal id path member args)).perform later =
              (.ok .done, later.emit .elementSignal path (.signal member values)))
      ∧ request.perform result.2 = (.ok .done, result.2))
    ∧ ∀ op owner, (Operation.perform op r).2.session.state = .present owner →
        r.session.state ≠ .present owner → ∀ signal ∈ config.lifecycle,
          (∃ id, (op.perform r).2.Listens config.rootPath (signal.rule owner config.rootPath)
            (.lifecycle signal.action) id) ↔ config.Leads signal := by
  intro r request result rule
  have history : result.2 = (Run.start config numbering listing).performAll (ops ++ [request]) :=
    (Run.performAll_concat _ _ _).symm
  refine ⟨Operation.subscribeSignal_done_iff, fun done => ⟨?_, ?_, ?_⟩, ?_⟩
  · rcases Operation.subscribeSignal_cases r path interface member with
      ⟨error, refused⟩ | ⟨_, here, ⟨held, same⟩ | ⟨free, opened⟩⟩
    · rw [show result = _ from refused] at done
      cases done
    · -- the subscription that is held meets the request, whatever it was made for
      rw [show result = _ from same]
      obtain ⟨id, held⟩ := Option.isSome_iff_exists.mp held
      refine ⟨fun ⟨heard, listens⟩ old before => ?_, fun made => ⟨id, made id held⟩⟩
      rw [show r.session.subscription? path member = _ from listens.held] at before
      rwa [← Option.some.inj before]
    · refine ⟨fun _ id before => ?_, fun _ => ⟨r.nextSubscription, ?_⟩⟩
      · rw [free] at before
        cases before
      · have left : (Run.start config numbering listing).performAll (ops ++ [request]) =
            r.openSubscription path rule (.forward path) :=
          history.symm.trans (congrArg Prod.snd opened)
        rw [history]
        apply Run.performAll_listens
        · rw [left]
          exact r.openSubscription_made path rule _
        · rw [left]
          exact Table.get?_set_self _ _ _
        · rfl
  · intro id listens since stays later
    have still : later.Listens path rule (.forward path) id := by
      show (result.2.performAll since).Listens path rule (.forward path) id
      rw [history] at listens stays ⊢
      exact Run.performAll_listens_lasts config numbering listing _ since listens rfl stays
    exact ⟨still, fun args values decoded => still.forwarded path member decoded⟩
  · exact Operation.subscribeSignal_again done
  · intro op owner present other signal configured
    exact Run.performAll_leads_iff config numbering listing ops op present other configured

/-- A root whose adapters are announced, and an adapter that the application wants the discoveries
of: both get what they asked for. -/
theorem discoveries_are_forwarded :
    let config : Config :=
      { service := "org.bluez", rootPath := "/", rootInterface := "org.bluez.Manager",
        protocol := .legacy,
        lifecycle := [⟨"org.bluez.Manager", "AdapterAdded", .added "org.bluez.Adapter"⟩] }
    let owned : Operation := .dispatch (.ownerChanged ⟨1⟩ "org.bluez" "" ":1.7")
    let request : Operation := .subscribeSignal "/hci0" "org.bluez.Adapter" "DeviceFound"
    let found : Operation := .dispatch (.signal ⟨6⟩ "/hci0" "DeviceFound" [.string "00:11"])
    let start := Run.start config .counting .ascending
    let r := start.performAll [.init, owned, .create "/hci0" "org.bluez.Adapter"]
    let result := request.perform r
    result.1 = .ok .done
    ∧ found.perform result.2 = (.ok .done,
        result.2.emit .elementSignal "/hci0" (.signal "DeviceFound" [.string "00:11"]))
    ∧ ∃ id, (start.performAll [.init, owned]).Listens "/"
        ⟨":1.7", "/", "org.bluez.Manager", "AdapterAdded"⟩
        (.lifecycle (.added "org.bluez.Adapter")) id := by
  intro config owned request found start
  have evaluated : let r := start.performAll [.init, owned, .create "/hci0" "org.bluez.Adapter"]
      (r.session.state, r.session.isRegistered "/hci0",
        r.session.subscription? "/hci0" "DeviceFound",
        (request.perform r).2.session.subscription? "/hci0" "DeviceFound",
        (start.performAll [.init]).session.state,
        (owned.perform (start.performAll [.init])).2.session.state) =
          (.present ":1.7", true, none, some ⟨6⟩, .absent, .present ":1.7") := by
    subst config owned request start
    rfl
  have asked := signal_is_delivered_iff config .counting .ascending
    [.init, owned, .create "/hci0" "org.bluez.Adapter"] "/hci0" "org.bluez.Adapter" "DeviceFound"
  have came := signal_is_delivered_iff config .counting .ascending [.init] "/" "" ""
  dsimp only at evaluated asked came ⊢
  change (request.perform (start.performAll _)).1 = _ ∧ _
  rw [show start.performAll [.init, owned] = (owned.perform (start.performAll [.init])).2 from rfl]
  generalize start.performAll [.init, owned, .create "/hci0" "org.bluez.Adapter"] = r
    at evaluated asked ⊢
  generalize start.performAll [.init] = idle at evaluated came ⊢
  obtain ⟨state, here, free, held, absent, present⟩ : _ ∧ _ ∧ _ ∧ _ ∧ _ ∧ _ := by
    simpa only [Prod.mk.injEq] using evaluated
  obtain ⟨met_iff, forwards, _⟩ := asked
  obtain ⟨_, _, leads_iff⟩ := came
  have owner : r.session.state.isPresent := by
    rw [state]
    rfl
  have met : (request.perform r).1 = .ok .done := met_iff.mpr ⟨owner, here⟩
  obtain ⟨delivers_iff, lasts, _⟩ := forwards met
  refine ⟨met, ?_, ?_⟩
  · obtain ⟨id, listens⟩ := delivers_iff.mpr fun id before => by
      rw [free] at before
      cases before
    have listed := listens.held
    rw [show (request.perform r).2.session.subscription? "/hci0" _ = _ from held] at listed
    cases listed
    obtain ⟨_, delivered⟩ := lasts ⟨6⟩ listens [] (Run.not_removed_self _ _)
    exact delivered [.string "00:11"] [.string "00:11"] rfl
  · have other : idle.session.state ≠ .present ":1.7" := by
      rw [absent]
      exact ServiceState.noConfusion
    exact (leads_iff owned ":1.7" present other _ (List.mem_singleton_self _)).mpr (by decide)

/-- Two interfaces of an adapter have a signal of one name. The second request is met like the
first, but no subscription is made for it, and its deliveries do not come. -/
theorem second_interface_gets_no_signal :
    let config : Config :=
      { service := "org.bluez", rootPath := "/", rootInterface := "org.bluez.Manager",
        protocol := .legacy }
    let ops : List Operation :=
      [.init, .dispatch (.ownerChanged ⟨1⟩ "org.bluez" "" ":1.7"),
        .create "/hci0" "org.bluez.Adapter",
        .subscribeSignal "/hci0" "org.bluez.Adapter" "Changed"]
    let r := (Run.start config .counting .ascending).performAll ops
    let second := (Operation.subscribeSignal "/hci0" "org.bluez.Control" "Changed").perform r
    second.1 = .ok .done
    ∧ second.2.shown Effect.subscribed? = r.shown Effect.subscribed?
    ∧ ∀ id rule, (id, rule) ∈ second.2.shown Effect.subscribed? →
        rule.interface ≠ "org.bluez.Control" := by
  intro config ops r second
  have evaluated : let r := (Run.start config .counting .ascending).performAll ops
      let second := (Operation.subscribeSignal "/hci0" "org.bluez.Control" "Changed").perform r
      (second.1, second.2.shown Effect.subscribed?, r.shown Effect.subscribed?) =
        (.ok .done,
          [(⟨3⟩, ⟨":1.7", "/", "org.bluez.Manager", "PropertyChanged"⟩),
            (⟨5⟩, ⟨":1.7", "/hci0", "org.bluez.Adapter", "Changed"⟩)],
          [(⟨3⟩, ⟨":1.7", "/", "org.bluez.Manager", "PropertyChanged"⟩),
            (⟨5⟩, ⟨":1.7", "/hci0", "org.bluez.Adapter", "Changed"⟩)]) := by
    subst config ops r second
    rfl
  obtain ⟨met, after, before⟩ : _ ∧ _ ∧ _ := by simpa only [Prod.mk.injEq] using evaluated
  refine ⟨met, after.trans before.symm, fun id rule made => ?_⟩
  rw [show second.2.shown Effect.subscribed? = _ from after] at made
  rcases List.mem_cons.mp made with first | rest
  · cases first
    decide
  · cases List.mem_singleton.mp rest
    decide

end BusCache
