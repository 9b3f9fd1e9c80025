import BusCache.Proofs.Session.Subscriptions
import BusCache.Proofs.Session.WriteLog

/-!
# Hearing — which elements hear of changes

A fetch subscribes to the signal that announces changes of an element's properties, unless the
element holds a subscription under the name of this signal. If that one was made for the changes
too, the element hears of them from then on: every change is written and announced, until the
element is removed. If it was made for the application, the element hears of none. They are
forwarded, and the cache stays as it is.
-/

namespace BusCache

/-! ## 1. Changes are announced -/

/-- The event that announces a write to a property of the element at a path. -/
def Write.event (path : Path) (w : Write) : Event :=
  ⟨.elementUpdated, path, .changed w.name w.value⟩

/-- The writes that are worth announcing, given the values before: a new value always is, and the
loss of a value if there is one to lose. -/
def effective (old : String → Option Value) : List Write → List Write
  | [] => []
  | w :: rest =>
      (if w.value = none ∧ old w.name = none then [] else [w])
        ++ effective (fun name => overwrite (old name) name [w]) rest

theorem effective_cons (old : String → Option Value) (w : Write) (rest : List Write) :
    effective old (w :: rest) = (if w.value = none ∧ old w.name = none then [] else [w])
      ++ effective (fun name => overwrite (old name) name [w]) rest := rfl

theorem effective_append (old : String → Option Value) (first rest : List Write) :
    effective old (first ++ rest) =
      effective old first ++ effective (fun name => overwrite (old name) name first) rest := by
  induction first generalizing old with
  | nil => rfl
  | cons w first ih =>
    have after : (fun name => overwrite (overwrite (old name) name [w]) name first) =
        fun name => overwrite (old name) name (w :: first) := by
      funext name
      rw [← overwrite_append, List.singleton_append]
    rw [List.cons_append, effective_cons, effective_cons, ih, after, List.append_assoc]

/-- Writes to the properties of the element at a path, with the events that announce them. -/
structure Run.Changes (r r' : Run) (path : Path) (log : List Write) : Prop where
  logs : r.Logs r' path log
  events : r'.events = r.events ++ (effective (r.session.value? path) log).map (Write.event path)

namespace Run.Changes

variable {r r' r'' : Run} {path : Path} {first rest : List Write}

theorem nothing (r : Run) (path : Path) : r.Changes r path [] :=
  ⟨Logs.nothing r path, (List.append_nil _).symm⟩

theorem trans (h : r.Changes r' path first) (h' : r'.Changes r'' path rest) :
    r.Changes r'' path (first ++ rest) := by
  refine ⟨h.logs.trans h'.logs, ?_⟩
  have values : r'.session.value? path =
      fun name => overwrite (r.session.value? path name) name first := funext h.logs.here
  rw [h'.events, h.events, values, effective_append, List.map_append, List.append_assoc]

theorem foldl {β : Type} {f : Run → β → Run} {w : β → Write}
    (round : ∀ (q : Run) x, (q.session.element? path).isSome → q.Changes (f q x) path [w x])
    (xs : List β) (here : (r.session.element? path).isSome) :
    r.Changes (xs.foldl f r) path (xs.map w) := by
  induction xs generalizing r with
  | nil => exact nothing r path
  | cons x xs ih =>
    have one := round r x here
    exact one.trans (ih (one.logs.stays path here))

end Run.Changes

namespace Run

variable {r : Run} {path : Path}

theorem storeChange_changes (here : (r.session.element? path).isSome) (name : String)
    (value : Value) (given : Option Kind) :
    r.Changes (r.storeChange path name value given) path [⟨name, some value⟩] := by
  refine ⟨storeChange_logs here name value given, ?_⟩
  have stored : ((Act.store path name value given).perform r).events = r.events ++ [] :=
    Act.perform_shown Effect.event? (.store path name value given) r
  have told := emit_events ((Act.store path name value given).perform r) .elementUpdated path
    (.changed name (some value))
  have followed := (cascade_steps (((Act.store path name value given).perform r).emit
    .elementUpdated path (.changed name (some value))) path (some name)).grows_events
  rw [told, stored, List.append_nil] at followed
  exact followed

theorem change_changes (here : (r.session.element? path).isSome) (name : String) (value : Value)
    (given : Option Kind) :
    r.Changes (Attempt.change path name value given r).2 path [⟨name, some value⟩] := by
  obtain ⟨e, he⟩ := Option.isSome_iff_exists.mp here
  rw [change_apply, he]
  exact storeChange_changes here name value given

theorem invalidate_changes (here : (r.session.element? path).isSome) (name : String) :
    r.Changes (r.invalidate path name) path [⟨name, none⟩] := by
  refine ⟨invalidate_logs here name, ?_⟩
  have held : r.session.value? path name =
      ((r.session.element? path).bind fun e => Table.get? e.cache name).map Property.value := rfl
  unfold invalidate
  cases found : (r.session.element? path).bind fun e => Table.get? e.cache name with
  | none =>
    rw [found, Option.map_none] at held
    show r.events = _
    rw [effective_cons, if_pos ⟨rfl, held⟩]
    exact (List.append_nil _).symm
  | some p =>
    rw [found, Option.map_some] at held
    have dropped : ((Act.drop path name).perform r).events = r.events ++ [] :=
      Act.perform_shown Effect.event? (.drop path name) r
    have told := emit_events ((Act.drop path name).perform r) .elementUpdated path
      (.changed name none)
    rw [dropped, List.append_nil] at told
    rw [effective_cons, if_neg fun lost => by rw [held] at lost; cases lost.2]
    exact told

theorem applyChanges_changes {e : Element} (here : r.session.element? path = some e)
    (changes : PropertyChanges) :
    r.Changes (r.applyChanges path changes) path
      (if e.interface = changes.interface then
        Write.values (r.session.listing.entries changes.changed)
          ++ changes.invalidated.map fun name => ⟨name, none⟩
      else []) := by
  have registered : (r.session.element? path).isSome := Option.isSome_of_eq_some here
  unfold applyChanges
  rw [here]
  dsimp only
  split
  · have stored : r.Changes _ path (Write.values (r.session.listing.entries changes.changed)) :=
      Changes.foldl (fun q p known => change_changes known p.1 p.2.value (some p.2.kind))
        (r.session.listing.entries changes.changed) registered
    exact stored.trans (Changes.foldl (fun q name known => invalidate_changes known name)
      changes.invalidated (stored.logs.stays path registered))
  · exact Changes.nothing r path

end Run

/-! ## 2. Routes stay -/

/-- The route to an element stays as long as the element does. -/
theorem Act.Enabled.route_kept {a : Act} {r : Run} (enabled : a.Enabled r.session)
    (routed : r.session.Routed) {id : SubscriptionId} {route : SignalRoute} {path : Path}
    (found : Table.get? r.session.signalRoutes id = some route)
    (target : route.target? r.session.config = some path) (kept : a ≠ .release path) :
    Table.get? (a.perform r).session.signalRoutes id = some route := by
  have old : id ≠ r.nextSubscription := by
    rintro rfl
    rw [routed.signals.nextSubscription_unrouted] at found
    cases found
  cases a with
  | subscribe p rule other =>
    show Table.get? (Table.set r.session.signalRoutes r.nextSubscription other) id = some route
    rw [Table.get?_set, if_neg old]
    exact found
  | openWatch =>
    show Table.get? (Table.set r.session.signalRoutes r.nextSubscription _) id = some route
    rw [Table.get?_set, if_neg old]
    exact found
  | closeWatch =>
    show Table.get? r.closeWatch.session.signalRoutes id = some route
    rw [Run.closeWatch_session]
    cases watched : r.session.ownership.watch with
    | none => exact found
    | some watch =>
      -- the watch's own route leads to no element
      have other : id ≠ watch := by
        rintro rfl
        rw [(routed.signals.owner id).mpr watched] at found
        cases found
        cases target
      show Table.get? (Table.erase r.session.signalRoutes watch) id = some route
      rw [Table.get?_erase, if_neg other]
      exact found
  | release p =>
    obtain ⟨e, here⟩ := Option.isSome_iff_exists.mp enabled
    have other : id ∉ r.session.listing.subscriptions p e := by
      rw [routed.signals.mem_subscriptions_iff here]
      rintro ⟨route', found', target'⟩
      rw [found] at found'
      rw [← Option.some.inj found', target] at target'
      exact kept (congrArg Act.release (Option.some.inj target').symm)
    show Table.get? (r.releaseElement p).session.signalRoutes id = some route
    rw [Run.releaseElement_session here]
    show Table.get? (Table.eraseAll r.session.signalRoutes _) id = some route
    rw [Table.get?_eraseAll, if_neg other]
    exact found
  | _ =>
    rw [(enabled.sameSignals fun moves => moves).routes]
    exact found

theorem Steps.route_kept {P : Act → Prop} {r r' : Run} (h : Steps P r r')
    (routed : r.session.Routed) {id : SubscriptionId} {route : SignalRoute} {path : Path}
    (found : Table.get? r.session.signalRoutes id = some route)
    (target : route.target? r.session.config = some path) (stays : ¬ r.Removed r' path) :
    Table.get? r'.session.signalRoutes id = some route := by
  have kept : r'.session.Routed ∧ r.trace <+: r'.trace ∧ r'.session.config = r.session.config
      ∧ (¬ r.Removed r' path → Table.get? r'.session.signalRoutes id = some route) := by
    apply h.preserves (I := fun q => q.session.Routed ∧ r.trace <+: q.trace
      ∧ q.session.config = r.session.config
      ∧ (¬ r.Removed q path → Table.get? q.session.signalRoutes id = some route))
      _ ⟨routed, List.prefix_refl _, rfl, fun _ => found⟩
    intro q a mem enabled ⟨routed, before, config, held⟩
    refine ⟨enabled.routed routed, before.trans (Steps.one mem enabled).trace_extends,
      (a.perform_sameSetup q).config.trans config, fun stays => ?_⟩
    rw [Run.Removed.step before enabled] at stays
    obtain ⟨stayed, kept⟩ := not_or.mp stays
    exact enabled.route_kept routed (held stayed) (config ▸ target) kept
  exact kept.2.2.2 stays

/-! ## 3. Hearing -/

/-- The element at a path holds a subscription that was made for the signal that announces changes
of its properties and was not given up, and the route of the subscription applies them. -/
def Run.HearsChanges (r : Run) (path : Path) (id : SubscriptionId) : Prop :=
  ∃ e rule, r.session.element? path = some e
    ∧ rule = r.session.config.protocol.changes r.session.destination path e.interface
    ∧ Table.get? e.subscriptions rule.member = some id
    ∧ (id, rule) ∈ r.shown Effect.subscribed?
    ∧ id ∉ r.shown Effect.closed?
    ∧ Table.get? r.session.signalRoutes id = some (Attempt.changesRoute r.session.config path)

theorem Attempt.changesRoute_target (config : Config) (path : Path) :
    (changesRoute config path).target? config = some path := by
  unfold changesRoute
  split <;> rfl

theorem Attempt.changesRoute_suits {s : Session} {path : Path} {rule : SignalRule}
    (suits : (changesRoute s.config path).Suits s path rule) :
    ∃ e, s.element? path = some e
      ∧ rule = s.config.protocol.changes s.destination path e.interface := by
  unfold changesRoute at suits
  split at suits <;> exact suits

namespace Run

variable {r : Run} {path : Path} {id : SubscriptionId}

/-- Hearing of changes comes down to the route of a subscription. -/
theorem hearsChanges_iff {answered : CallId → Prop} (books : r.Books answered)
    (addressed : r.Addressed) (path : Path) (id : SubscriptionId) :
    r.HearsChanges path id ↔
      Table.get? r.session.signalRoutes id = some (Attempt.changesRoute r.session.config path) := by
  constructor
  · rintro ⟨_, _, _, _, _, _, _, found⟩
    exact found
  · intro found
    obtain ⟨rule, made⟩ := addressed id _ path found (Attempt.changesRoute_target _ path)
    obtain ⟨e, here, hrule⟩ := Attempt.changesRoute_suits made.suits
    have held := made.held
    unfold Session.subscription? at held
    rw [Session.look_of_element? here] at held
    have live : (Table.get? r.session.signalRoutes id).isSome := Option.isSome_of_eq_some found
    exact ⟨e, rule, here, hrule, held, made.shown, books.subscriptions.live_not_closed id live,
      found⟩

theorem HearsChanges.subscription? (h : r.HearsChanges path id) :
    r.session.subscription? path r.session.config.protocol.changeSignal = some id := by
  obtain ⟨e, rule, here, rfl, held, _⟩ := h
  rw [PropertyProtocol.changes_member] at held
  unfold Session.subscription?
  rwa [Session.look_of_element? here]

/-- A delivery to a subscription for changes writes what it announces, and announces that again. -/
theorem handleSignal_changes {e : Element} (here : r.session.element? path = some e)
    (found : Table.get? r.session.signalRoutes id =
      some (Attempt.changesRoute r.session.config path))
    (sender : Path) (member : String) (args : List WireValue) :
    r.Changes (r.handleSignal id member args) path
      (r.session.writes path (.dispatch (.signal id sender member args))) := by
  have registered : (r.session.element? path).isSome := Option.isSome_of_eq_some here
  rw [Session.writes_of_some here]
  unfold Attempt.changesRoute at found
  split at found
  · have accepted : r.session.writesTo path e (.dispatch (.signal id sender member args)) =
        Write.ofChange args := by
      simp only [Session.writesTo, found, if_true]
    rw [accepted, Write.ofChange_eq]
    unfold handleSignal
    rw [found]
    dsimp only
    rcases propertyChangeOf args with error | (_ | ⟨name, p⟩)
    · exact Changes.nothing r path
    · exact Changes.nothing r path
    · exact change_changes registered name p.value (some p.kind)
  · have accepted : r.session.writesTo path e (.dispatch (.signal id sender member args)) =
        Write.ofChanges r.session.listing e args := by
      simp only [Session.writesTo, found, if_true]
    rw [accepted, Write.ofChanges_eq]
    unfold handleSignal
    rw [found]
    dsimp only
    rcases propertyChangesOf args with error | (_ | changes)
    · exact Changes.nothing r path
    · exact Changes.nothing r path
    · exact applyChanges_changes here changes

/-- Whatever a delivery to an element that hears of changes announces is written and announced. -/
theorem HearsChanges.delivered (h : r.HearsChanges path id) (sender : Path) (member : String)
    (args : List WireValue) :
    let delivery := Operation.dispatch (.signal id sender member args)
    r.Changes (delivery.perform r).2 path (r.session.writes path delivery) := by
  intro delivery
  obtain ⟨e, _, here, _, _, _, _, changes⟩ := h
  rw [Operation.perform_signal]
  exact handleSignal_changes here changes sender member args

end Run

/-! ## 4. Fetching -/

namespace Attempt

variable {r : Run} {path : Path}

/-- What subscribing to changes leaves: the subscription that was held under the name of the signal,
or a new one. -/
theorem subscribeChanges_leaves {e : Element} (present : r.session.state.isPresent)
    (here : r.session.element? path = some e) :
    (∃ id, r.session.subscription? path r.session.config.protocol.changeSignal = some id
        ∧ (subscribeChanges path r).2 = r)
      ∨ r.session.subscription? path r.session.config.protocol.changeSignal = none
        ∧ (subscribeChanges path r).2 = r.openSubscription path
          (r.session.config.protocol.changes r.session.destination path e.interface)
          (changesRoute r.session.config path) := by
  have held : r.session.subscription? path r.session.config.protocol.changeSignal =
      Table.get? e.subscriptions
        (r.session.config.protocol.changes r.session.destination path e.interface).member := by
    unfold Session.subscription?
    rw [Session.look_of_element? here, PropertyProtocol.changes_member]
  rw [subscribeChanges_apply, openUnlessHeld_eq present here, held]
  dsimp only
  unfold Element.hasSubscription Table.contains
  split
  · rename_i some
    obtain ⟨id, some⟩ := Option.isSome_iff_exists.mp some
    exact .inl ⟨id, some, rfl⟩
  · rename_i free
    exact .inr ⟨Option.not_isSome_iff_eq_none.mp free, rfl⟩

end Attempt

namespace Operation

variable {r : Run} {path : Path} {completion : Option Completion}

/-- After a fetch that was sent the element holds a subscription under the name of the signal, with
the route that it had before or, if there was none before, with the route of changes. -/
theorem sync_route (sent : ((sync path completion).perform r).1 = .ok .done) :
    let after := ((sync path completion).perform r).2
    ∃ id, after.session.subscription? path r.session.config.protocol.changeSignal = some id
      ∧ (r.session.subscription? path r.session.config.protocol.changeSignal = some id
          ∧ Table.get? after.session.signalRoutes id = Table.get? r.session.signalRoutes id
        ∨ r.session.subscription? path r.session.config.protocol.changeSignal = none
          ∧ Table.get? after.session.signalRoutes id =
            some (Attempt.changesRoute r.session.config path)) := by
  intro after
  have performed : (sync path completion).perform r = silent (Attempt.sync path completion) r := rfl
  have left : after = (Attempt.sync path completion r).2 := by
    show ((sync path completion).perform r).2 = _
    rw [performed, silent_apply]
  rcases Attempt.sync_cases path completion r with ⟨error, refused⟩ | ⟨e, present, here, free⟩
  · rw [performed, silent_apply, refused] at sent
    cases sent
  · rw [Attempt.sync_eq present here free] at left
    -- the call that is sent moves no subscription
    have subscription : ∀ member, after.session.subscription? path member =
        (Attempt.subscribeChanges path r).2.session.subscription? path member := by
      intro member
      rw [left]
      exact Session.look_of_modified_kept (Run.sendCall_registry _ _ _ _ _ _) (fun _ => rfl) path
    have routes : after.session.signalRoutes =
        (Attempt.subscribeChanges path r).2.session.signalRoutes := by
      rw [left]
      rfl
    rw [subscription, routes]
    rcases Attempt.subscribeChanges_leaves present here with ⟨id, held, same⟩ | ⟨none, opened⟩
    · rw [same]
      exact ⟨id, held, .inl ⟨held, rfl⟩⟩
    · have registered : (r.session.element? path).isSome := Option.isSome_of_eq_some here
      refine ⟨r.nextSubscription, ?_, .inr ⟨none, ?_⟩⟩
      · rw [opened, Session.subscription?_of_added
          (r.openSubscription_registry path _ _) registered, PropertyProtocol.changes_member,
          if_pos ⟨rfl, rfl⟩]
      · rw [opened]
        exact Table.get?_set_self _ _ _

end Operation

/-! ## 5. Histories -/

namespace Run

variable (config : Config) (numbering : Numbering) (listing : Listing)

theorem performAll_config (ops : List Operation) :
    ((start config numbering listing).performAll ops).session.config = config :=
  (performAll_acts (start_sound config numbering listing) ops).sameSetup.config

theorem performAll_hearsChanges_iff (ops : List Operation) (path : Path) (id : SubscriptionId) :
    ((start config numbering listing).performAll ops).HearsChanges path id ↔
      Table.get? ((start config numbering listing).performAll ops).session.signalRoutes id =
        some (Attempt.changesRoute config path) := by
  rw [hearsChanges_iff (performAll_books config numbering listing ops)
    (performAll_addressed config numbering listing ops), performAll_config]

/-- An element that hears of changes does so until it is removed. -/
theorem performAll_hearsChanges_lasts (ops since : List Operation) {path : Path}
    {id : SubscriptionId}
    (hearing : ((start config numbering listing).performAll ops).HearsChanges path id)
    (stays : ¬ ((start config numbering listing).performAll ops).Removed
      (((start config numbering listing).performAll ops).performAll since) path) :
    (((start config numbering listing).performAll ops).performAll since).HearsChanges path id := by
  have found := (performAll_hearsChanges_iff config numbering listing ops path id).mp hearing
  have sound := performAll_sound (start_sound config numbering listing) ops
  have target : (Attempt.changesRoute config path).target?
      ((start config numbering listing).performAll ops).session.config = some path := by
    rw [performAll_config]
    exact Attempt.changesRoute_target config path
  have still := (performAll_acts sound since).route_kept sound.routed found target stays
  rw [← performAll_append] at still ⊢
  exact (performAll_hearsChanges_iff config numbering listing _ path id).mpr still

end Run

/-- After a fetch that was sent the element holds a subscription under the name of the signal that
announces changes. It hears of changes exactly if every subscription that it held under this name
before was made for them. Then it does so until it is removed: whatever a delivery announces is
written to the cache, and what that changes is announced in turn. -/
theorem synced_element_hears_changes_iff (config : Config) (numbering : Numbering)
    (listing : Listing) (ops : List Operation) (path : Path) (completion : Option Completion) :
    let r := (Run.start config numbering listing).performAll ops
    let after := ((Operation.sync path completion).perform r).2
    ((Operation.sync path completion).perform r).1 = .ok .done →
    (∃ id, after.session.subscription? path config.protocol.changeSignal = some id)
    ∧ ((∃ id, after.HearsChanges path id) ↔
        ∀ id, r.session.subscription? path config.protocol.changeSignal = some id →
          Table.get? r.session.signalRoutes id = some (Attempt.changesRoute config path))
    ∧ ∀ id, after.HearsChanges path id →
        ∀ since, ¬ after.Removed (after.performAll since) path →
          let later := after.performAll since
          later.HearsChanges path id
          ∧ ∀ sender member args,
            let delivery := Operation.dispatch (.signal id sender member args)
            let log := later.session.writes path delivery
            (∀ name, (delivery.perform later).2.session.value? path name =
              overwrite (later.session.value? path name) name log)
            ∧ (delivery.perform later).2.events = later.events
              ++ (effective (later.session.value? path) log).map (Write.event path) := by
  intro r after sent
  have history : after = (Run.start config numbering listing).performAll
      (ops ++ [.sync path completion]) := (Run.performAll_concat _ _ _).symm
  have hears : ∀ id, after.HearsChanges path id ↔
      Table.get? after.session.signalRoutes id = some (Attempt.changesRoute config path) := by
    rw [history]
    exact Run.performAll_hearsChanges_iff config numbering listing _ path
  have setup : r.session.config = config := Run.performAll_config config numbering listing ops
  have setup' : after.session.config = config := by
    rw [history]
    exact Run.performAll_config config numbering listing _
  obtain ⟨id, held, route⟩ := Operation.sync_route sent
  rw [setup] at held route
  refine ⟨⟨id, held⟩, ⟨?_, ?_⟩, ?_⟩
  · intro ⟨heard, hearing⟩ old before
    rcases route with ⟨same, kept⟩ | ⟨none, _⟩
    · -- the element goes on with the one subscription that it held before
      have now := hearing.subscription?
      rw [setup', held] at now
      rw [same] at before
      cases before
      cases now
      rw [← kept]
      exact (hears _).mp hearing
    · rw [none] at before
      cases before
  · intro made
    refine ⟨id, (hears id).mpr ?_⟩
    rcases route with ⟨same, kept⟩ | ⟨_, new⟩
    · exact kept.trans (made id same)
    · exact new
  · intro id hearing since stays later
    have still : later.HearsChanges path id := by
      show (after.performAll since).HearsChanges path id
      rw [history] at hearing stays ⊢
      exact Run.performAll_hearsChanges_lasts config numbering listing _ since hearing stays
    refine ⟨still, fun sender member args => ?_⟩
    have delivered := still.delivered sender member args
    exact ⟨delivered.logs.here, delivered.events⟩

/-- An element that held no subscription is fetched, and a property of it changes. -/
theorem fetched_technology_hears_change :
    let config : Config :=
      { service := "net.connman", rootPath := "/", rootInterface := "net.connman.Manager",
        protocol := .legacy }
    let ops : List Operation :=
      [.init, .dispatch (.ownerChanged ⟨1⟩ "net.connman" "" ":1.5"),
        .create "/wifi" "net.connman.Technology"]
    let powered : Value := .scalar (.bool true)
    let delivery : Operation := .dispatch (.signal ⟨5⟩ "/wifi" "PropertyChanged"
      [.string "Powered", .variant (.scalar (.bool true))])
    let r := (Run.start config .counting .ascending).performAll ops
    let after := ((Operation.sync "/wifi" none).perform r).2
    ((Operation.sync "/wifi" none).perform r).1 = .ok .done
    ∧ after.HearsChanges "/wifi" ⟨5⟩
    ∧ (delivery.perform after).2.session.value? "/wifi" "Powered" = some powered
    ∧ (delivery.perform after).2.events =
        after.events ++ [⟨.elementUpdated, "/wifi", .changed "Powered" (some powered)⟩] := by
  intro config ops powered delivery
  have evaluated : let r := (Run.start config .counting .ascending).performAll ops
      let after := ((Operation.sync "/wifi" none).perform r).2
      (((Operation.sync "/wifi" none).perform r).1,
        r.session.subscription? "/wifi" "PropertyChanged",
        after.session.subscription? "/wifi" "PropertyChanged", after.session.config,
        after.session.writes "/wifi" delivery) =
          (.ok .done, none, some ⟨5⟩, config, [⟨"Powered", some powered⟩]) := by
    subst config ops powered delivery
    rfl
  have hears := synced_element_hears_changes_iff config .counting .ascending ops "/wifi" none
  dsimp only at evaluated hears ⊢
  generalize (Run.start config .counting .ascending).performAll ops = r at evaluated hears ⊢
  generalize (Operation.sync "/wifi" none).perform r = synced at evaluated hears ⊢
  obtain ⟨sent, before, held, setup, log⟩ : _ ∧ _ ∧ _ ∧ _ ∧ _ := by
    simpa only [Prod.mk.injEq] using evaluated
  obtain ⟨_, heard, later⟩ := hears sent
  have first : synced.2.HearsChanges "/wifi" ⟨5⟩ := by
    obtain ⟨id, hearing⟩ := heard.mpr fun id old => by
      rw [show r.session.subscription? "/wifi" config.protocol.changeSignal = none from before]
        at old
      cases old
    have listed := hearing.subscription?
    rw [setup, show synced.2.session.subscription? "/wifi" config.protocol.changeSignal = _ from
      held] at listed
    cases listed
    exact hearing
  obtain ⟨_, delivered⟩ := later ⟨5⟩ first [] (Run.not_removed_self _ _)
  obtain ⟨values, events⟩ :=
    delivered "/wifi" "PropertyChanged" [.string "Powered", .variant (.scalar (.bool true))]
  change ∀ name, _ = overwrite _ name (synced.2.session.writes "/wifi" delivery) at values
  change _ = _ ++ (effective _ (synced.2.session.writes "/wifi" delivery)).map _ at events
  rw [log] at values events
  exact ⟨sent, first, values "Powered", events⟩

/-- An adapter whose change signal the application asked for before the first fetch: the fetch is
sent, but the adapter hears of no change. -/
theorem asked_for_changes_hears_none :
    let config : Config :=
      { service := "org.bluez", rootPath := "/", rootInterface := "org.bluez.Manager",
        protocol := .legacy }
    let ops : List Operation :=
      [.init, .dispatch (.ownerChanged ⟨1⟩ "org.bluez" "" ":1.7"),
        .create "/hci0" "org.bluez.Adapter",
        .subscribeSignal "/hci0" "org.bluez.Adapter" "PropertyChanged"]
    let path := "/hci0"
    let delivery : Operation := .dispatch (.signal ⟨5⟩ path "PropertyChanged"
      [.string "Powered", .variant (.scalar (.bool true))])
    let r := (Run.start config .counting .ascending).performAll ops
    let after := ((Operation.sync path none).perform r).2
    let changed := (delivery.perform after).2
    ((Operation.sync path none).perform r).1 = .ok .done
    ∧ (∀ id, ¬ after.HearsChanges path id)
    ∧ changed.session.value? path "Powered" = none
    ∧ changed.events = after.events
      ++ [⟨.elementSignal, path,
        .signal "PropertyChanged" [.string "Powered", .scalar (.bool true)]⟩] := by
  intro config ops path delivery
  have evaluated : let r := (Run.start config .counting .ascending).performAll ops
      let after := ((Operation.sync path none).perform r).2
      let changed := (delivery.perform after).2
      (((Operation.sync path none).perform r).1, after.session.config,
        after.session.subscription? path "PropertyChanged",
        Table.get? after.session.signalRoutes ⟨5⟩, changed.session.value? path "Powered",
        changed.events) =
          (.ok .done, config, some ⟨5⟩, some (.forward path), none, after.events
            ++ [⟨.elementSignal, path,
              .signal "PropertyChanged" [.string "Powered", .scalar (.bool true)]⟩]) := by
    subst config ops path delivery
    rfl
  dsimp only at evaluated ⊢
  generalize (Run.start config .counting .ascending).performAll ops = r at evaluated ⊢
  generalize (Operation.sync path none).perform r = synced at evaluated ⊢
  obtain ⟨sent, setup, held, route, unknown, forwarded⟩ : _ ∧ _ ∧ _ ∧ _ ∧ _ ∧ _ := by
    simpa only [Prod.mk.injEq] using evaluated
  refine ⟨sent, fun id hearing => ?_, unknown, forwarded⟩
  have listed := hearing.subscription?
  rw [setup, show synced.2.session.subscription? path config.protocol.changeSignal = _ from held]
    at listed
  cases listed
  obtain ⟨_, _, _, _, _, _, _, applied⟩ := hearing
  rw [route] at applied
  have both : (SignalRoute.forward path) = Attempt.changesRoute synced.2.session.config path :=
    Option.some.inj applied
  unfold Attempt.changesRoute at both
  split at both <;> cases both

end BusCache
