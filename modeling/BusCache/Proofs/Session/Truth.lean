import BusCache.Proofs.Session.Departures

/-!
# Truth — events hold when they are shown

An event tells something about the session: an element has some properties, a property has a value
or none, an element left, the service is up or down. Whoever is told the event finds it so, as every
operation changes the session first and shows the event after that. An element that left is
announced with the properties that it had until then.
-/

namespace BusCache

/-! ## 1. What events tell -/

/-- What an event tells is so in a session. An event whose payload does not go with its kind holds
in none. -/
def Event.Holds (s : Session) (e : Event) : Prop :=
  match e.kind, e.payload with
  | .elementAdded, .snapshot properties =>
      ∃ x, s.element? e.path = some x ∧ x.properties = properties
  | .elementUpdated, .snapshot properties =>
      ∃ x, s.element? e.path = some x ∧ x.properties = properties
  | .elementUpdated, .changed key value =>
      ∃ x, s.element? e.path = some x ∧ Table.get? x.properties key = value
  | .elementRemoved, .snapshot _ => s.element? e.path = none
  | .elementSignal, .signal _ _ => (s.element? e.path).isSome
  | .serviceUp, .owner owner => s.state = .present owner
  | .serviceDown, .none => s.state = .absent ∧ s.registry = []
  | _, _ => False

namespace Element

theorem get?_properties (e : Element) (name : String) :
    Table.get? e.properties name = (Table.get? e.cache name).map Property.value :=
  Table.get?_mapValues Property.value e.cache name

theorem setProperty_properties (e : Element) (name : String) (value : Value)
    (given : Option Kind) :
    Table.get? (e.setProperty name value given).properties name = some value := by
  rw [get?_properties]
  unfold setProperty
  rw [Table.get?_set_self, Option.map_some]

theorem removeProperty_properties (e : Element) (name : String) :
    Table.get? (e.removeProperty name).properties name = none := by
  rw [get?_properties]
  unfold removeProperty
  rw [Table.get?_erase, if_pos rfl, Option.map_none]

end Element

/-! ## 2. Acts -/

/-- Every event that was shown held at that instant. -/
def Run.Faithful (r : Run) : Prop :=
  ∀ m ∈ r.trace, ∀ e, m.effect.event? = some e → e.Holds m.session

/-- Shows no event, unless it is that an element left. -/
def Act.Mute : Act → Prop
  | emit _ _ _ => False
  | _ => True

/-- A mute act that removes nothing shows no event at all. -/
theorem Act.Mute.unseen {a : Act} (mute : a.Mute) (kept : ∀ path, a ≠ .release path) (r : Run) :
    (a.shows r).filterMap Effect.event? = [] := by
  cases a with
  | release path => exact absurd rfl (kept path)
  | closeWatch => exact closeWatch_unseen (fun _ => rfl) r
  | closeQuery => exact closeQuery_unseen (fun _ => rfl) r
  | emit kind path payload => exact mute.elim
  | _ => rfl

namespace Run.Faithful

variable {r r' : Run}

theorem append {new : List Moment} (h : r.Faithful) (trace : r'.trace = r.trace ++ new)
    (hold : ∀ m ∈ new, ∀ e, m.effect.event? = some e → e.Holds m.session) : r'.Faithful := by
  intro m hm
  rw [trace] at hm
  rcases List.mem_append.mp hm with old | fresh
  · exact h m old
  · exact hold m fresh

theorem emit {kind : EventKind} {path : Path} {payload : Payload} (h : r.Faithful)
    (holds : Event.Holds r.session ⟨kind, path, payload⟩) :
    (r.emit kind path payload).Faithful := by
  have trace : (r.emit kind path payload).trace =
      r.trace ++ [⟨.event ⟨kind, path, payload⟩ (r.session.handlers kind), r.session⟩] := rfl
  apply h.append trace
  intro m hm e shown
  rw [List.mem_singleton.mp hm] at shown ⊢
  rw [← Option.some.inj shown]
  exact holds

theorem release (h : r.Faithful) (path : Path) : (r.releaseElement path).Faithful := by
  cases here : r.session.element? path with
  | none =>
    rw [releaseElement_of_none here]
    exact h
  | some x =>
    obtain ⟨new, trace, moments⟩ := releaseElement_moments here
    apply h.append trace
    intro m hm e shown
    obtain ⟨only, gone⟩ := moments m hm
    rw [only e shown]
    show m.session.element? path = none
    rw [gone, if_pos rfl]

theorem perform {a : Act} (h : r.Faithful) (mute : a.Mute) : (a.perform r).Faithful := by
  by_cases removal : ∃ path, a = .release path
  · obtain ⟨path, rfl⟩ := removal
    exact h.release path
  · obtain ⟨new, trace, effects⟩ := a.perform_trace r
    have unseen := mute.unseen (fun path he => removal ⟨path, he⟩) r
    rw [← effects, List.filterMap_map, List.filterMap_eq_nil_iff] at unseen
    apply h.append trace
    intro m hm e shown
    have none := unseen m hm
    rw [Function.comp_apply, shown] at none
    cases none

theorem steps {P : Act → Prop} (h : r.Faithful) (taken : Steps P r r')
    (mute : ∀ a, P a → a.Mute) : r'.Faithful :=
  taken.preserves (I := Run.Faithful) (fun _ a mem _ kept => kept.perform (mute a mem)) h

end Run.Faithful

theorem Act.Grows.mute (a : Act) (h : a.Grows) : a.Mute := by
  cases a <;> first | exact h.elim | trivial

theorem Act.Removes.mute (a : Act) (h : a.Removes) : a.Mute := by
  cases a <;> first | exact h.elim | trivial

/-! ## 3. Changes of properties -/

namespace Run

variable {r : Run} {path : Path} {x : Element}

theorem storeChange_faithful (h : r.Faithful) (here : r.session.element? path = some x)
    (name : String) (value : Value) (given : Option Kind) :
    (r.storeChange path name value given).Faithful := by
  have stored : ((Act.store path name value given).perform r).Faithful := h.perform trivial
  have told : (((Act.store path name value given).perform r).emit .elementUpdated path
      (.changed name (some value))).Faithful :=
    stored.emit
      ⟨_, Act.store_element? here name value given, x.setProperty_properties name value given⟩
  exact told.steps (cascade_steps _ path (some name)) Act.Grows.mute

theorem change_faithful (h : r.Faithful) (path : Path) (name : String) (value : Value)
    (given : Option Kind) : (Attempt.change path name value given r).2.Faithful := by
  rw [change_apply]
  cases here : r.session.element? path with
  | none => exact h
  | some x => exact storeChange_faithful h here name value given

theorem invalidate_faithful (h : r.Faithful) (path : Path) (name : String) :
    (r.invalidate path name).Faithful := by
  unfold invalidate
  cases held : (r.session.element? path).bind fun e => Table.get? e.cache name with
  | none => exact h
  | some p =>
    obtain ⟨x, here, _⟩ := Option.bind_eq_some_iff.mp held
    have dropped : ((Act.drop path name).perform r).Faithful := h.perform trivial
    exact dropped.emit ⟨_, Act.drop_element? here name, x.removeProperty_properties name⟩

theorem applyChanges_faithful (h : r.Faithful) (path : Path) (changes : PropertyChanges) :
    (r.applyChanges path changes).Faithful := by
  unfold applyChanges
  cases r.session.element? path with
  | none => exact h
  | some x =>
    dsimp only
    split
    · have stored : ((r.session.listing.entries changes.changed).foldl
          (fun q p => (Attempt.change path p.1 p.2.value (some p.2.kind) q).2) r).Faithful :=
        List.foldlRecOn _ _ h fun q kept p _ => change_faithful kept path p.1 _ _
      exact List.foldlRecOn _ _ stored fun q kept name _ => invalidate_faithful kept path name
    · exact h

theorem mergeFetched_faithful (h : r.Faithful) (path : Path) (fetched : Cache) :
    (r.mergeFetched path fetched).Faithful := by
  unfold mergeFetched
  cases here : r.session.element? path with
  | none => exact h
  | some x =>
    have merged : ((Act.merge path fetched).perform r).Faithful := h.perform trivial
    have found := Act.merge_element? here fetched
    -- the first fetch of an element announces it, and a later one its update
    have told : (((Act.merge path fetched).perform r).emit
        (if x.synced then EventKind.elementUpdated else .elementAdded) path
        (.snapshot (x.merge fetched).properties)).Faithful := by
      split
      · exact merged.emit ⟨_, found, rfl⟩
      · exact merged.emit ⟨_, found, rfl⟩
    exact told.steps (cascade_steps _ path none) Act.Grows.mute

/-! ## 4. Coming and going of the service -/

theorem enter_faithful (h : r.Faithful) (owner : String) : (r.enter owner).Faithful := by
  have state := enter_state owner r
  obtain ⟨grown, grows, entered⟩ := enter_grows owner r
  have known : (r.setState (.present owner)).Faithful :=
    h.perform (a := .setState (.present owner)) trivial
  have ready : grown.Faithful := known.steps grows Act.Grows.mute
  rw [entered] at state ⊢
  exact ready.emit state

theorem removeAll_faithful (h : r.Faithful) : r.removeAll.Faithful :=
  h.steps (removeAll_steps r) Act.Removes.mute

theorem exit_faithful (h : r.Faithful) : r.exit.Faithful := by
  have absent : (r.removeAll.setState .absent).Faithful :=
    (removeAll_faithful h).perform (a := .setState .absent) trivial
  apply absent.emit
  exact ⟨rfl, (Table.eq_nil_iff _).mpr (removeAll_element? r)⟩

theorem ownerChanged_faithful (h : r.Faithful) (oldOwner newOwner : String) :
    (r.ownerChanged oldOwner newOwner).Faithful := by
  unfold ownerChanged
  split
  · exact enter_faithful h _
  · exact exit_faithful h
  · exact enter_faithful (exit_faithful h) _
  · exact h

theorem init_faithful (h : r.Faithful) : r.init.Faithful := by
  have counted : (r.setUsers (r.session.users + 1)).Faithful :=
    h.perform (a := .setUsers _) trivial
  unfold init
  dsimp only
  split
  · have watched : (r.setUsers (r.session.users + 1)).openWatch.Faithful :=
      counted.perform (a := .openWatch) trivial
    exact watched.perform (a := .openQuery) trivial
  · exact counted

theorem shutdown_faithful (h : r.Faithful) : r.shutdown.Faithful := by
  have counted : ∀ users, (r.setUsers users).Faithful :=
    fun users => h.perform (a := .setUsers users) trivial
  unfold shutdown
  split
  · exact h
  · have left : (if (r.setUsers 0).session.state.isPresent then (r.setUsers 0).exit
        else (r.setUsers 0).removeAll).Faithful := by
      split
      · exact exit_faithful (counted 0)
      · exact removeAll_faithful (counted 0)
    have unwatched := left.perform (a := .closeWatch) trivial
    exact unwatched.perform (a := .closeQuery) trivial
  · exact counted _

/-! ## 5. Signals and replies -/

theorem applyLifecycle_faithful (h : r.Faithful) (action : LifecycleAction) (target : Path) :
    (r.applyLifecycle action target).Faithful := by
  unfold applyLifecycle
  cases action with
  | added interface =>
    dsimp only
    split
    · rename_i allowed
      exact h.steps (adopt_steps (Session.level_below_root allowed)) Act.Grows.mute
    · exact h
  | removed => exact h.steps (remove_steps target r) Act.Removes.mute

theorem handleSignal_faithful (h : r.Faithful) (subscription : SubscriptionId) (member : String)
    (args : List WireValue) : (r.handleSignal subscription member args).Faithful := by
  unfold handleSignal
  split
  · exact h
  · exact h
  · split
    · exact change_faithful h _ _ _ _
    · exact h
  · split
    · exact applyChanges_faithful h _ _
    · exact h
  · split
    · exact applyLifecycle_faithful h _ _
    · exact h
  · split
    · rename_i registered
      split
      · exact h.emit registered
      · exact h
    · exact h

theorem complete_faithful (h : r.Faithful) (completion : Option Completion)
    (outcome : Except BusError (List Value)) : (r.complete completion outcome).Faithful := by
  cases completion with
  | none => exact h
  | some c => exact h.perform (a := .tell c outcome) trivial

theorem handleReply_faithful (routed : r.session.Routed) (h : r.Faithful) (call : CallId)
    (result : Except BusError (List WireValue)) : (r.handleReply call result).Faithful := by
  cases found : Table.get? r.session.callRoutes call with
  | none =>
    rw [handleReply_of_none found]
    exact h
  | some route =>
    cases route with
    | nameOwner =>
      have asked := (routed.calls.owner call).mp found
      have settled : ((Act.answerQuery call).perform r).Faithful := h.perform trivial
      rcases handleReply_query_cases ⟨found, asked⟩ result with after | ⟨owner, after⟩
      · rw [after]
        exact settled
      · rw [after]
        exact ownerChanged_faithful settled "" owner
    | element path kind purpose =>
      obtain ⟨⟨held, completion⟩, hslot, rfl⟩ :=
        (routed.calls.element call path kind).mp ⟨purpose, found⟩
      have taken : ((Act.answer held path kind).perform r).Faithful := h.perform trivial
      rw [handleReply_call found hslot]
      apply complete_faithful
      split
      · exact mergeFetched_faithful taken path _
      · exact taken

end Run

namespace Operation

theorem perform_faithful {r : Run} (routed : r.session.Routed) (h : r.Faithful) (op : Operation) :
    (op.perform r).2.Faithful := by
  by_cases extending : op.Extends
  · have grows := perform_extends extending Act.Grows.mute (fun _ _ _ _ _ => trivial) r
    exact h.steps grows fun _ => id
  cases op with
  | init => exact Run.init_faithful h
  | shutdown => exact Run.shutdown_faithful h
  | remove path => exact h.steps (Run.remove_steps path r) Act.Removes.mute
  | change path name value =>
    rw [perform_change]
    exact Run.change_faithful h path name value none
  | setHandler kind handler => exact h.perform (a := .setHandler kind handler) trivial
  | relist order => exact h.perform (a := .relist order) trivial
  | dispatch event =>
    rw [perform_dispatch]
    cases event with
    | reply call result => exact Run.handleReply_faithful routed h call result
    | signal subscription path member args =>
      exact Run.handleSignal_faithful h subscription member args
    | ownerChanged subscription name oldOwner newOwner =>
      show (r.handleOwnerChanged subscription name oldOwner newOwner).Faithful
      unfold Run.handleOwnerChanged
      split
      · exact Run.ownerChanged_faithful h oldOwner newOwner
      · exact h
  | _ => exact absurd trivial extending

end Operation

/-! ## 6. Histories -/

theorem Run.performAll_faithful {r : Run} (sound : r.session.Sound) (faithful : r.Faithful)
    (ops : List Operation) : (r.performAll ops).Faithful :=
  performAll_sound_keeps (I := Run.Faithful)
    (fun _ op sound kept => op.perform_faithful sound.routed kept) sound faithful ops

/-- Every event of a history holds at the instant when it is shown: what it says of an element, of a
property, or of the service can be read off the session. Whatever operation comes next, every
element that leaves in it is announced with the properties that it had before, and the element was
found like that until it left. -/
theorem events_hold_when_shown (config : Config) (numbering : Numbering) (listing : Listing)
    (ops : List Operation) :
    let r := (Run.start config numbering listing).performAll ops
    (∀ m ∈ r.trace, ∀ e, m.effect.event? = some e → e.Holds m.session)
    ∧ ∀ op : Operation, r.Departs (op.perform r).2 := by
  intro r
  have started := Run.start_sound config numbering listing
  have sound : r.session.Sound := Run.performAll_sound started ops
  have faithful : r.Faithful :=
    Run.performAll_faithful started (fun _ h => absurd h List.not_mem_nil) ops
  exact ⟨faithful, fun op => op.perform_departs sound⟩

/-- A property of the root changes, and then the owner leaves. -/
theorem change_and_removal_hold_when_shown :
    let config : Config :=
      { service := "net.connman", rootPath := "/", rootInterface := "net.connman.Manager",
        protocol := .legacy }
    let ops : List Operation :=
      [.init, .dispatch (.ownerChanged ⟨1⟩ "net.connman" "" ":1.5"),
        .dispatch (.signal ⟨3⟩ "/" "PropertyChanged" [.string "State", .variant (.string "idle")])]
    let changed : Event := ⟨.elementUpdated, "/", .changed "State" (some (.string "idle"))⟩
    let r := (Run.start config .counting .ascending).performAll ops
    let after :=
      ((Operation.dispatch (.ownerChanged ⟨1⟩ "net.connman" ":1.5" "")).perform r).2
    (∃ m ∈ r.trace, m.effect.event? = some changed ∧ changed.Holds m.session)
    ∧ ∃ m ∈ after.trace, ∃ x, r.session.element? "/" = some x
        ∧ m.effect.event? = some (.removal ("/", x)) := by
  intro config ops changed
  have shown : let r := (Run.start config .counting .ascending).performAll ops
      (r.events.getLast?, r.shown Effect.removed?, ((Operation.dispatch
        (.ownerChanged ⟨1⟩ "net.connman" ":1.5" "")).perform r).2.shown Effect.removed?) =
        (some changed, [], ["/"]) := by subst config ops changed; rfl
  obtain ⟨hold, departs⟩ := events_hold_when_shown config .counting .ascending ops
  generalize (Run.start config .counting .ascending).performAll ops = r at shown hold departs ⊢
  obtain ⟨last, none, one⟩ : _ ∧ _ ∧ _ := by simpa only [Prod.mk.injEq] using shown
  constructor
  · obtain ⟨m, hm, told⟩ := List.mem_filterMap.mp (List.mem_of_getLast? last)
    exact ⟨m, hm, told, hold m hm changed told⟩
  · obtain ⟨new, trace, left⟩ := departs (.dispatch (.ownerChanged ⟨1⟩ "net.connman" ":1.5" ""))
    -- the one removal is among what the last operation showed
    have removals := Run.shown_append Effect.removed? trace
    rw [none, one, List.nil_append] at removals
    have mem : "/" ∈ new.filterMap fun m => m.effect.removed? := by
      rw [← removals]
      exact List.mem_singleton_self "/"
    obtain ⟨m, hm, removed⟩ := List.mem_filterMap.mp mem
    obtain ⟨before, since, split⟩ := List.append_of_mem hm
    obtain ⟨x, here, told, _⟩ := left before m since split "/" removed
    refine ⟨m, ?_, x, here, told⟩
    rw [trace]
    exact List.mem_append_right _ hm

end BusCache
