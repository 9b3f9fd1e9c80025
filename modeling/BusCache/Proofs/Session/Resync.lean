import BusCache.Proofs.Session.Independence
import BusCache.Proofs.Session.Unasked
import BusCache.Proofs.Session.Waiting

/-!
# Resync — a fetch that is answered as the one before changes nothing

When a fetch was answered, there is nothing left that the same answer could add: the properties are
taken over, every child that they list is registered or too deep, and the element is subscribed to
changes, as it was when the fetch was sent. So a further fetch with the same answer asks for one
call, tells of one update, and leaves the session as it was, but that one more number is given out.
-/

namespace BusCache

/-! ## 1. Fetches under way -/

/-- Every call under way was sent as suits its purpose, and would be so still. -/
def Session.Suited (s : Session) : Prop :=
  ∀ call path kind purpose, Table.get? s.callRoutes call = some (.element path kind purpose) →
    purpose.Suits s path kind

namespace Act.Enabled

variable {a : Act} {r : Run}

/-- An element keeps its subscriptions until it is released. -/
theorem subscribed_kept (enabled : a.Enabled r.session) {path : Path} {member : String}
    (held : (r.session.subscription? path member).isSome) (kept : a ≠ .release path) :
    ((a.perform r).session.subscription? path member).isSome := by
  obtain ⟨id, held⟩ := Option.isSome_iff_exists.mp held
  obtain ⟨e₀, here, filed⟩ := Session.subscription?_eq_some.mp held
  obtain ⟨e, after, same⟩ := enabled.element?_kept here kept
  have old : (Table.get? e₀.subscriptions member).isSome := Option.isSome_of_eq_some filed
  unfold Session.subscription?
  rw [Session.look_of_element? after]
  rcases same with rfl | revised
  · exact old
  · cases a with
    | subscribe p rule route =>
      rw [revised.2]
      exact (Table.isSome_get?_set _ _ _ _).mpr (.inr old)
    | _ => first | exact revised.elim | exact revised.2 ▸ old

theorem suited (enabled : a.Enabled r.session) (routed : r.session.Routed)
    (h : r.session.Suited) : (a.perform r).session.Suited := by
  intro call path kind purpose found
  have stays : a ≠ .release path → purpose.Suits r.session path kind →
      purpose.Suits (a.perform r).session path kind := by
    intro kept suits
    cases purpose with
    | call => trivial
    | sync =>
      refine ⟨suits.1, ?_⟩
      rw [(a.perform_sameSetup r).config]
      exact enabled.subscribed_kept suits.2 kept
  -- the route leads to a slot, and the slot was taken before, or the act sent the call in it
  obtain ⟨⟨number, completion⟩, held, rfl⟩ :=
    ((enabled.routed routed).calls.element call path kind).mp ⟨purpose, found⟩
  dsimp only at found
  rcases enabled.slot_old_or_sent held with before | ⟨sentFor, message, rfl⟩
  · obtain ⟨routedFor, was⟩ := (routed.calls.element number path kind).mpr ⟨_, before, rfl⟩
    have kept : a ≠ .release path := by
      rintro rfl
      have registered := Session.registered_of_look held
      change ((r.releaseElement path).session.element? path).isSome at registered
      rw [Run.releaseElement_element?, if_pos rfl] at registered
      cases registered
    have unanswered : a ≠ .answer number path kind := by
      rintro rfl
      rw [Session.slot?_of_freed (answer_registry number path kind r), if_pos ⟨rfl, rfl⟩] at held
      cases held
    obtain ⟨_, still⟩ := enabled.call_kept routed before was unanswered kept
    rw [still] at found
    cases found
    exact stays kept (h number path kind purpose was)
  · have tracked := Session.slot?_of_tracked
      (r.sendCall_registry path kind sentFor completion message) enabled.2.1 path kind
    rw [if_pos ⟨rfl, rfl⟩] at tracked
    cases tracked.symm.trans held
    change Table.get? (Table.set r.session.callRoutes r.nextCall _) r.nextCall = _ at found
    rw [Table.get?_set_self] at found
    cases found
    exact stays Act.noConfusion enabled.2.2.2.2.2

/-- No path has two elements. -/
theorem distinct (enabled : a.Enabled r.session) (h : Table.Distinct r.session.registry) :
    Table.Distinct (a.perform r).session.registry := by
  have modified : ∀ {path : Path} {f : Element → Element},
      (a.perform r).session.registry = Table.modify r.session.registry path f →
      Table.Distinct (a.perform r).session.registry := by
    intro path f change
    rw [change]
    exact h.modify path f
  cases a with
  | register path interface parent depth => exact h.set _ enabled.1
  | send path kind purpose completion call =>
    exact modified (r.sendCall_registry path kind purpose completion call)
  | subscribe path rule route => exact modified (r.openSubscription_registry path rule route)
  | merge path fetched => exact modified (merge_registry path fetched r)
  | store path name value given => exact modified (store_registry path name value given r)
  | drop path name => exact modified (drop_registry path name r)
  | answer call path kind => exact modified (answer_registry call path kind r)
  | release path =>
    obtain ⟨e, here⟩ := Option.isSome_iff_exists.mp enabled
    show Table.Distinct (r.releaseElement path).session.registry
    rw [Run.releaseElement_session here]
    exact h.erase path
  | closeWatch =>
    show Table.Distinct r.closeWatch.session.registry
    rw [Run.closeWatch_registry]
    exact h
  | closeQuery =>
    show Table.Distinct r.closeQuery.session.registry
    rw [Run.closeQuery_registry]
    exact h
  | _ => exact h

end Act.Enabled

theorem Run.performAll_suited {r : Run} (sound : r.session.Sound) (h : r.session.Suited)
    (ops : List Operation) : (r.performAll ops).session.Suited :=
  ((performAll_acts sound ops).preserves
    (I := fun q => q.session.Routed ∧ q.session.Suited)
    (fun _ _ _ enabled ⟨routed, suited⟩ => ⟨enabled.routed routed, enabled.suited routed suited⟩)
    ⟨sound.routed, h⟩).2

theorem Run.performAll_distinct {r : Run} (sound : r.session.Sound)
    (h : Table.Distinct r.session.registry) (ops : List Operation) :
    Table.Distinct (r.performAll ops).session.registry :=
  (performAll_acts sound ops).preserves (I := fun q => Table.Distinct q.session.registry)
    (fun _ _ _ enabled kept => enabled.distinct kept) h

/-! ## 2. Settled fetches -/

/-- There is nothing that a fetch of these properties would add to the element at a path. -/
structure Session.Settled (s : Session) (path : Path) (e : Element) (fetched : Cache) : Prop where
  here : s.element? path = some e
  synced : e.synced
  merged : e.merge fetched = e
  free : Table.get? e.pending .propertiesGet = none
  subscribed : (s.subscription? path s.config.protocol.changeSignal).isSome
  followed : ∀ child, (e.follow s.config path none child).isSome → (s.element? child).isSome

/-- Properties that were taken over are not taken over again. -/
theorem Element.merge_merge {e : Element} (ordered : Table.Ordered e.cache) (fetched : Cache) :
    (e.merge fetched).merge fetched = e.merge fetched := by
  have once := ordered.foldl_set fetched
  have same : fetched.foldl (fun c p => Table.set c p.1 p.2)
      (fetched.foldl (fun c p => Table.set c p.1 p.2) e.cache) =
      fetched.foldl (fun c p => Table.set c p.1 p.2) e.cache := by
    apply (once.foldl_set fetched).ext once
    intro name
    -- what the fetch has for the name comes first, whatever was there before
    rw [Table.get?_foldl_set, Table.get?_foldl_set, ← Option.or_assoc, Option.or_self]
  exact congrArg (fun cache => { e with cache, synced := true }) same

/-- The answer to a fetch settles it. -/
theorem Run.Undergoes.settled {r r' : Run} {path : Path} {e : Element} {fetched : Cache}
    {args : List Value}
    (h : r.Undergoes path e ((Delivery.fetched .propertiesGet fetched args).consequence
      r.session.config r.session.handlers path e) r')
    (ordered : Table.Ordered e.cache)
    (subscribed : (r.session.subscription? path r.session.config.protocol.changeSignal).isSome) :
    r'.session.Settled path ((e.freeSlot .propertiesGet).merge fetched) fetched where
  here := h.after
  synced := rfl
  merged := Element.merge_merge (e := e.freeSlot .propertiesGet) ordered fetched
  free := by
    show Table.get? (Table.erase e.pending .propertiesGet) .propertiesGet = none
    rw [Table.get?_erase, if_pos rfl]
  subscribed := by
    unfold Session.subscription? at subscribed ⊢
    rw [Session.look_of_element? h.before] at subscribed
    rw [Session.look_of_element? h.after, h.develops.service.config]
    exact subscribed
  followed := by
    intro child listed
    rw [h.develops.service.config] at listed
    obtain ⟨origin, found⟩ := Option.isSome_iff_exists.mp listed
    cases known : r.session.element? child with
    | some _ => exact h.develops.stays child (Option.isSome_of_eq_some known)
    | none => exact h.develops.registers known found

/-! ## 3. The same answer again -/

namespace Run

variable {r : Run} {path : Path} {e : Element}

/-- Where every child that counts is registered, there is nothing to follow. -/
theorem cascade_of_followed {changed : Option String} (here : r.session.element? path = some e)
    (followed : ∀ child, (e.follow r.session.config path changed child).isSome →
      (r.session.element? child).isSome) : r.cascade path changed = r := by
  unfold cascade
  rw [here]
  dsimp only
  split
  · rfl
  · rename_i open_
    have nothing : r.session.unregisteredChildren e changed = [] := by
      rw [List.eq_nil_iff_forall_not_mem]
      intro found mem
      obtain ⟨link, _, contributed⟩ := List.mem_flatMap.mp mem
      have new : r.session.element? found.1 = none :=
        (Session.mem_contributed.mp contributed).2.1
      have first : ((r.session.unregisteredChildren e changed).find?
          fun other => other.1 = found.1).isSome :=
        List.find?_isSome.mpr ⟨found, mem, decide_eq_true rfl⟩
      rw [Session.find?_unregisteredChildren e changed new, Option.isSome_map] at first
      have known := followed found.1 (by
        unfold Element.follow
        rwa [if_neg open_, Option.isSome_map])
      rw [new] at known
      cases known
    rw [nothing]
    rfl

/-- What was taken over is announced as an update, and nothing else comes of it. -/
theorem mergeFetched_settled {fetched : Cache} (h : r.session.Settled path e fetched)
    (distinct : Table.Distinct r.session.registry) :
    r.mergeFetched path fetched = r.emit .elementUpdated path (.snapshot e.properties) := by
  have still : (r.update fun s => s.modifyElement path fun e => e.merge fetched) = r := by
    unfold update Session.modifyElement
    dsimp only
    rw [distinct.modify_fixed h.here h.merged]
  unfold mergeFetched
  rw [h.here]
  dsimp only
  rw [if_pos h.synced, still, h.merged]
  exact cascade_of_followed (r := r.emit .elementUpdated path (.snapshot e.properties)) h.here
    h.followed

/-- A call that is sent and answered at once leaves its number given out, and no other trace in the
session. -/
theorem answer_of_sent {kind : CallKind} (here : r.session.element? path = some e)
    (free : Table.get? e.pending kind = none) (routed : r.session.Routed)
    (distinct : Table.Distinct r.session.registry) (purpose : CallPurpose)
    (completion : Option Completion) (message : MethodCall) :
    (Act.answer r.nextCall path kind).perform
        (r.sendCall path kind purpose completion message) =
      (r.record (.call r.nextCall message)).update fun s => { s with issued := s.issued + 1 } := by
  have routes : Table.erase (Table.set r.session.callRoutes r.nextCall
      (.element path kind purpose)) r.nextCall = r.session.callRoutes :=
    Table.erase_set_of_get?_none _ routed.calls.nextCall_unrouted
  have untouched : (e.track kind ⟨r.nextCall, completion⟩).freeSlot kind = e := by
    unfold Element.freeSlot Element.track
    dsimp only
    rw [Table.erase_set_of_get?_none _ free]
  have registry : Table.modify (Table.modify r.session.registry path
      fun e => e.track kind ⟨r.nextCall, completion⟩) path (fun e => e.freeSlot kind) =
      r.session.registry := by
    rw [Table.modify_modify]
    exact distinct.modify_fixed here untouched
  unfold Act.perform sendCall update
  dsimp only [record_session]
  rw [routes, registry]

/-- A fetch of a settled element asks for its call and for nothing else. -/
theorem sync_settled {fetched : Cache} (h : r.session.Settled path e fetched)
    (present : r.session.state.isPresent) (completion : Option Completion) :
    Attempt.sync path completion r =
      (.ok (), r.sendCall path .propertiesGet .sync completion
        (r.session.fetch path e.interface)) := by
  have free : r.session.slot? path .propertiesGet = none := by
    unfold Session.slot?
    rw [Session.look_of_element? h.here]
    exact h.free
  rw [Attempt.sync_eq present h.here free]
  rcases Attempt.subscribeChanges_leaves present h.here with ⟨_, _, same⟩ | ⟨none, _⟩
  · rw [same]
    rfl
  · have held := h.subscribed
    rw [none] at held
    cases held

/-- A run that fetched an element and took the answer, when there was nothing to take over. -/
def refetched (r : Run) (path : Path) (e : Element) (completion : Option Completion)
    (args : List Value) : Run :=
  (((r.record (.call r.nextCall (r.session.fetch path e.interface))).update fun s =>
    { s with issued := s.issued + 1 }).emit .elementUpdated path (.snapshot e.properties)).complete
      completion (.ok args)

theorem refetched_session (r : Run) (path : Path) (e : Element) (completion : Option Completion)
    (args : List Value) : (r.refetched path e completion args).session =
      { r.session with issued := r.session.issued + 1 } := by
  unfold refetched
  rw [complete_session]
  rfl

theorem refetched_shown (r : Run) (path : Path) (e : Element) (completion : Option Completion)
    (args : List Value) : (r.refetched path e completion args).shown some = r.shown some
      ++ [.call r.nextCall (r.session.fetch path e.interface),
        .event ⟨.elementUpdated, path, .snapshot e.properties⟩
          (r.session.handlers .elementUpdated)]
      ++ completion.toList.map fun c => .complete c (.ok args) := by
  have recorded : ∀ (q : Run) (effect : Effect),
      (q.record effect).shown some = q.shown some ++ [effect] :=
    fun _ _ => List.filterMap_append
  have updated : ∀ (q : Run) (f : Session → Session), (q.update f).shown some = q.shown some :=
    fun _ _ => rfl
  unfold refetched emit
  cases completion with
  | none =>
    rw [complete, recorded, updated, recorded, List.append_assoc, List.append_assoc]
    rfl
  | some c =>
    rw [complete, recorded, recorded, updated, recorded, List.append_assoc, List.append_assoc,
      List.append_assoc]
    rfl

/-- The answer to that call, if it is the one that was taken over. -/
theorem handleReply_settled {result : Except BusError (List WireValue)} {fetched : Cache}
    {args : List Value} (h : r.session.Settled path e fetched) (routed : r.session.Routed)
    (distinct : Table.Distinct r.session.registry)
    (read : fetchedOf result = .ok (fetched, args)) (completion : Option Completion) :
    (r.sendCall path .propertiesGet .sync completion
        (r.session.fetch path e.interface)).handleReply r.nextCall result =
      r.refetched path e completion args := by
  have registered : (r.session.element? path).isSome := Option.isSome_of_eq_some h.here
  have held := Session.slot?_of_tracked (r.sendCall_registry path .propertiesGet .sync completion
    (r.session.fetch path e.interface)) registered path .propertiesGet
  rw [if_pos ⟨rfl, rfl⟩] at held
  have found : Table.get? (r.sendCall path .propertiesGet .sync completion
      (r.session.fetch path e.interface)).session.callRoutes r.nextCall =
      some (.element path .propertiesGet .sync) := Table.get?_set_self _ _ _
  rw [handleReply_call found held, CallPurpose.outcome_sync, read, answer_of_sent h.here h.free
    routed distinct]
  -- giving out a number settles and unsettles nothing
  have settled : ((r.record (.call r.nextCall (r.session.fetch path e.interface))).update fun s =>
      { s with issued := s.issued + 1 }).session.Settled path e fetched :=
    ⟨h.here, h.synced, h.merged, h.free, h.subscribed, h.followed⟩
  dsimp only
  rw [mergeFetched_settled settled distinct]
  rfl

end Run

/-! ## 4. Histories -/

/-- In a history every fetch that is under way is settled by an answer that can be read. -/
theorem Run.performAll_answer_settles (config : Config) (numbering : Numbering)
    (listing : Listing) (ops : List Operation) {path : Path} {kind : CallKind} {call : CallId}
    {result : Except BusError (List WireValue)} {fetched : Cache} {args : List Value}
    (read : fetchedOf result = .ok (fetched, args)) :
    let r := (start config numbering listing).performAll ops
    Table.get? r.session.callRoutes call = some (.element path kind .sync) →
    let first := r.handleReply call result
    ∃ e₀ e, r.Undergoes path e₀ ((Delivery.fetched .propertiesGet fetched args).consequence
        r.session.config r.session.handlers path e₀) first
      ∧ e = (e₀.freeSlot .propertiesGet).merge fetched
      ∧ first.session.Settled path e fetched ∧ first.session.state.isPresent
      ∧ first.session.Routed ∧ Table.Distinct first.session.registry := by
  intro r routed first
  have blank := start_sound config numbering listing
  have sound : r.session.Sound := performAll_sound blank ops
  have silent : r.session.Silent :=
    performAll_silent blank ⟨fun _ => Session.still_of_empty fun _ => rfl, fun _ => rfl⟩ ops
  have present : r.session.state.isPresent := present_of_reply sound silent routed (by simp)
  have suited : r.session.Suited :=
    performAll_suited blank (fun _ _ _ _ found => by cases found) ops
  obtain ⟨rfl, subscribed⟩ := suited call path kind .sync routed
  obtain ⟨⟨number, waiting⟩, slot, rfl⟩ :=
    (sound.routed.calls.element call path .propertiesGet).mp ⟨.sync, routed⟩
  obtain ⟨e₀, here, held⟩ := Session.slot?_eq_some.mp slot
  have ordered : Table.Ordered e₀.cache :=
    performAll_inOrder blank (fun _ _ none => by cases none) ops path e₀ here
  have undergoes := Undergoes.reply present here routed held read
  have answered : ((Operation.dispatch (.reply number result)).perform r).2 = first :=
    Operation.perform_reply r number result
  have routed₁ := (Operation.dispatch (.reply number result)).perform_routed sound
  have distinct₁ := performAll_distinct sound (performAll_distinct blank Table.distinct_nil ops)
    [.dispatch (.reply number result)]
  change Table.Distinct ((Operation.dispatch (.reply number result)).perform r).2.session.registry
    at distinct₁
  rw [answered] at routed₁ distinct₁
  exact ⟨e₀, _, undergoes, rfl, undergoes.settled ordered subscribed,
    undergoes.develops.service.present present, routed₁, distinct₁⟩

/-- A fetch that is under way, so that the service has an owner, is answered by a body that can be
read as a whole. A further fetch of the element is accepted, and when it gets the same answer, the
session is what it was after the first one: it has the same elements with the same properties,
kinds, calls under way and subscriptions, and the same routes; one more number is given out, and
that is all. What the second round does is its call, one update with the properties that the first
answer announced, and the completion that it was given. -/
theorem resync_is_idempotent (config : Config) (numbering : Numbering) (listing : Listing)
    (ops : List Operation) (path : Path) (kind : CallKind) (call : CallId)
    (body : List WireValue) (fetched : Cache) (args : List Value)
    (completion : Option Completion) :
    let r := (Run.start config numbering listing).performAll ops
    Table.get? r.session.callRoutes call = some (.element path kind .sync) →
    fetchedOf (.ok body) = .ok (fetched, args) →
    let answer := fun (id : CallId) (q : Run) =>
      ((Operation.dispatch (.reply id (.ok body))).perform q).2
    let first := answer call r
    let asked := (Operation.sync path completion).perform first
    let second := answer first.nextCall asked.2
    asked.1 = .ok .done
    ∧ second.session = { first.session with issued := first.session.issued + 1 }
    ∧ ∃ e₀ e, r.session.element? path = some e₀ ∧ first.session.element? path = some e
      ∧ first.events = r.events
        ++ [⟨if e₀.synced then .elementUpdated else .elementAdded, path, .snapshot e.properties⟩]
      ∧ second.shown some = first.shown some
        ++ [.call first.nextCall (first.session.fetch path e.interface),
          .event ⟨.elementUpdated, path, .snapshot e.properties⟩
            (first.session.handlers .elementUpdated)]
        ++ completion.toList.map fun c => .complete c (.ok args) := by
  intro r routed read answer first asked second
  obtain ⟨e₀, e, undergoes, rfl, settled, present, routes, distinct⟩ :=
    Run.performAll_answer_settles config numbering listing ops read routed
  rw [← Operation.perform_reply] at undergoes settled present routes distinct
  -- the fetch is settled, so a further one finds nothing to do
  have sent : asked = (.ok .done, first.sendCall path .propertiesGet .sync completion
      (first.session.fetch path e₀.interface)) := by
    show Operation.silent (Attempt.sync path completion) first = _
    rw [Operation.silent_apply, Run.sync_settled settled present]
    rfl
  have taken : second = first.refetched path ((e₀.freeSlot .propertiesGet).merge fetched)
      completion args := by
    show ((Operation.dispatch (.reply first.nextCall (.ok body))).perform asked.2).2 = _
    rw [sent, Operation.perform_reply]
    exact Run.handleReply_settled settled routes distinct read completion
  refine ⟨by rw [sent], by rw [taken, Run.refetched_session], e₀, _, undergoes.before,
    settled.here, ?_, by rw [taken, Run.refetched_shown]⟩
  unfold Run.events
  rw [Run.shown_of_heard (fun x => by cases x <;> rfl) first,
    Run.shown_of_heard (fun x => by cases x <;> rfl) r, undergoes.develops.told,
    List.filterMap_append]
  -- what the waiting completion is told is no event
  exact congrArg (_ ++ List.cons _ ·) (Effect.filterMap_unseen (fun _ => rfl) _)

/-- A manager lists a service, which is registered and fetched. When the manager is fetched again
and lists it again, the application is told of the same properties, and nothing else is done. -/
theorem service_listed_again_is_known :
    let manager := "net.connman.Manager"
    let config : Config :=
      { service := "net.connman", rootPath := "/", rootInterface := manager, protocol := .legacy,
        children := [⟨manager, "Services", "net.connman.Service"⟩] }
    let ops : List Operation := [.init, .dispatch (.ownerChanged ⟨1⟩ "net.connman" "" ":1.5")]
    let body : List WireValue :=
      [.dict (.basic .string) .variant
        [(.string "State", .variant (.string "online")),
          (.string "Services", .variant (.array (.basic .objectPath) [.objectPath "/wifi"]))]]
    let listed : Properties :=
      [("Services", .array [.objectPath "/wifi"]), ("State", .string "online")]
    let r := (Run.start config .counting .ascending).performAll ops
    let answer := fun (id : CallId) (q : Run) =>
      ((Operation.dispatch (.reply id (.ok body))).perform q).2
    let first := answer ⟨4⟩ r
    let asked := (Operation.sync "/" (some ⟨9⟩)).perform first
    let second := answer ⟨7⟩ asked.2
    asked.1 = .ok .done
    ∧ (first.session.element? "/wifi").isSome
    ∧ second.session = { first.session with issued := first.session.issued + 1 }
    ∧ first.events = r.events ++ [⟨.elementAdded, "/", .snapshot listed⟩]
    ∧ ∃ args, second.shown some = first.shown some
        ++ [.call ⟨7⟩ ⟨":1.5", "/", manager, "GetProperties", []⟩,
          .event ⟨.elementUpdated, "/", .snapshot listed⟩ none, .complete ⟨9⟩ (.ok args)] := by
  intro manager config ops body listed
  obtain ⟨fetched, args, read⟩ : ∃ fetched args, fetchedOf (.ok body) = .ok (fetched, args) :=
    ⟨_, _, by subst body; rfl⟩
  have evaluated :
      let r := (Run.start config .counting .ascending).performAll ops
      let first := ((Operation.dispatch (.reply ⟨4⟩ (.ok body))).perform r).2
      (Table.get? r.session.callRoutes ⟨4⟩, (r.session.element? "/").map Element.synced,
        first.nextCall, first.session.fetch "/" manager,
        (first.session.element? "/").map fun e => (e.interface, e.properties),
        (first.session.element? "/wifi").isSome, first.session.handlers .elementUpdated) =
      (some (.element "/" .propertiesGet .sync), some false, ⟨7⟩,
        ⟨":1.5", "/", manager, "GetProperties", []⟩, some (manager, listed), true, none) := by
    subst manager config ops body listed
    rfl
  have general := resync_is_idempotent config .counting .ascending ops "/" .propertiesGet ⟨4⟩ body
    fetched args (some ⟨9⟩)
  dsimp only at evaluated general ⊢
  generalize (Run.start config .counting .ascending).performAll ops = r at evaluated general ⊢
  generalize (Operation.dispatch (.reply ⟨4⟩ (.ok body))).perform r = answered
    at evaluated general ⊢
  obtain ⟨routed, unsynced, next, message, known, wifi, unhandled⟩ : _ ∧ _ ∧ _ ∧ _ ∧ _ ∧ _ ∧ _ := by
    simpa only [Prod.mk.injEq] using evaluated
  obtain ⟨accepted, session, e₀, e, before, here, told, done⟩ := general routed read
  rw [before, Option.map_some, Option.some.injEq] at unsynced
  rw [here, Option.map_some, Option.some.injEq, Prod.mk.injEq] at known
  obtain ⟨interface, properties⟩ := known
  rw [unsynced, properties] at told
  rw [next] at session done
  rw [interface, message, properties, unhandled, List.append_assoc] at done
  exact ⟨accepted, wifi, session, told, args, done⟩

end BusCache
