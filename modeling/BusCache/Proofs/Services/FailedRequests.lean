import BusCache.Proofs.Services.Requests
import BusCache.Proofs.Session.Deliveries

/-!
# Failed requests — what they leave behind

A request that is one operation leaves nothing if it fails. So does one that subscribes to several
signals of an element, as the first subscription is admitted if any is. But two ways of asking act
before their last check. Access points and saved connections are registered before they are fetched
or subscribed to, which a service without an owner is in the way of: the element stays. A discovery
is subscribed to before it is started, which a start that is under way is in the way of: the
subscription stays.
-/

namespace BusCache

/-! ## 1. Which checks pass -/

namespace Session

variable {s : Session} {path : Path}

theorem admitSubscription_ok_iff :
    s.admitSubscription path = .ok () ↔ s.state.isPresent = true ∧ (s.element? path).isSome := by
  constructor
  · intro admitted
    unfold admitSubscription at admitted
    cases present : s.ensurePresent with
    | error cause =>
      rw [present] at admitted
      cases admitted
    | ok _ =>
      cases known : s.element path with
      | error cause =>
        rw [present, known] at admitted
        cases admitted
      | ok e => exact ⟨ensurePresent_ok present, Option.isSome_of_eq_some (element_ok known)⟩
  · rintro ⟨present, here⟩
    obtain ⟨e, here⟩ := Option.isSome_iff_exists.mp here
    unfold admitSubscription ensurePresent
    rw [if_pos present, element_eq here]
    rfl

theorem admitCall_eq {kind : CallKind} (present : s.state.isPresent = true)
    (here : (s.element? path).isSome) (free : s.slot? path kind = none) :
    s.admitCall path kind = .ok () := by
  obtain ⟨e, here⟩ := Option.isSome_iff_exists.mp here
  unfold admitCall ensurePresent
  rw [if_pos present, element_eq here]
  exact ensureAdmissible_eq here free

theorem admitFetch_eq (present : s.state.isPresent = true) (here : (s.element? path).isSome)
    (free : s.slot? path .propertiesGet = none) : s.admitFetch path = .ok () := by
  obtain ⟨e, here⟩ := Option.isSome_iff_exists.mp here
  unfold admitFetch ensurePresent
  rw [element_eq here, if_pos present]
  show (ensureAdmissible path e .propertiesGet >>= _) = _
  rw [ensureAdmissible_eq here free]
  rfl

end Session

/-! ## 2. Operations in turn that fail -/

namespace Operation

variable {r : Run} {path : Path} {error : BusError}

theorem subscribeSignal_admitted {interface member : String}
    (admitted : r.session.admitSubscription path = .ok ()) :
    ((subscribeSignal path interface member).perform r).2 =
      if (r.session.subscription? path member).isSome then r
      else r.openSubscription path { sender := r.session.destination, path, interface, member }
        (.forward path) := by
  rcases subscribeSignal_cases r path interface member with
    ⟨error, refused⟩ | ⟨_, _, ⟨held, same⟩ | ⟨free, opened⟩⟩
  · have checked : r.session.admitSubscription path = .error error :=
      check_of_failed (congrArg Prod.fst refused)
    rw [admitted] at checked
    cases checked
  · rw [same, if_pos held]
  · rw [opened, free]
    rfl

/-- Subscribing to a signal leaves the element registered and its service present. -/
theorem subscribeSignal_admits {interface member : String}
    (admitted : r.session.admitSubscription path = .ok ()) :
    ((subscribeSignal path interface member).perform r).2.session.admitSubscription path =
      .ok () := by
  rw [subscribeSignal_admitted admitted]
  split
  · exact admitted
  · obtain ⟨present, here⟩ := Session.admitSubscription_ok_iff.mp admitted
    have registry := r.openSubscription_registry path
      { sender := r.session.destination, path, interface, member } (.forward path)
    exact Session.admitSubscription_ok_iff.mpr ⟨present, Session.isSome_of_modified registry here⟩

theorem inTurn_subscribes (signals : List (String × String))
    (admitted : r.session.admitSubscription path = .ok ()) :
    (inTurn (signals.map fun signal => subscribeSignal path signal.1 signal.2) r).1 = .ok () := by
  induction signals generalizing r with
  | nil => rfl
  | cons signal rest ih =>
    have first : (subscribeSignal path signal.1 signal.2).check r.session = .ok () := admitted
    rw [List.map_cons, inTurn_of_admitted first]
    exact ih (subscribeSignal_admits admitted)

/-- Subscriptions to signals of one element fail at the first or not at all. -/
theorem inTurn_subscriptions_failed {signals : List (String × String)}
    (failed : (inTurn (signals.map fun signal => subscribeSignal path signal.1 signal.2) r).1 =
      .error error) :
    (inTurn (signals.map fun signal => subscribeSignal path signal.1 signal.2) r).2 = r := by
  cases signals with
  | nil => rfl
  | cons signal rest =>
    cases checked : r.session.admitSubscription path with
    | error cause =>
      have refused : (subscribeSignal path signal.1 signal.2).check r.session = .error cause :=
        checked
      rw [List.map_cons, inTurn_of_refused refused]
    | ok _ =>
      rw [inTurn_subscribes (signal :: rest) checked] at failed
      cases failed

theorem inTurn_single_failed {op : Operation} (failed : (inTurn [op] r).1 = .error error) :
    (inTurn [op] r).2 = r := by
  obtain ⟨before, _, _, split, _, left⟩ := inTurn_failed failed
  cases before with
  | nil => exact congrArg Prod.snd left
  | cons _ _ => simp at split

/-- Two operations in turn of which the first is admitted fail at the second. -/
theorem inTurn_pair_failed {first second : Operation} (admitted : first.check r.session = .ok ())
    (failed : (inTurn [first, second] r).1 = .error error) :
    second.check (first.perform r).2.session = .error error
      ∧ (inTurn [first, second] r).2 = r.performAll [first] := by
  obtain ⟨before, op, after, split, refused, left⟩ := inTurn_failed failed
  match before with
  | [] =>
    cases split
    exact absurd (admitted.symm.trans refused) (by rintro ⟨⟩)
  | [_] =>
    cases split
    exact ⟨refused, congrArg Prod.snd left⟩
  | _ :: _ :: _ => simp at split

end Operation

/-! ## 3. Acting before the last check -/

/-- A request that fails at its last operation after it has acted: a discovery whose start is under
way, by a subscription that was not there; what is registered while the service is absent, by a new
element. -/
def ServiceRequest.Overreaches (s : Session) : ServiceRequest → Prop
  | bluez (.startDiscovery h _) =>
      s.state.isPresent = true ∧ (s.slot? h.path Bluez.Calls.startDiscovery).isSome
        ∧ s.subscription? h.path Bluez.deviceFoundMember = none
  | networkManager (.trackAccessPoint path) => s.state.isPresent = false ∧ s.element? path = none
  | networkManager (.trackSettings path) => s.state.isPresent = false ∧ s.element? path = none
  | _ => False

/-- The operation that such a request begins with. -/
def ServiceRequest.opening : ServiceRequest → List Operation
  | bluez (.startDiscovery h _) =>
      [.subscribeSignal h.path Bluez.adapterInterface Bluez.deviceFoundMember]
  | networkManager (.trackAccessPoint path) => [.create path NetworkManager.accessPointInterface]
  | networkManager (.trackSettings path) => [.create path NetworkManager.settingsInterface]
  | _ => []

/-- What an attempt that fails leaves: nothing, but if it overreaches what was done by then, which
shows in the registry. -/
structure Attempt.Leaves (a : Attempt Unit) (r : Run) (overreaches : Prop)
    (done : List Operation) : Prop where
  nothing : ¬ overreaches → (a r).2 = r
  opening : overreaches →
    (a r).2 = r.performAll done ∧ (a r).2.session.registry ≠ r.session.registry

namespace Attempt

variable {a : Attempt Unit} {r : Run} {path : Path} {error : BusError}

theorem Leaves.of_unchanged (unchanged : (a r).2 = r) : Leaves a r False [] where
  nothing _ := unchanged
  opening never := never.elim

/-- An element that is there differs from none. -/
theorem registry_ne_of_registered {r' : Run} (gone : r.session.element? path = none)
    (here : (r'.session.element? path).isSome) : r'.session.registry ≠ r.session.registry := by
  intro same
  rw [Session.element?_of_registry_eq same, gone] at here
  cases here

/-- To register an element and go on fails after registering only if there is no owner. -/
theorem registering_leaves {interface : String} {op : Operation}
    (fresh : ∀ s : Session, s.state.isPresent → s.element? path = some { interface } →
      op.check s = .ok ())
    (failed : (follow (Session.registering path interface [op]) r).1 = .error error) :
    Leaves (follow (Session.registering path interface [op])) r
      (r.session.state.isPresent = false ∧ r.session.element? path = none)
      [.create path interface] := by
  cases planned : Session.registering path interface [op] r.session with
  | error cause =>
    -- there is no plan for an element of another interface only
    have known : r.session.element? path ≠ none := by
      intro new
      unfold Session.registering at planned
      rw [new] at planned
      cases planned
    refine ⟨fun _ => ?_, fun overreaches => absurd overreaches.2 known⟩
    rw [follow_of_error planned]
  | ok ops =>
    have plan : ops = [.create path interface, op] := by
      unfold Session.registering at planned
      cases here : r.session.element? path with
      | none =>
        rw [here] at planned
        exact (Except.ok.inj planned).symm
      | some e =>
        rw [here] at planned
        dsimp only at planned
        cases typed : r.session.typedPath path interface with
        | error cause =>
          rw [typed] at planned
          cases planned
        | ok p =>
          rw [typed] at planned
          exact (Except.ok.inj planned).symm
    subst plan
    have runs := follow_of_ok planned
    rw [runs] at failed
    obtain ⟨refused, left⟩ := Operation.inTurn_pair_failed rfl failed
    rw [← runs] at left
    have created : r.performAll [.create path interface] = (r.getOrCreate path { interface }).2 :=
      Operation.perform_create path interface r
    constructor
    · intro within
      rw [left, created]
      cases here : r.session.element? path with
      | some e => rw [Run.getOrCreate_of_some here]
      | none =>
        -- a new element of a service with an owner is fetched or subscribed to
        have present : r.session.state.isPresent = true := by
          cases absent : r.session.state.isPresent with
          | true => rfl
          | false => exact absurd ⟨absent, here⟩ within
        have registered := Session.element?_of_set (r.register_registry path { interface }) path
        rw [if_pos rfl] at registered
        have admitted := fresh (r.register path { interface }).session present registered
        rw [Operation.perform_create, Run.getOrCreate_of_none here, admitted] at refused
        cases refused
    · rintro ⟨_, new⟩
      refine ⟨left, registry_ne_of_registered new ?_⟩
      rw [left, created]
      exact r.getOrCreate_isSome path _

end Attempt

theorem Run.openSubscription_slot? (r : Run) (path : Path) (rule : SignalRule) (route : SignalRoute)
    (p : Path) (kind : CallKind) :
    (r.openSubscription path rule route).session.slot? p kind = r.session.slot? p kind :=
  Session.look_of_modified_kept (r.openSubscription_registry path rule route) (fun _ => rfl) p

theorem Run.openSubscription_registry_ne {r : Run} {path : Path} {rule : SignalRule}
    {route : SignalRoute} (here : (r.session.element? path).isSome)
    (free : r.session.subscription? path rule.member = none) :
    (r.openSubscription path rule route).session.registry ≠ r.session.registry := by
  intro same
  have added := Session.subscription?_of_added (r.openSubscription_registry path rule route) here
    path rule.member
  have unchanged : (r.openSubscription path rule route).session.subscription? path rule.member =
      r.session.subscription? path rule.member := Session.look_of_registry_eq same path
  rw [if_pos ⟨rfl, rfl⟩, unchanged, free] at added
  cases added

/-- A discovery is subscribed to before it is started. -/
theorem Bluez.Adapter.startDiscovery_leaves {h : Adapter} {completion : Option Completion} {r : Run}
    {error : BusError} (failed : (h.startDiscovery completion r).1 = .error error) :
    Attempt.Leaves (h.startDiscovery completion) r
      ((ServiceRequest.bluez (.startDiscovery h completion)).Overreaches r.session)
      [.subscribeSignal h.path adapterInterface deviceFoundMember] := by
  let first : Operation := .subscribeSignal h.path adapterInterface deviceFoundMember
  let second : Operation := .call h.path Calls.startDiscovery "StartDiscovery" [] completion
  let opened := r.openSubscription h.path
    { sender := r.session.destination, path := h.path, interface := adapterInterface,
      member := deviceFoundMember } (.forward h.path)
  have runs : h.startDiscovery completion = Operation.inTurn [first, second] :=
    (Request.startDiscovery h completion).perform_eq
  rw [runs] at failed ⊢
  cases checked : first.check r.session with
  | error cause =>
    refine ⟨fun _ => by rw [Operation.inTurn_of_refused checked], ?_⟩
    rintro ⟨present, pending, _⟩
    obtain ⟨slot, pending⟩ := Option.isSome_iff_exists.mp pending
    have admitted : first.check r.session = .ok () :=
      Session.admitSubscription_ok_iff.mpr ⟨present, Session.registered_of_look pending⟩
    rw [checked] at admitted
    cases admitted
  | ok _ =>
    obtain ⟨present, here⟩ := Session.admitSubscription_ok_iff.mp checked
    obtain ⟨refused, left⟩ := Operation.inTurn_pair_failed checked failed
    have asked : (first.perform r).2 =
        if (r.session.subscription? h.path deviceFoundMember).isSome then r else opened :=
      Operation.subscribeSignal_admitted checked
    cases held : r.session.subscription? h.path deviceFoundMember with
    | some id =>
      -- what is subscribed to already is not subscribed to again
      rw [held, Option.isSome_some, if_pos rfl] at asked
      refine ⟨fun _ => left.trans asked, fun overreaches => ?_⟩
      rw [overreaches.2.2] at held
      cases held
    | none =>
      rw [held, Option.isSome_none, if_neg Bool.false_ne_true] at asked
      -- what refuses the start is a start under way, which the subscription does not touch
      have pending : (r.session.slot? h.path Calls.startDiscovery).isSome := by
        by_contra free
        rw [Option.not_isSome_iff_eq_none] at free
        have registered : (opened.session.element? h.path).isSome :=
          Session.isSome_of_modified (r.openSubscription_registry ..) here
        have admitted : second.check opened.session = .ok () :=
          Session.admitCall_eq present registered ((r.openSubscription_slot? ..).trans free)
        rw [asked, admitted] at refused
        cases refused
      refine ⟨fun within => absurd ⟨present, pending, held⟩ within, fun _ => ⟨left, ?_⟩⟩
      rw [left]
      show (first.perform r).2.session.registry ≠ _
      rw [asked]
      exact Run.openSubscription_registry_ne here held

/-! ## 4. Requests that fail -/

namespace NetworkManager

/-- The signals that a device is tracked by are all signals of the device. -/
theorem Request.deviceSignals_eq (path : Path) (type : UInt32) :
    ∃ signals : List (String × String),
      deviceSignals path type =
        signals.map fun signal => .subscribeSignal path signal.1 signal.2 := by
  unfold deviceSignals
  by_cases wireless : type = wirelessType
  · exact ⟨[(deviceInterface, stateChangedMember), (wirelessInterface, accessPointAddedMember),
      (wirelessInterface, accessPointRemovedMember)], by rw [if_pos wireless]; rfl⟩
  · exact ⟨[(deviceInterface, stateChangedMember)], by rw [if_neg wireless]; rfl⟩

theorem Device.track_failed {h : Device} {r : Run} {error : BusError}
    (failed : (h.track r).1 = .error error) : (h.track r).2 = r := by
  rw [Request.track_eq] at failed ⊢
  cases typed : (Request.trackDevice h).plan r.session with
  | error cause => rw [Attempt.follow_of_error typed]
  | ok ops =>
    rw [Attempt.follow_of_ok typed] at failed ⊢
    change (h.deviceType r.session >>= _) = _ at typed
    cases known : h.deviceType r.session with
    | error cause =>
      rw [known] at typed
      cases typed
    | ok type =>
      rw [known] at typed
      obtain ⟨signals, eq⟩ := Request.deviceSignals_eq h.path type
      have planned : ops = _ := (Except.ok.inj typed).symm.trans eq
      rw [planned] at failed ⊢
      exact Operation.inTurn_subscriptions_failed failed

end NetworkManager

namespace ServiceRequest

theorem leaves {q : ServiceRequest} {r : Run} {error : BusError}
    (failed : (q.perform r).1 = .error error) :
    Attempt.Leaves q.perform r (q.Overreaches r.session) q.opening := by
  have single : ∀ {op : Operation}, q.plan r.session = .ok [op] → (q.perform r).2 = r := by
    intro op plan
    rw [q.perform_eq, Attempt.follow_of_ok plan] at failed ⊢
    exact Operation.inTurn_single_failed failed
  cases q with
  | bluez q =>
    cases q with
    | startDiscovery h completion => exact Bluez.Adapter.startDiscovery_leaves failed
    | _ => exact .of_unchanged (single rfl)
  | connman q => exact .of_unchanged (single rfl)
  | networkManager q =>
    cases q with
    | trackDevice h => exact .of_unchanged (NetworkManager.Device.track_failed failed)
    | trackAccessPoint path =>
      rw [perform_eq] at failed ⊢
      refine Attempt.registering_leaves (fun s present here => ?_) failed
      refine Session.admitFetch_eq present (Option.isSome_of_eq_some here) ?_
      unfold Session.slot?
      rw [Session.look_of_element? here]
      rfl
    | trackSettings path =>
      rw [perform_eq] at failed ⊢
      refine Attempt.registering_leaves (fun s present here => ?_) failed
      exact Session.admitSubscription_ok_iff.mpr ⟨present, Option.isSome_of_eq_some here⟩
    | _ => exact .of_unchanged (single rfl)

end ServiceRequest

/-- A request that fails leaves the run as it was, session and effects, exactly if it does not
overreach. If it does, it leaves what it began with, and the registry differs: there is an element
that was not there, or a subscription that was not held. -/
theorem failed_request_leaves_nothing_iff (r : Run) (q : ServiceRequest) (error : BusError)
    (failed : (q.perform r).1 = .error error) :
    ((q.perform r).2 = r ↔ ¬ q.Overreaches r.session)
    ∧ (q.Overreaches r.session →
        (q.perform r).2 = r.performAll q.opening
        ∧ (q.perform r).2.session.registry ≠ r.session.registry) := by
  have leaves := ServiceRequest.leaves failed
  refine ⟨⟨fun unchanged overreaches => ?_, leaves.nothing⟩, leaves.opening⟩
  have differs := (leaves.opening overreaches).2
  rw [unchanged] at differs
  exact differs rfl

/-- A second start of a discovery is refused, and all stays as the first start left it. -/
theorem second_start_of_discovery_leaves_nothing :
    let ops : List Operation :=
      [.init, .dispatch (.ownerChanged ⟨1⟩ "org.bluez" "" ":1.7"),
        .create "/hci0" Bluez.adapterInterface]
    let h : Bluez.Adapter := ⟨"/hci0"⟩
    let r := (h.startDiscovery none
      ((Run.start Bluez.config .counting .ascending).performAll ops)).2
    h.startDiscovery (some ⟨5⟩) r =
      (.error (.alreadyPending "/hci0" Bluez.Calls.startDiscovery), r) := by
  intro ops h
  have evaluated :
      let r := (h.startDiscovery none
        ((Run.start Bluez.config .counting .ascending).performAll ops)).2
      ((h.startDiscovery (some ⟨5⟩) r).1, r.session.subscription? "/hci0" "DeviceFound") =
        (.error (.alreadyPending "/hci0" Bluez.Calls.startDiscovery), some ⟨7⟩) := by
    subst ops h
    rfl
  dsimp only at evaluated ⊢
  generalize (h.startDiscovery none
    ((Run.start Bluez.config .counting .ascending).performAll ops)).2 = r at evaluated ⊢
  obtain ⟨failed, held⟩ := Prod.mk.inj evaluated
  obtain ⟨unchanged_iff, _⟩ := failed_request_leaves_nothing_iff r
    (.bluez (.startDiscovery h (some ⟨5⟩))) _ failed
  refine Prod.ext failed (unchanged_iff.mpr ?_)
  rintro ⟨_, _, free⟩
  exact absurd (held.symm.trans free) (by decide)

/-- An access point that is tracked while the service is absent: the request fails, and the access
point stays registered. A discovery whose start was called for by itself before: the request fails
as well, and the signal of found devices stays subscribed to. -/
theorem failed_requests_leave_openings :
    let idle := Run.start NetworkManager.config .counting .ascending
    let tracked := NetworkManager.AccessPoint.track "/ap" idle
    let ready := (Run.start Bluez.config .counting .ascending).performAll
      [.init, .dispatch (.ownerChanged ⟨1⟩ "org.bluez" "" ":1.7"),
        .create "/hci0" Bluez.adapterInterface,
        .call "/hci0" Bluez.Calls.startDiscovery "StartDiscovery" [] none]
    let started := (Bluez.Adapter.mk "/hci0").startDiscovery none ready
    (tracked.1.map NetworkManager.AccessPoint.path,
        idle.session.isRegistered "/ap", tracked.2.session.isRegistered "/ap") =
      (.error (.staleReference "org.freedesktop.NetworkManager"), false, true)
    ∧ (started.1, ready.session.subscription? "/hci0" "DeviceFound",
        started.2.session.subscription? "/hci0" "DeviceFound") =
      (.error (.alreadyPending "/hci0" Bluez.Calls.startDiscovery), none, some ⟨8⟩) :=
  ⟨rfl, rfl⟩

end BusCache
