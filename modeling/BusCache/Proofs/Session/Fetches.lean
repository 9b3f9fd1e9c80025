import BusCache.Proofs.Session.Admission
import BusCache.Proofs.Session.Roots

/-!
# Fetches — which of the discovered elements are fetched

An element that is discovered while the service has an owner is fetched at once. One that is
discovered without an owner cannot be, and nothing makes up for it: an owner that comes fetches its
root and nothing else, and what is registered already is not discovered again. Such an element stays
as it is until the application asks for it.
-/

namespace BusCache

/-! ## 1. Where elements come from -/

/-- No change of owners discovers an element. -/
theorem Run.ownerChanged_discovers {r : Run} {oldOwner newOwner : String} {p : Path} {e : Element}
    (here : (r.ownerChanged oldOwner newOwner).session.element? p = some e)
    (below : e.parent ≠ none) : (r.session.element? p).isSome := by
  unfold ownerChanged at here
  split at here
  · rcases enter_registers here with ⟨e₀, was, _⟩ | ⟨_, _, top⟩
    · exact Option.isSome_of_eq_some was
    · exact absurd top below
  · rw [show r.exit.session.element? p = none from removeAll_element? r p] at here
    cases here
  · rcases enter_registers here with ⟨e₀, was, _⟩ | ⟨_, _, top⟩
    · rw [show r.exit.session.element? p = none from removeAll_element? r p] at was
      cases was
    · exact absurd top below
  · exact Option.isSome_of_eq_some here

namespace Operation

variable {r : Run} {op : Operation} {p : Path} {e : Element}

theorem request_of_asks (config : Config) (asks : op.asks = true) :
    ∃ path kind, op.request? config = some (path, kind) := by
  cases op <;> first | exact ⟨_, _, rfl⟩ | cases asks

/-- An element that was discovered through another one was there before the operation, or was
discovered in it: with an owner, who is asked for its properties, or without one, through a change
that the application made. -/
theorem discovered_cases (sound : r.session.Sound) (silent : r.session.Silent)
    (here : (op.perform r).2.session.element? p = some e) (below : e.parent ≠ none) :
    (r.session.element? p).isSome
      ∨ r.session.state.isPresent ∧ (op.perform r).2.session.state = r.session.state
        ∧ (op.perform r).2.callsTo p = r.callsTo p ++ [r.session.fetch p e.interface]
      ∨ r.session.state = .absent ∧ (op.perform r).2.session.state = .absent
        ∧ (op.perform r).2.callsTo p = r.callsTo p
        ∧ ∃ path name value, op = .change path name value := by
  cases asks : op.asks with
  | true =>
    obtain ⟨path, kind, request⟩ := request_of_asks r.session.config asks
    obtain ⟨a, purpose, completion, sends, performs⟩ := request_sends request
    rw [performs, silent_apply] at here
    -- a request subscribes and sends, and registers nothing
    obtain ⟨e₀, was, _⟩ := sends.registered_before here
    exact .inl (Option.isSome_of_eq_some was)
  | false =>
    cases new : r.session.element? p with
    | some e₀ => exact .inl rfl
    | none =>
      right
      rcases op.grew_or_told sound silent asks with (⟨nothing, _⟩ | ⟨present, spreads⟩)
        | ⟨seeds, calls⟩ | ⟨q, oldOwner, newOwner, after, _, registry, _, _⟩
      · rw [nothing p new] at here
        cases here
      · rcases spreads.new p new with ⟨none, _⟩ | ⟨e', made, _, sent⟩
        · rw [none] at here
          cases here
        · rw [made] at here
          cases here
          refine .inl ⟨present, ?_, sent⟩
          unfold Session.state
          rw [spreads.setup.2]
      · cases op with
        | create path interface =>
          -- what the application creates is at the top
          rw [perform_create] at here
          unfold Run.getOrCreate at here
          split at here
          · rw [new] at here
            cases here
          · rw [Session.element?_of_set (r.register_registry path _)] at here
            split at here
            · cases here
              exact absurd rfl below
            · rw [new] at here
              cases here
        | change path name value =>
          have absent : r.session.state = .absent := seeds
          refine .inr ⟨absent, ?_, Run.callsTo_of_calls calls p, path, name, value, rfl⟩
          rw [perform_change]
          unfold Session.state
          rw [((Run.change_steps path name value none r).mono
            Act.Changes.works).works_inside.inside_ownership]
          exact absent
        | _ => exact seeds.elim
      · rw [after] at here
        have known := Run.ownerChanged_discovers here below
        rw [Session.element?_of_registry_eq registry, new] at known
        cases known

/-- An operation does not remove an element and discover it again. -/
theorem discovered_unremoved (sound : r.session.Sound) (forest : r.session.Forest)
    (here : (op.perform r).2.session.element? p = some e) (below : e.parent ≠ none) :
    ¬ r.Removed (op.perform r).2 p := by
  intro removed
  cases op.passage sound with
  | stays _ removals =>
    rcases removals with stays | ⟨target, after, _⟩
    · exact stays p removed
    · obtain ⟨_, takes⟩ := Run.removeTree_takes target forest
      rw [after] at here removed
      rw [takes.absent p ((Run.removeTree_removed_iff forest target p).mp removed).2] at here
      cases here
  | comes _ q owner _ _ after unremoved => exact unremoved p removed
  | leaves _ empty =>
    rw [empty] at here
    cases here
  | replaced q owner _ empty after _ =>
    rw [after] at here
    rcases Run.enter_registers here with ⟨e₀, was, _⟩ | ⟨_, _, top⟩
    · rw [empty] at was
      cases was
    · exact below top

/-- An owner stays as long as its elements. -/
theorem owner_kept {owner : String} (sound : r.session.Sound)
    (present : r.session.state = .present owner) (here : (r.session.element? p).isSome)
    (stays : ¬ r.Removed (op.perform r).2 p) :
    (op.perform r).2.session.state = .present owner := by
  cases op.passage sound with
  | stays state _ => exact state.trans present
  | comes absent =>
    rw [absent] at present
    cases present
  | leaves _ empty =>
    have still := ((op.perform_acts sound).stays_or_removed here).resolve_right stays
    rw [empty] at still
    cases still
  | replaced q name _ _ _ removed => exact absurd (removed p here) stays

end Operation

/-! ## 2. Calls that nobody asks for -/

namespace Run

variable {r r' : Run} {op : Operation} {path : Path}

/-- What is sent is not unsent. -/
theorem callsTo_extends (later : r.trace <+: r'.trace) (path : Path) :
    r.callsTo path <+: r'.callsTo path := by
  obtain ⟨new, trace⟩ := later
  unfold callsTo
  rw [shown_append Effect.call? trace.symm, List.map_append, List.filter_append]
  exact List.prefix_append _ _

theorem mem_drop_of_extends {α : Type} {first next last : List α} {x : α} (more : first <+: next)
    (then_ : next ++ [x] <+: last) : x ∈ last.drop first.length := by
  obtain ⟨between, rfl⟩ := more
  obtain ⟨rest, rfl⟩ := then_
  rw [List.append_assoc, List.append_assoc, List.drop_left]
  exact List.mem_append_right _ List.mem_cons_self

end Run

/-- An attempt that sends a call for one element sends none for the others. -/
theorem Attempt.Sends.callsTo {path q : Path} {kind : CallKind} {purpose : CallPurpose}
    {completion : Option Completion} {a : Attempt Unit} {r : Run}
    (h : a.Sends q kind purpose completion r) (other : path ≠ q) :
    (a r).2.callsTo path = r.callsTo path := by
  rcases h with ⟨error, he⟩ | ⟨r₁, call, steps, enabled, hs⟩
  · rw [he]
  · have about : call.path = q := enabled.2.2.2.2.1
    have sent := Act.perform_shown Effect.call? (.send q kind purpose completion call) r₁
    have calls := Run.callsTo_of_sent (r := r₁) sent path
    rw [about, if_neg other] at calls
    rw [hs]
    exact calls.trans (Run.callsTo_of_calls
      (steps.mono Act.Subscribes.prepares).prepares_calls path)

namespace Operation

variable {r : Run} {op : Operation} {path : Path}

/-- As long as an element stays that is not the root, no call is sent to it that the application
does not ask for. -/
theorem perform_unrequested (sound : r.session.Sound) (silent : r.session.Silent)
    (here : (r.session.element? path).isSome) (stays : ¬ r.Removed (op.perform r).2 path)
    (other : path ≠ r.session.config.rootPath)
    (unrequested : ∀ kind, op.request? r.session.config ≠ some (path, kind)) :
    (op.perform r).2.callsTo path = r.callsTo path := by
  cases asks : op.asks with
  | true =>
    obtain ⟨q, kind, request⟩ := request_of_asks r.session.config asks
    obtain ⟨a, purpose, completion, sends, performs⟩ := request_sends request
    rw [performs, silent_apply]
    apply sends.callsTo
    rintro rfl
    exact unrequested kind request
  | false =>
    refine (unasked_calls sound silent asks path).resolve_right fun fetches => ?_
    rcases fetches.cause with ⟨_, unregistered | removed⟩ | ⟨_, root, _⟩
    · rw [unregistered] at here
      cases here
    · exact stays removed
    · exact other root

end Operation

namespace Run

variable {r : Run} {path : Path} {since : List Operation}

/-- Through operations that leave an element, its owner stays. -/
theorem performAll_owner_kept {owner : String} (sound : r.session.Sound)
    (present : r.session.state = .present owner) (here : (r.session.element? path).isSome)
    (stays : ¬ r.Removed (r.performAll since) path) :
    (r.performAll since).session.state = .present owner := by
  induction since using List.reverseRecOn with
  | nil => exact present
  | append_singleton since op ih =>
    have acts := performAll_acts sound since
    have soundSince := performAll_sound sound since
    rw [performAll_concat] at stays ⊢
    rw [removed_concat_iff sound, not_or] at stays
    exact Operation.owner_kept soundSince (ih stays.1)
      ((acts.stays_or_removed here).resolve_right stays.1) stays.2

theorem performAll_unrequested (sound : r.session.Sound) (heard : r.session.Silent ∧ r.Truthful)
    (here : (r.session.element? path).isSome) (stays : ¬ r.Removed (r.performAll since) path)
    (other : path ≠ r.session.config.rootPath)
    (unrequested : ∀ op ∈ since, ∀ kind, op.request? r.session.config ≠ some (path, kind)) :
    (r.performAll since).callsTo path = r.callsTo path := by
  induction since using List.reverseRecOn with
  | nil => rfl
  | append_singleton since op ih =>
    have acts := performAll_acts sound since
    have soundSince := performAll_sound sound since
    have setup : (r.performAll since).session.config = r.session.config := acts.sameSetup.config
    rw [performAll_concat] at stays ⊢
    rw [removed_concat_iff sound, not_or] at stays
    have before := ih stays.1 fun x mem => unrequested x (List.mem_append_left _ mem)
    refine (Operation.perform_unrequested soundSince (performAll_silent sound heard since)
      ((acts.stays_or_removed here).resolve_right stays.1) stays.2 ?_ ?_).trans before
    · rwa [setup]
    · rw [setup]
      exact unrequested op (by simp)

theorem fetch_of_present {owner : String} (present : r.session.state = .present owner)
    (path : Path) (interface : String) :
    r.session.fetch path interface = r.session.config.protocol.fetch owner path interface := by
  unfold Session.fetch
  rw [Session.destination_of_present present]

/-- A root that waits for an owner is fetched when one comes. -/
theorem waiting_root_fetched {owner : String} (sound : r.session.Sound)
    (heard : r.session.Silent ∧ r.Truthful) (absent : r.session.state = .absent)
    (present : (r.performAll since).session.state = .present owner)
    (root : path = r.session.config.rootPath) {e : Element}
    (here : (r.performAll since).session.element? path = some e)
    (stays : ¬ r.Removed (r.performAll since) path) :
    (r.performAll since).session.fetch path e.interface ∈
      ((r.performAll since).callsTo path).drop (r.callsTo path).length := by
  have unknown : r.session.state ≠ .present owner := by
    rw [absent]
    exact ServiceState.noConfusion
  obtain ⟨first, op, rest, rfl, other, serves⟩ := exists_arrival unknown present
  have soundFirst := performAll_sound sound first
  have came : (op.perform (r.performAll first)).2.session.state = .present owner := by
    rw [← performAll_concat]
    exact serves.first
  obtain ⟨fetch, found, arrives⟩ :=
    op.perform_arrives soundFirst (performAll_silent sound heard first) came other
  have setup : ∀ ops, (r.performAll ops).session.config = r.session.config :=
    fun ops => (performAll_acts sound ops).sameSetup.config
  have registered := arrives.registered
  have calls := arrives.calls
  rw [setup, ← root, ← performAll_concat] at registered calls
  have whole : r.performAll (first ++ op :: rest) =
      (r.performAll (first ++ [op])).performAll rest := performAll_split first rest op r
  have acts := performAll_acts (performAll_sound sound (first ++ [op])) rest
  rw [← whole] at acts
  -- the root that the owner found is the one of the end
  have kept : ¬ (r.performAll (first ++ [op])).Removed (r.performAll (first ++ op :: rest)) path :=
    fun gone => stays ((removed_trans (performAll_acts sound (first ++ [op])).trace_extends
      acts.trace_extends path).mpr (.inr gone))
  obtain ⟨e', here', origin⟩ := acts.origin_kept registered kept
  rw [here] at here'
  cases here'
  have asked := callsTo_of_sent calls path
  rw [← origin.interface, ← setup (first ++ op :: rest), ← fetch_of_present present,
    Session.fetch_path, if_pos rfl] at asked
  -- the call of the arrival comes after all that was sent while there was no owner
  apply mem_drop_of_extends (callsTo_extends (performAll_acts sound first).trace_extends path)
  rw [← asked]
  exact callsTo_extends acts.trace_extends path

end Run

/-! ## 3. Histories -/

/-- Whoever was discovered through another element was registered by an operation and not removed
since. If there was an owner then, or if the element is the root, the owner of a present service was
asked for its properties since. Otherwise the application made a change that listed the element
while there was no owner; and no call was sent to it since unless the application asked for one. -/
theorem discovered_element_is_fetched (config : Config) (numbering : Numbering)
    (listing : Listing) (ops : List Operation) (path : Path) (e : Element) :
    let start := Run.start config numbering listing
    let r := start.performAll ops
    r.session.state.isPresent → r.session.element? path = some e → e.parent ≠ none →
    ∃ before op since, ops = before ++ op :: since
      ∧ (start.performAll before).session.element? path = none
      ∧ ((start.performAll (before ++ [op])).session.element? path).isSome
      ∧ ¬ (start.performAll (before ++ [op])).Removed r path
      ∧ let calls := (r.callsTo path).drop ((start.performAll before).callsTo path).length
        ((start.performAll before).session.state.isPresent ∨ path = config.rootPath →
          r.session.fetch path e.interface ∈ calls)
        ∧ ((start.performAll before).session.state = .absent →
          (∃ lister name value, op = .change lister name value)
          ∧ (path ≠ config.rootPath →
            (∀ asked ∈ since, ∀ kind, asked.request? config ≠ some (path, kind)) →
            calls = [])) := by
  intro start r present here below
  have started := Run.start_sound config numbering listing
  have setup : ∀ ops, (start.performAll ops).session.config = config :=
    Run.performAll_config config numbering listing
  obtain ⟨owner, owned⟩ := ServiceState.exists_owner present
  obtain ⟨before, op, since, split, registers, stays, _⟩ :=
    @Run.performAll_logged start ops path started rfl (Option.isSome_of_eq_some here)
  change ¬ (start.performAll (before ++ [op])).Removed r path at stays
  have whole : r = (start.performAll (before ++ [op])).performAll since := by
    rw [← Run.performAll_split, ← split]
  have soundBefore := Run.performAll_sound started before
  have heardBefore := Run.performAll_heard config numbering listing before
  have forestBefore := Run.performAll_forest started
    (Run.start_forest config numbering listing) before
  have soundAfter := Run.performAll_sound started (before ++ [op])
  have heardAfter := Run.performAll_heard config numbering listing (before ++ [op])
  have acts := Run.performAll_acts soundAfter since
  rw [← whole] at acts
  have later := Run.callsTo_extends acts.trace_extends path
  have made := registers.1
  rw [← Run.performAll_concat] at made
  obtain ⟨e₁, known⟩ := Option.isSome_iff_exists.mp made
  obtain ⟨e', here', origin⟩ := acts.origin_kept known stays
  rw [here] at here'
  cases here'
  -- the element of the end is the one that was registered, so it was discovered then
  have below₁ : e₁.parent ≠ none := by rwa [← origin.parent]
  rw [Run.performAll_concat] at known
  have new := registers.2.resolve_right
    (Operation.discovered_unremoved soundBefore forestBefore known below₁)
  refine ⟨before, op, since, split, new, made, stays, ?_⟩
  intro calls
  rcases Operation.discovered_cases soundBefore heardBefore.1 known below₁ with
    old | ⟨first, state, sent⟩ | ⟨absent, still, unsent, change⟩
  · rw [new] at old
    cases old
  · -- the owner that was asked then is the one of the end
    obtain ⟨asked, first⟩ := ServiceState.exists_owner first
    rw [first, ← Run.performAll_concat] at state
    have kept := Run.performAll_owner_kept soundAfter state made (by rwa [← whole])
    rw [← whole, owned] at kept
    cases kept
    have same : r.session.fetch path e.interface =
        (start.performAll before).session.fetch path e₁.interface := by
      rw [Run.fetch_of_present owned, Run.fetch_of_present first, setup, setup, origin.interface]
    refine ⟨fun _ => ?_, fun absent => ?_⟩
    · apply Run.mem_drop_of_extends (List.prefix_refl _)
      rw [same, ← sent, ← Run.performAll_concat]
      exact later
    · rw [first] at absent
      cases absent
  · -- there was no owner to ask: the one that comes later asks for the root alone
    rw [← Run.performAll_concat] at still unsent
    refine ⟨fun cause => ?_, fun _ => ⟨change, fun other unrequested => ?_⟩⟩
    · have root : path = config.rootPath := by
        refine cause.resolve_left fun first => ?_
        rw [absent] at first
        cases first
      have fetched := @Run.waiting_root_fetched _ path since owner soundAfter heardAfter still
        (by rwa [← whole]) (by rwa [setup]) e (by rwa [← whole]) (by rwa [← whole])
      rwa [← whole, unsent] at fetched
    · have quiet := @Run.performAll_unrequested _ path since soundAfter heardAfter made
        (by rwa [← whole]) (by rwa [setup]) (by rwa [setup])
      rw [← whole, unsent] at quiet
      show (r.callsTo path).drop _ = []
      rw [quiet]
      exact List.drop_length

/-- The application changes what the root lists while the service has an owner: the service that is
listed is fetched. -/
theorem listed_service_is_fetched :
    let config : Config :=
      { service := "net.connman", rootPath := "/", rootInterface := "net.connman.Manager",
        protocol := .legacy,
        children := [⟨"net.connman.Manager", "Services", "net.connman.Service"⟩] }
    let owned : Operation := .dispatch (.ownerChanged ⟨1⟩ "net.connman" "" ":1.5")
    let listed : Operation := .change "/" "Services" (.array [.objectPath "/wifi"])
    let r := (Run.start config .counting .ascending).performAll [.init, owned, listed]
    r.session.parent? "/wifi" = some "/"
    ∧ r.session.fetch "/wifi" "net.connman.Service" ∈ r.callsTo "/wifi" := by
  intro config owned listed
  have evaluated : let start := Run.start config .counting .ascending
      let r := start.performAll [.init, owned, listed]
      (r.session.state, (r.session.element? "/wifi").map fun e => (e.interface, e.parent),
        (start.performAll [.init, owned]).session.state) =
          (.present ":1.5", some ("net.connman.Service", some "/"), .present ":1.5") := by
    subst config owned listed
    rfl
  have fetched := discovered_element_is_fetched config .counting .ascending
    [.init, owned, listed] "/wifi"
  dsimp only at evaluated fetched ⊢
  generalize Run.start config .counting .ascending = start at evaluated fetched ⊢
  obtain ⟨state, found, first⟩ : _ ∧ _ ∧ _ := by simpa only [Prod.mk.injEq] using evaluated
  obtain ⟨e, here, origin⟩ := Option.map_eq_some_iff.mp found
  obtain ⟨interface, parent⟩ := Prod.mk.inj origin
  have present : (start.performAll [.init, owned, listed]).session.state.isPresent := by
    rw [state]
    rfl
  refine ⟨Session.look_eq_some.mpr ⟨e, here, parent⟩, ?_⟩
  obtain ⟨before, op, since, split, _, _, _, asked, absent⟩ :=
    fetched e present here (by rw [parent]; exact Option.some_ne_none "/")
  rw [interface] at asked
  refine List.mem_of_mem_drop (asked (.inl ?_))
  cases known : (start.performAll before).session.state with
  | present owner => rfl
  | absent =>
    -- the one change of the application came when there was an owner
    obtain ⟨⟨lister, name, value, rfl⟩, _⟩ := absent known
    rcases before with _ | ⟨_, _ | ⟨_, _ | ⟨_, before⟩⟩⟩
    · exact Operation.noConfusion (List.cons.inj split).1
    · exact Operation.noConfusion (List.cons.inj (List.cons.inj split).2).1
    · obtain ⟨rfl, rest⟩ := List.cons.inj split
      obtain ⟨rfl, _⟩ := List.cons.inj rest
      rw [first] at known
      cases known
    · simp at split

/-- A manager that the application created, and changed before the service had an owner, lists a
service. The owner that comes is not asked for it. -/
theorem early_listed_service_is_not_fetched :
    let config : Config :=
      { service := "net.connman", rootPath := "/", rootInterface := "net.connman.Manager",
        protocol := .legacy,
        children := [⟨"net.connman.Manager", "Services", "net.connman.Service"⟩] }
    let ops : List Operation :=
      [.create "/m" "net.connman.Manager", .change "/m" "Services" (.array [.objectPath "/s1"]),
        .init, .dispatch (.ownerChanged ⟨1⟩ "net.connman" "" ":1.7")]
    let r := (Run.start config .counting .ascending).performAll ops
    r.session.state = .present ":1.7" ∧ r.session.parent? "/s1" = some "/m"
    ∧ r.callsTo "/s1" = [] :=
  ⟨rfl, rfl, rfl⟩

end BusCache
