import BusCache.Proofs.Session.Children
import BusCache.Proofs.Session.ServiceEvents
import BusCache.Proofs.Session.WriteLog

/-!
# Unasked calls — what a session asks for on its own

Beside the calls that the application asks for, a session sends fetches on its own: of an element
that it discovers, and of the root when an owner comes. Each of them goes to an element that was
just registered, or to a root that waited for an owner. So however often a path is listed, and in
however many places, it is fetched in this way at most once until it is removed.
-/

namespace BusCache

/-! ## 1. Growth and calls -/

/-- An operation by which the application asks for a call. -/
def Operation.asks : Operation → Bool
  | setProperty _ _ _ _ => true
  | setPropertyAs _ _ _ _ _ => true
  | call _ _ _ _ _ => true
  | callOn _ _ _ _ _ _ => true
  | sync _ _ => true
  | syncRoot => true
  | _ => false

/-- From a run to a later one elements were discovered. Each of them was discovered through another
one, and one call was sent to it, which fetches its properties. No call was sent to the others. -/
structure Run.Spreads (r r' : Run) : Prop where
  known : ∀ p e, r.session.element? p = some e →
    (∃ e', r'.session.element? p = some e' ∧ e.SameOrigin e') ∧ r'.callsTo p = r.callsTo p
  new : ∀ p, r.session.element? p = none →
    r'.session.element? p = none ∧ r'.callsTo p = r.callsTo p
    ∨ ∃ e, r'.session.element? p = some e ∧ e.parent ≠ none
      ∧ r'.callsTo p = r.callsTo p ++ [r.session.fetch p e.interface]
  setup : r'.session.config = r.session.config ∧ r'.session.ownership = r.session.ownership

namespace Run

variable {r r' r'' : Run} {path : Path}

theorem fetch_eq (setup : r'.session.config = r.session.config
    ∧ r'.session.ownership = r.session.ownership) (p : Path) (interface : String) :
    r'.session.fetch p interface = r.session.fetch p interface := by
  unfold Session.fetch Session.destination Session.state
  rw [setup.1, setup.2]

namespace Spreads

theorem refl (r : Run) : r.Spreads r :=
  ⟨fun _ e here => ⟨⟨e, here, .refl e⟩, rfl⟩, fun _ none => .inl ⟨none, rfl⟩, rfl, rfl⟩

theorem trans (h : r.Spreads r') (h' : r'.Spreads r'') : r.Spreads r'' where
  known p e here := by
    obtain ⟨⟨e₁, still, origin⟩, quiet⟩ := h.known p e here
    obtain ⟨⟨e₂, still, origin'⟩, quiet'⟩ := h'.known p e₁ still
    exact ⟨⟨e₂, still, origin.trans origin'⟩, quiet'.trans quiet⟩
  new p none := by
    rcases h.new p none with ⟨between, quiet⟩ | ⟨e₁, made, below, sent⟩
    · have next := h'.new p between
      simp only [quiet, fetch_eq h.setup] at next
      exact next
    · -- what was discovered first is known when it comes to the rest
      obtain ⟨⟨e₂, still, origin⟩, quiet⟩ := h'.known p e₁ made
      refine .inr ⟨e₂, still, ?_, ?_⟩
      · rw [origin.parent]
        exact below
      · rw [origin.interface, quiet, sent]
  setup := ⟨h'.setup.1.trans h.setup.1, h'.setup.2.trans h.setup.2⟩

end Spreads

theorem Touches.spreads (h : r.Touches r' path) (registered : (r.session.element? path).isSome) :
    r.Spreads r' where
  known p e here := by
    refine ⟨?_, callsTo_of_calls h.calls p⟩
    by_cases self : p = path
    · subst self
      obtain ⟨e', still, place⟩ := h.here e here
      exact ⟨e', still, place.origin⟩
    · exact ⟨e, (h.elsewhere p self).trans here, .refl e⟩
  new p none := by
    refine .inl ⟨?_, callsTo_of_calls h.calls p⟩
    rw [h.elsewhere p, none]
    rintro rfl
    rw [none] at registered
    cases registered
  setup := h.setup

theorem Discovers.spreads {e : Element} {changed : Option String}
    (h : r.Discovers r' path e changed) : r.Spreads r' where
  known p e here := by
    refine ⟨?_, (h.known p (Option.isSome_of_eq_some here)).2⟩
    by_cases self : p = path
    · subst self
      obtain ⟨now, old, was, place⟩ := h.lister
      rw [here] at was
      cases was
      exact ⟨_, now, place.origin⟩
    · exact ⟨e, h.kept p e self here, .refl e⟩
  new p none := by
    by_cases named : e.depth + 1 ≤ r.session.config.maxDepth.toNat
        ∧ ∃ link ∈ r.session.config.children, e.Names changed p link
    · obtain ⟨below, link, mem, names⟩ := named
      obtain ⟨first, _, ⟨e', made, discovered⟩, sent⟩ := h.new below p link mem names none
      refine .inr ⟨e', made, ?_, ?_⟩
      · rw [discovered.parent]
        exact Option.some_ne_none path
      · rw [discovered.interface]
        exact sent
    · left
      refine h.nothing_else p none fun below link mem names => named ?_
      exact ⟨below, link, mem, names⟩
  setup := h.setup

theorem DiscoversEach.spreads {names : List String} (h : DiscoversEach path r names r') :
    r.Spreads r' := by
  induction h with
  | done => exact .refl _
  | change first _ ih => exact first.spreads.trans ih

theorem adopt_spreads (present : r.session.state.isPresent) (child : Path) (interface : String)
    (parent : Path) (depth : Nat) : r.Spreads (r.adopt child interface parent depth) := by
  cases new : r.session.element? child with
  | some e =>
    rw [adopt_of_registered (Option.isSome_of_eq_some new)]
    exact .refl r
  | none =>
    obtain ⟨⟨e, made, adopted⟩, elsewhere, calls⟩ := adopt_new present new interface parent depth
    have setup := adopt_setup present child interface parent depth
    generalize r.adopt child interface parent depth = after at made elsewhere calls setup ⊢
    constructor
    · intro p old here
      have other : p ≠ child := by
        rintro rfl
        rw [new] at here
        cases here
      rw [elsewhere p other, calls p, if_neg other]
      exact ⟨⟨old, here, .refl old⟩, rfl⟩
    · intro p none
      rw [calls p]
      by_cases self : p = child
      · subst self
        rw [if_pos rfl]
        refine .inr ⟨e, made, ?_, ?_⟩
        · rw [adopted.discovered.parent]
          exact Option.some_ne_none parent
        · rw [adopted.discovered.interface]
      · rw [if_neg self, elsewhere p self]
        exact .inl ⟨none, rfl⟩
    · exact setup

/-! ## 2. What sends no call -/

/-- From a run to a later one nothing was registered and no call was sent. -/
def Rests (r r' : Run) : Prop :=
  (∀ p, r.session.element? p = none → r'.session.element? p = none)
    ∧ r'.shown Effect.call? = r.shown Effect.call?

/-- From a run to a later one nothing was registered and no call was sent, or there is an owner and
elements were discovered. -/
def Grew (r r' : Run) : Prop := r.Rests r' ∨ r.session.state.isPresent ∧ r.Spreads r'

theorem Rests.refl (r : Run) : r.Rests r := ⟨fun _ none => none, rfl⟩

theorem Grew.refl (r : Run) : r.Grew r := .inl (.refl r)

/-- Nothing is sent to a service without an owner. -/
theorem absent_calls (h : Steps Act.Works r r') (absent : r.session.state = .absent) :
    r'.shown Effect.call? = r.shown Effect.call? := by
  have kept : r'.session.state = .absent ∧ r'.shown Effect.call? = r.shown Effect.call? := by
    apply h.preserves (I := fun q => q.session.state = .absent
      ∧ q.shown Effect.call? = r.shown Effect.call?) _ ⟨absent, rfl⟩
    intro q a works enabled ⟨absent, same⟩
    constructor
    · unfold Session.state
      rw [Act.Inside.ownership_eq (.inl works) enabled]
      exact absent
    · rw [Act.perform_shown, same]
      cases a with
      | send path kind purpose completion call =>
        have present := enabled.1
        rw [absent] at present
        cases present
      | _ => first | exact works.elim | exact List.append_nil _
  exact kept.2

theorem init_rests (r : Run) : r.Rests r.init := by
  unfold init
  dsimp only
  split
  · exact ⟨fun _ none => none,
      (Act.perform_shown Effect.call? .openQuery _).trans ((List.append_nil _).trans
        ((Act.perform_shown Effect.call? .openWatch _).trans (List.append_nil _)))⟩
  · exact ⟨fun _ none => none, rfl⟩

theorem remove_rests (path : Path) (r : Run) : r.Rests (r.remove path).2 :=
  ⟨fun _ => (remove_steps path r).element?_eq_none, (remove_steps path r).removes_calls⟩

theorem shutdown_rests (r : Run) : r.Rests r.shutdown := by
  have closed : ∀ q : Run, q.Rests q.closeWatch.closeQuery := by
    intro q
    have query := Act.perform_shown Effect.call? .closeQuery q.closeWatch
    have watch := Act.perform_shown Effect.call? .closeWatch q
    rw [Act.closeQuery_unseen fun _ => rfl, List.append_nil] at query
    rw [Act.closeWatch_unseen fun _ => rfl, List.append_nil] at watch
    refine ⟨fun p none => ?_, query.trans watch⟩
    rw [Session.element?_of_registry_eq (q.closeWatch.closeQuery_registry.trans
      q.closeWatch_registry)]
    exact none
  unfold shutdown
  split
  · exact .refl r
  · refine ⟨fun p none => (closed _).1 p ?_, (closed _).2.trans ?_⟩
    · split
      · exact removeAll_element? (r.setUsers 0) p
      · exact removeAll_element? (r.setUsers 0) p
    · split
      · exact exit_calls (r.setUsers 0)
      · exact (removeAll_steps (r.setUsers 0)).removes_calls
  · exact ⟨fun _ none => none, rfl⟩

/-! ## 3. Operations -/

/-- A delivery that is heard has an owner to come from. -/
theorem present_of_signal (sound : r.session.Sound) (silent : r.session.Silent)
    {subscription : SubscriptionId} {route : SignalRoute}
    (routed : Table.get? r.session.signalRoutes subscription = some route)
    (other : route ≠ .nameOwner) : r.session.state.isPresent := by
  cases state : r.session.state with
  | present owner => rfl
  | absent => exact absurd (sound.routed.signals.of_still (silent state) routed) other

theorem present_of_reply (sound : r.session.Sound) (silent : r.session.Silent) {call : CallId}
    {route : CallRoute} (routed : Table.get? r.session.callRoutes call = some route)
    (other : route ≠ .nameOwner) : r.session.state.isPresent := by
  cases state : r.session.state with
  | present owner => rfl
  | absent => exact absurd (sound.routed.calls.of_still (silent state) routed) other

theorem handleSignal_grew (sound : r.session.Sound) (silent : r.session.Silent)
    (subscription : SubscriptionId) (member : String) (args : List WireValue) :
    r.Grew (r.handleSignal subscription member args) := by
  unfold handleSignal
  cases routed : Table.get? r.session.signalRoutes subscription with
  | none => exact .refl r
  | some route =>
    cases route with
    | nameOwner => exact .refl r
    | propertyChanged path =>
      have present := present_of_signal sound silent routed (by simp)
      have here := Operation.signalled_registered sound routed rfl
      dsimp only
      split
      · obtain ⟨e, discovers⟩ := change_discovers present here _ _ _
        exact .inr ⟨present, discovers.spreads⟩
      · exact .refl r
    | propertiesChanged path =>
      have present := present_of_signal sound silent routed (by simp)
      have registered := Operation.signalled_registered sound routed rfl
      obtain ⟨e, here⟩ := Option.isSome_iff_exists.mp registered
      dsimp only
      split
      · rename_i changes _
        by_cases interface : e.interface = changes.interface
        · obtain ⟨r₁, each, dropped⟩ := applyChanges_discovers present here interface
          obtain ⟨⟨e₁, still, _⟩, _⟩ := each.spreads.known path e here
          have dropped := dropped.spreads (Option.isSome_of_eq_some still)
          exact .inr ⟨present, each.spreads.trans dropped⟩
        · unfold applyChanges
          rw [here]
          dsimp only
          rw [if_neg interface]
          exact .refl r
      · exact .refl r
    | lifecycle action =>
      have present := present_of_signal sound silent routed (by simp)
      dsimp only
      split
      · rename_i target _ _
        unfold applyLifecycle
        cases action with
        | added interface =>
          dsimp only
          split
          · exact .inr ⟨present, adopt_spreads present target interface _ 1⟩
          · exact .refl r
        | removed => exact .inl (remove_rests target r)
      · exact .refl r
    | forward path =>
      dsimp only
      split
      · split
        · rename_i decoded _
          exact .inl ⟨fun _ none => none,
            (Act.perform_shown Effect.call? (.emit .elementSignal path _) r).trans
              (List.append_nil _)⟩
        · exact .refl r
      · exact .refl r

theorem handleReply_grew (sound : r.session.Sound) (silent : r.session.Silent) {call : CallId}
    {kind : CallKind} {purpose : CallPurpose}
    (routed : Table.get? r.session.callRoutes call = some (.element path kind purpose))
    (result : Except BusError (List WireValue)) : r.Grew (r.handleReply call result) := by
  by_cases read : purpose = .sync ∧ ∃ fetched args, fetchedOf result = .ok (fetched, args)
  · obtain ⟨rfl, fetched, args, read⟩ := read
    have present := present_of_reply sound silent routed (by simp)
    obtain ⟨e, discovers⟩ := Operation.reply_discovers sound present routed read
    rw [Operation.perform_reply] at discovers
    exact .inr ⟨present, discovers.spreads⟩
  · -- the slot is freed and the completion told, and that is all
    obtain ⟨⟨id, completion⟩, held, rfl⟩ :=
      (sound.routed.calls.element call path kind).mp ⟨purpose, routed⟩
    have taken : Steps (· = .answer id path kind) r ((Act.answer id path kind).perform r) :=
      Steps.one rfl (Act.answer_enabled routed held)
    have shown : ((Act.answer id path kind).perform r).shown Effect.call? = r.shown Effect.call? :=
      (Act.perform_shown Effect.call? (.answer id path kind) r).trans (List.append_nil _)
    have freed : r.Rests ((Act.answer id path kind).perform r) :=
      ⟨fun p none => taken.unregistered (fun a ha _ _ _ he => by cases ha.symm.trans he) none,
        shown⟩
    rw [handleReply_call routed held]
    split
    · rename_i fetched args answer
      exact absurd ⟨rfl, fetched, args, answer⟩ read
    · have told := Touches.complete ((Act.answer id path kind).perform r) completion
      refine .inl ⟨fun p none => ?_, ((told _ path).calls).trans shown⟩
      rw [complete_session]
      exact freed.1 p none

end Run

/-- The application brings elements that are not fetched: it creates one, or has a property list
some while there is no owner. -/
def Operation.Seeds (state : ServiceState) : Operation → Prop
  | create _ _ => True
  | change _ _ _ => state = .absent
  | _ => False

namespace Operation

variable {r : Run}

/-- An operation that asks for no call grows the session, brings elements without fetching them, or
tells of a change of owners. -/
theorem grew_or_told (sound : r.session.Sound) (quiet : r.session.Silent) (op : Operation)
    (unasked : op.asks = false) :
    r.Grew (op.perform r).2
      ∨ op.Seeds r.session.state ∧ (op.perform r).2.shown Effect.call? = r.shown Effect.call?
      ∨ ∃ (q : Run) (oldOwner newOwner : String),
        (op.perform r).2 = q.ownerChanged oldOwner newOwner ∧ q.trace = r.trace
        ∧ q.session.registry = r.session.registry
        ∧ q.session.config = r.session.config ∧ q.session.state = r.session.state := by
  cases op with
  | init => exact .inl (.inl (Run.init_rests r))
  | shutdown => exact .inl (.inl (Run.shutdown_rests r))
  | create path interface =>
    rw [perform_create]
    exact .inr (.inl ⟨trivial, (Run.getOrCreate_prepares none 0 rfl).prepares_calls⟩)
  | remove path => exact .inl (.inl (Run.remove_rests path r))
  | subscribeSignal path interface member =>
    left
    show r.Grew (silent (Attempt.subscribeSignal path interface member) r).2
    rw [silent_apply]
    have steps := Attempt.subscribeSignal_steps path interface member r
    exact .inl ⟨fun p => steps.unregistered fun _ subscribes _ _ _ he => by
      subst he; exact subscribes, (steps.mono Act.Subscribes.prepares).prepares_calls⟩
  | change path name value =>
    cases state : r.session.state with
    | absent =>
      rw [perform_change]
      exact .inr (.inl ⟨rfl, Run.absent_calls
        ((Run.change_steps path name value none r).mono Act.Changes.works) state⟩)
    | present owner =>
      have present : r.session.state.isPresent := by
        rw [state]
        rfl
      left
      cases here : r.session.element? path with
      | some e =>
        obtain ⟨e', discovers⟩ :=
          change_discovers present (Option.isSome_of_eq_some here) name value
        exact .inr ⟨present, discovers.spreads⟩
      | none =>
        rw [perform_change, Run.change_apply, here]
        exact .refl r
  | setHandler kind handler => exact .inl (.inl ⟨fun _ none => none, rfl⟩)
  | relist order => exact .inl (.inl ⟨fun _ none => none, rfl⟩)
  | dispatch event =>
    have after := congrArg Prod.snd (perform_dispatch event r)
    rw [after]
    cases event with
    | reply call result =>
      show r.Grew (r.handleReply call result) ∨ _ ∨ ∃ (q : Run) (oldOwner newOwner : String),
        r.handleReply call result = q.ownerChanged oldOwner newOwner ∧ _
      cases routed : Table.get? r.session.callRoutes call with
      | none =>
        rw [Run.handleReply_of_none routed]
        exact .inl (.refl r)
      | some route =>
        cases route with
        | element path kind purpose => exact .inl (Run.handleReply_grew sound quiet routed result)
        | nameOwner =>
          have asked := (sound.routed.calls.owner call).mp routed
          rcases Run.handleReply_query_cases ⟨routed, asked⟩ result with after | ⟨owner, after⟩
          · rw [after]
            exact .inl (.inl ⟨fun _ none => none, rfl⟩)
          · exact .inr (.inr ⟨_, _, _, after, rfl, rfl, rfl, rfl⟩)
    | signal subscription sender member args =>
      exact .inl (Run.handleSignal_grew sound quiet subscription member args)
    | ownerChanged subscription name oldOwner newOwner =>
      show r.Grew (r.handleOwnerChanged subscription name oldOwner newOwner)
        ∨ _ ∨ ∃ (q : Run) (old new : String),
          r.handleOwnerChanged subscription name oldOwner newOwner = q.ownerChanged old new ∧ _
      unfold Run.handleOwnerChanged
      split
      · exact .inr (.inr ⟨r, _, _, rfl, rfl, rfl, rfl, rfl⟩)
      · exact .inl (.refl r)
  | _ => cases unasked

end Operation

/-- A registered element stays registered or is removed. -/
theorem Steps.stays_or_removed {P : Act → Prop} {r r' : Run} (h : Steps P r r') {p : Path}
    (here : (r.session.element? p).isSome) :
    (r'.session.element? p).isSome ∨ r.Removed r' p := by
  obtain ⟨e₀, here⟩ := Option.isSome_iff_exists.mp here
  by_cases gone : r.Removed r' p
  · exact .inr gone
  · obtain ⟨e, still, _⟩ := h.origin_kept here gone
    exact .inl (Option.isSome_of_eq_some still)

namespace Run

variable {r : Run}

theorem exit_removes (r : Run) {p : Path} (here : (r.session.element? p).isSome) :
    r.Removed r.exit p := by
  refine ((exit_steps r).stays_or_removed here).resolve_left ?_
  show ¬ (r.removeAll.session.element? p).isSome
  rw [removeAll_element?]
  exact Bool.false_ne_true

end Run

/-- An operation that asks for no call sends one to the object at a path: there is an owner then,
and the operation registers an element at the path, or brings the owner that the root there waited
for. The call fetches the properties of the element. -/
structure Run.FetchesUnasked (r : Run) (op : Operation) (path : Path) : Prop where
  present : (op.perform r).2.session.state.isPresent
  cause : r.Registers op path
    ∨ r.session.state = .absent ∧ path = r.session.config.rootPath
      ∧ ((op.perform r).2.session.element? path).isSome
  call : ∃ interface, (op.perform r).2.callsTo path =
    r.callsTo path ++ [(op.perform r).2.session.fetch path interface]

namespace Operation

variable {r : Run} {op : Operation} {path : Path}

/-- The root is fetched when an owner comes, and nothing else. -/
theorem enter_unasked {q : Run} {owner : String} (after : (op.perform r).2 = q.enter owner)
    (still : q.session.Still) (calls : q.shown Effect.call? = r.shown Effect.call?)
    (config : q.session.config = r.session.config)
    (cause : r.session.state = .absent
      ∨ ∀ p, r.session.element? p = none ∨ r.Removed (op.perform r).2 p) (path : Path) :
    (op.perform r).2.callsTo path = r.callsTo path ∨ r.FetchesUnasked op path := by
  obtain ⟨fetch, root, arrives⟩ := Run.enter_arrives still owner
  obtain ⟨here, _, sent, _⟩ := arrives
  rw [config, calls] at sent
  rw [config] at here
  have setup : (q.enter owner).session.config = r.session.config :=
    (Run.enter_steps owner q).sameSetup.config.trans config
  have asked : r.session.config.protocol.fetch owner r.session.config.rootPath root.interface =
      (q.enter owner).session.fetch r.session.config.rootPath root.interface := by
    unfold Session.fetch Session.destination
    rw [Run.enter_state, setup]
    rfl
  rw [asked] at sent
  have about := Run.callsTo_of_sent sent path
  rw [Session.fetch_path] at about
  by_cases root : path = r.session.config.rootPath
  · subst root
    rw [if_pos rfl] at about
    rw [after] at cause ⊢
    right
    constructor
    · rw [after, Run.enter_state]
      rfl
    · rw [after]
      have registered := Option.isSome_of_eq_some here
      rcases cause with absent | fresh
      · exact .inr ⟨absent, rfl, registered⟩
      · left
        unfold Run.Registers
        rw [after]
        exact ⟨registered, fresh _⟩
    · rw [after]
      exact ⟨_, about⟩
  · rw [if_neg root] at about
    rw [after]
    exact .inl about

/-- What an operation that asks for no call sends to the object at a path: nothing, or one fetch of
an element that it brought, or that waited for an owner. -/
theorem unasked_calls (sound : r.session.Sound) (quiet : r.session.Silent)
    (unasked : op.asks = false) (path : Path) :
    (op.perform r).2.callsTo path = r.callsTo path ∨ r.FetchesUnasked op path := by
  rcases op.grew_or_told sound quiet unasked with
    (⟨_, nothing⟩ | ⟨present, spreads⟩) | ⟨_, nothing⟩
      | ⟨q, oldOwner, newOwner, after, trace, registry, config, state⟩
  · exact .inl (Run.callsTo_of_calls nothing path)
  · cases new : r.session.element? path with
    | some e => exact .inl (spreads.known path e new).2
    | none =>
      refine (spreads.new path new).imp And.right fun ⟨e, here, _, sent⟩ => ?_
      constructor
      · unfold Session.state
        rw [spreads.setup.2]
        exact present
      · exact .inl ⟨Option.isSome_of_eq_some here, .inl new⟩
      · have asked := Run.fetch_eq spreads.setup path e.interface
        exact ⟨e.interface,
          sent.trans (congrArg (fun call => r.callsTo path ++ [call]) asked.symm)⟩
  · exact .inl (Run.callsTo_of_calls nothing path)
  · have calls : q.shown Effect.call? = r.shown Effect.call? := by
      unfold Run.shown
      rw [trace]
    unfold Run.ownerChanged at after
    split at after
    · rename_i owner enters
      have absent := (ServiceState.classify_enter enters).1
      rw [state] at absent
      exact enter_unasked after ((quiet absent).of_registry_eq registry) calls config
        (.inl absent) path
    · left
      rw [after]
      exact Run.callsTo_of_calls ((Run.exit_calls q).trans calls) path
    · rename_i owner replaces
      have down : r.trace <+: q.exit.trace := trace ▸ (Run.exit_steps q).trace_extends
      have up : q.exit.trace <+: (op.perform r).2.trace := by
        rw [after]
        exact (Run.enter_steps owner q.exit).trace_extends
      refine enter_unasked after (Session.still_of_empty (Run.removeAll_element? q))
        ((Run.exit_calls q).trans calls) ((Run.exit_steps q).sameSetup.config.trans config)
        (.inr fun p => ?_) path
      -- what was there was removed with the owner before
      cases here : r.session.element? p with
      | none => exact .inl rfl
      | some e =>
        right
        rw [Run.removed_trans down up]
        left
        have removed := q.exit_removes (p := p) (by
          rw [Session.element?_of_registry_eq registry, here]
          rfl)
        unfold Run.Removed Run.shown at removed ⊢
        rwa [trace] at removed
    · rw [after]
      exact .inl (Run.callsTo_of_calls calls path)

/-- A service that an operation leaves without an owner was without one before, or no element is
left of it. -/
theorem absent_after (sound : r.session.Sound) (absent : (op.perform r).2.session.state = .absent) :
    r.session.state = .absent ∨ ∀ p, (op.perform r).2.session.element? p = none := by
  have kept : (op.perform r).2.session.ownership = r.session.ownership →
      r.session.state = .absent := by
    intro same
    unfold Session.state at absent ⊢
    rwa [same] at absent
  have told : ∀ {q : Run} {oldOwner newOwner : String}, q.session.state = r.session.state →
      (op.perform r).2 = q.ownerChanged oldOwner newOwner →
      r.session.state = .absent ∨ ∀ p, (op.perform r).2.session.element? p = none := by
    intro q oldOwner newOwner state after
    unfold Run.ownerChanged at after
    split at after
    · rw [after, Run.enter_state] at absent
      cases absent
    · rw [after]
      exact .inr (Run.removeAll_element? q)
    · rw [after, Run.enter_state] at absent
      cases absent
    · rw [after, state] at absent
      exact .inl absent
  cases op.turn sound with
  | works steps => exact .inl (kept steps.works_inside.inside_ownership)
  | removes path after =>
    exact .inl (kept (after ▸ (Run.removeTree_inside path r).inside_ownership))
  | starts unused after =>
    rw [after] at absent
    exact .inl absent
  | counts users before left after =>
    rw [after] at absent
    exact .inl absent
  | ends last shut after =>
    rw [after]
    exact .inr (Run.shutdown_last last).1
  | notified subscription oldOwner newOwner event watched after => exact told rfl after
  | answered call result event enabled after =>
    rcases after with after | ⟨owner, after⟩
    · rw [after] at absent
      exact .inl absent
    · refine told ?_ after
      rfl

end Operation

/-! ## 4. Histories -/

namespace Run

/-- The calls to the object at a path that operations sent which asked for none. -/
def unasked (path : Path) : Run → List Operation → List MethodCall
  | _, [] => []
  | r, op :: rest =>
      (if op.asks then [] else ((op.perform r).2.callsTo path).drop (r.callsTo path).length)
        ++ unasked path (op.perform r).2 rest

variable {r : Run} {path : Path}

theorem unasked_concat (r : Run) (path : Path) (ops : List Operation) (op : Operation) :
    r.unasked path (ops ++ [op]) = r.unasked path ops ++ (r.performAll ops).unasked path [op] := by
  induction ops generalizing r with
  | nil => rfl
  | cons first rest ih =>
    rw [List.cons_append]
    unfold unasked
    rw [ih, List.append_assoc]
    rfl

/-- What one operation sends unasked: nothing, or one call, which finds or brings an owner. -/
theorem unasked_one (sound : r.session.Sound) (silent : r.session.Silent) (path : Path)
    (op : Operation) :
    r.unasked path [op] = [] ∨ (r.unasked path [op]).length = 1 ∧ r.FetchesUnasked op path := by
  unfold unasked unasked
  rw [List.append_nil]
  cases asks : op.asks with
  | true => exact .inl (if_pos rfl)
  | false =>
    rw [if_neg Bool.false_ne_true]
    rcases Operation.unasked_calls sound silent asks path with nothing | fetches
    · rw [nothing, List.drop_length]
      exact .inl rfl
    · obtain ⟨interface, sent⟩ := fetches.call
      rw [sent, List.drop_left]
      exact .inr ⟨rfl, fetches⟩

theorem performAll_silent (sound : r.session.Sound) (heard : r.session.Silent ∧ r.Truthful)
    (ops : List Operation) : (r.performAll ops).session.Silent :=
  (performAll_sound_keeps (I := fun q => q.session.Silent ∧ q.Truthful)
    (fun _ op sound heard => op.perform_heard sound heard.1 heard.2) sound heard ops).1

/-- From the operation on that registers an element, and until the element is removed, one unasked
call is sent to it at most, and none as long as there is no owner. -/
theorem unasked_since (sound : r.session.Sound) (heard : r.session.Silent ∧ r.Truthful)
    {op : Operation} {since : List Operation} (registers : r.Registers op path)
    (stays : ¬ (op.perform r).2.Removed (r.performAll (op :: since)) path) :
    (r.unasked path (op :: since)).length ≤ 1
      ∧ ((r.performAll (op :: since)).session.state = .absent →
        r.unasked path (op :: since) = [])
      ∧ ((r.performAll (op :: since)).session.element? path).isSome := by
  -- on the last operation: a call has to find an owner that was not there before it
  induction since using List.reverseRecOn with
  | nil =>
    refine ⟨?_, fun absent => ?_, registers.1⟩
    · rcases unasked_one sound heard.1 path op with nothing | ⟨one, _⟩
      · rw [nothing]
        exact Nat.zero_le 1
      · exact Nat.le_of_eq one
    · refine (unasked_one sound heard.1 path op).resolve_right fun ⟨_, fetches⟩ => ?_
      have present := fetches.present
      rw [show (op.perform r).2.session.state = .absent from absent] at present
      cases present
  | append_singleton since last ih =>
    have whole : r.performAll (op :: (since ++ [last])) =
        (last.perform (r.performAll (op :: since))).2 :=
      performAll_concat (op :: since) last r
    have calls := unasked_concat r path (op :: since) last
    rw [List.cons_append] at calls
    have soundBefore := performAll_sound sound (op :: since)
    have silentBefore := performAll_silent sound heard (op :: since)
    have acts := performAll_acts (op.perform_sound sound) since
    have more := last.perform_acts soundBefore
    rw [whole] at stays ⊢
    rw [removed_trans acts.trace_extends more.trace_extends, not_or] at stays
    obtain ⟨few, none, here⟩ := ih stays.1
    have still := (more.stays_or_removed here).resolve_right stays.2
    rw [calls]
    refine ⟨?_, fun absent => ?_, still⟩
    · rcases unasked_one soundBefore silentBefore path last with nothing | ⟨one, fetches⟩
      · rw [nothing, List.append_nil]
        exact few
      · rcases fetches.cause with ⟨_, unregistered | removed⟩ | ⟨absent, _⟩
        · rw [unregistered] at here
          cases here
        · exact absurd removed stays.2
        · rw [none absent, List.nil_append]
          exact Nat.le_of_eq one
    · have nothing : (r.performAll (op :: since)).unasked path [last] = [] := by
        refine (unasked_one soundBefore silentBefore path last).resolve_right fun ⟨_, fetches⟩ => ?_
        have present := fetches.present
        rw [absent] at present
        cases present
      rcases Operation.absent_after soundBefore absent with before | empty
      · rw [none before, nothing, List.append_nil]
      · rw [empty] at still
        cases still

end Run

/-- Discovery follows what elements list, in every session that a history leads to. While the
service has an owner, a reply to a fetch that can be read, and a change of a property, be it made by
the application or announced by a signal, lead to the discovery of the children that are listed
then; of several changes that are announced at once, one after the other is followed. What the
session asks for on its own are fetches: an operation that asks for no call sends none to the object
at a path, or it sends one, and registers an element there, or brings the owner that the root waited
for. So whatever is listed, from the registration of an element until its removal at most one call
is sent to it that nobody asked for. -/
theorem discovery_follows_lists (config : Config) (numbering : Numbering) (listing : Listing)
    (ops : List Operation) :
    let start := Run.start config numbering listing
    let r := start.performAll ops
    let after (op : Operation) : Run := (op.perform r).2
    (r.session.state.isPresent →
      (∀ call path kind result fetched args,
        Table.get? r.session.callRoutes call = some (.element path kind .sync) →
        fetchedOf result = .ok (fetched, args) →
        ∃ e, r.Discovers (after (.dispatch (.reply call result))) path e none)
      ∧ (∀ path name value, (r.session.element? path).isSome →
        ∃ e, r.Discovers (after (.change path name value)) path e (some name))
      ∧ (∀ subscription sender member args path name p,
        Table.get? r.session.signalRoutes subscription = some (.propertyChanged path) →
        propertyChangeOf args = .ok (some (name, p)) →
        ∃ e, r.Discovers (after (.dispatch (.signal subscription sender member args))) path e
          (some name))
      ∧ ∀ subscription sender member args path changes e,
        Table.get? r.session.signalRoutes subscription = some (.propertiesChanged path) →
        propertyChangesOf args = .ok (some changes) →
        r.session.element? path = some e → e.interface = changes.interface →
        ∃ r₁, Run.DiscoversEach path r
            ((r.session.listing.entries changes.changed).map Prod.fst) r₁
          ∧ r₁.Touches (after (.dispatch (.signal subscription sender member args))) path)
    ∧ (∀ op path, op.asks = false →
      (after op).callsTo path = r.callsTo path ∨ r.FetchesUnasked op path)
    ∧ ∀ before op since path, ops = before ++ op :: since →
      (start.performAll before).Registers op path →
      ¬ (start.performAll (before ++ [op])).Removed r path →
      ((start.performAll before).unasked path (op :: since)).length ≤ 1 := by
  intro start r after
  have started : start.session.Sound := Run.start_sound config numbering listing
  have sound : r.session.Sound := Run.performAll_sound started ops
  have silent : r.session.Silent := (Run.performAll_heard config numbering listing ops).1
  refine ⟨fun present => ⟨?_, ?_, ?_, ?_⟩, ?_, ?_⟩
  · intro call path kind result fetched args routed read
    exact Operation.reply_discovers sound present routed read
  · intro path name value here
    exact Operation.change_discovers present here name value
  · intro subscription sender member args path name p routed read
    exact Operation.signal_discovers sound present routed read sender member
  · intro subscription sender member args path changes e routed read here interface
    exact Operation.signal_discovers_each present routed read here interface sender member
  · exact fun op path unasked => Operation.unasked_calls sound silent unasked path
  · intro before op since path split registers stays
    have later : r = (start.performAll before).performAll (op :: since) := by
      rw [← Run.performAll_append, ← split]
    rw [Run.performAll_concat, later] at stays
    exact (Run.unasked_since (Run.performAll_sound started before)
      (Run.performAll_heard config numbering listing before) registers stays).1

/-- The root lists a service twice, and itself, and the service is listed once more later. -/
theorem listed_twice_fetched_once :
    let config : Config :=
      { service := "net.connman", rootPath := "/", rootInterface := "net.connman.Manager",
        protocol := .legacy,
        children := [⟨"net.connman.Manager", "Services", "net.connman.Service"⟩] }
    let ops : List Operation :=
      [.init, .dispatch (.ownerChanged ⟨1⟩ "net.connman" "" ":1.5")]
    let reply : Operation := .dispatch (.reply ⟨4⟩ (.ok [.dict (.basic .string) .variant
      [(.string "Services", .variant (.array (.basic .objectPath)
        [.objectPath "/wifi", .objectPath "/", .objectPath "/wifi"]))]]))
    let again : Operation := .change "/" "Services" (.array [.objectPath "/wifi"])
    let r := (Run.start config .counting .ascending).performAll ops
    (∃ e, r.Discovers (reply.perform r).2 "/" e none)
    ∧ r.Registers reply "/wifi"
    ∧ (r.unasked "/wifi" [reply, again]).length ≤ 1 := by
  intro config ops reply again
  have evaluated : let r := (Run.start config .counting .ascending).performAll ops
      (r.session.state, Table.get? r.session.callRoutes ⟨4⟩, r.session.isRegistered "/wifi",
        (reply.perform r).2.session.isRegistered "/wifi",
        (r.performAll [reply, again]).shown Effect.removed?) =
          (.present ":1.5", some (.element "/" .propertiesGet .sync), false, true, []) := by
    subst config ops reply again
    rfl
  have first := discovery_follows_lists config .counting .ascending ops
  have both := discovery_follows_lists config .counting .ascending (ops ++ [reply, again])
  dsimp only at evaluated first both ⊢
  generalize Run.start config .counting .ascending = start at evaluated first both ⊢
  obtain ⟨state, routed, new, made, removed⟩ : _ ∧ _ ∧ _ ∧ _ ∧ _ := by
    simpa only [Prod.mk.injEq] using evaluated
  obtain ⟨discovers, _, _⟩ := first
  obtain ⟨_, _, once⟩ := both
  have present : (start.performAll ops).session.state.isPresent := by
    rw [state]
    rfl
  have registers : (start.performAll ops).Registers reply "/wifi" :=
    ⟨made, .inl (Session.isRegistered_eq_false_iff.mp new)⟩
  refine ⟨(discovers present).1 ⟨4⟩ "/" _ _ _ _ routed rfl, registers, ?_⟩
  refine once ops reply [again] "/wifi" rfl registers ?_
  rw [Run.performAll_append, Run.performAll_append]
  unfold Run.Removed
  rw [removed, List.drop_nil]
  exact List.not_mem_nil

end BusCache
