import BusCache.Proofs.Session.Announcements

/-!
# Silence — an absent service is not heard of

Without an owner no call is sent and nothing is subscribed to, whatever elements the application
creates and changes in the meantime. So no reply and no signal of an element can come in, and all
that a delivery can do is to bring the service up. What was announced last about the service is
how it is.
-/

namespace BusCache

/-! ## 1. Nothing is under way -/

namespace Session

/-- While the service is absent no element awaits a call or holds a subscription. -/
def Silent (s : Session) : Prop := s.state = .absent → s.Still

theorem silent_of_present {s : Session} {owner : String} (present : s.state = .present owner) :
    s.Silent := by
  intro absent
  rw [present] at absent
  cases absent

theorem Still.of_registry_eq {s t : Session} (still : s.Still) (h : t.registry = s.registry) :
    t.Still where
  slot path kind := (look_of_registry_eq h path).trans (still.slot path kind)
  subscription path member := (look_of_registry_eq h path).trans (still.subscription path member)

theorem Still.element {s : Session} (still : s.Still) {path : Path} {e : Element}
    (here : s.element? path = some e) : e.pending = [] ∧ e.subscriptions = [] := by
  constructor
  · refine (Table.eq_nil_iff _).mpr fun kind => ?_
    have none := still.slot path kind
    unfold slot? at none
    rwa [look_of_element? here] at none
  · refine (Table.eq_nil_iff _).mpr fun member => ?_
    have none := still.subscription path member
    unfold subscription? at none
    rwa [look_of_element? here] at none

end Session

theorem Act.Inside.still {a : Act} {r : Run} (inside : a.Inside) (enabled : a.Enabled r.session)
    (absent : r.session.state = .absent) (still : r.session.Still) :
    (a.perform r).session.Still := by
  have unmoved : ¬ a.MovesCalls → ¬ a.MovesSignals → (a.perform r).session.Still := by
    intro calls signals
    constructor
    · exact fun path kind => ((enabled.sameCalls calls).slot path kind).trans (still.slot path kind)
    · exact fun path member =>
        ((enabled.sameSignals signals).subscription path member).trans
          (still.subscription path member)
  cases a with
  | send path kind purpose completion call =>
    -- nothing is sent to a service without an owner
    have present := enabled.1
    rw [absent] at present
    cases present
  | subscribe path rule route =>
    have present := enabled.1
    rw [absent] at present
    cases present
  | answer call path kind =>
    obtain ⟨_, slot, held, _⟩ := enabled
    rw [still.slot] at held
    cases held
  | release path =>
    obtain ⟨e, here⟩ := Option.isSome_iff_exists.mp enabled
    have erased : ((Act.release path).perform r).session.registry =
        Table.erase r.session.registry path := by
      show (r.releaseElement path).session.registry = _
      rw [Run.releaseElement_session here]
    constructor
    · intro p kind
      unfold Session.slot?
      rw [Session.look_of_erased erased]
      split
      · rfl
      · exact still.slot p kind
    · intro p member
      unfold Session.subscription?
      rw [Session.look_of_erased erased]
      split
      · rfl
      · exact still.subscription p member
  | _ => first | exact inside.elim False.elim False.elim | exact unmoved id id

theorem Steps.inside_silent {r r' : Run} (h : Steps Act.Inside r r') (silent : r.session.Silent) :
    r'.session.Silent := by
  apply h.preserves (I := fun q => q.session.Silent) _ silent
  intro q a inside enabled silent absent
  unfold Session.state at absent
  rw [inside.ownership_eq enabled] at absent
  exact inside.still enabled absent (silent absent)

/-! ## 2. What is announced is so -/

/-- The service was announced down, and not up since. -/
def AnnouncedDown (events : List Event) : Prop :=
  ∃ older down since, events = older ++ down :: since ∧ down.kind = .serviceDown
    ∧ ∀ e ∈ since, e.kind ≠ .serviceUp

theorem announcedDown_concat (events : List Event) (e : Event) :
    AnnouncedDown (events ++ [e]) ↔
      e.kind = .serviceDown ∨ e.kind ≠ .serviceUp ∧ AnnouncedDown events := by
  constructor
  · intro ⟨older, down, since, split, isDown, noUp⟩
    rcases concat_eq_append_cons_iff.mp split with ⟨_, _, rfl⟩ | ⟨rest, rfl, same⟩
    · exact .inl isDown
    · refine .inr ⟨noUp e (List.mem_append_right _ (List.mem_singleton_self e)), ?_⟩
      exact ⟨older, down, rest, same, isDown, fun x hx => noUp x (List.mem_append_left _ hx)⟩
  · rintro (isDown | ⟨notUp, older, down, since, rfl, isDown, noUp⟩)
    · exact ⟨events, e, [], rfl, isDown, fun _ h => absurd h List.not_mem_nil⟩
    · refine ⟨older, down, since ++ [e], ?_, isDown, ?_⟩
      · rw [List.append_assoc, List.cons_append]
      · intro x hx
        rcases List.mem_append.mp hx with old | new
        · exact noUp x old
        · rwa [List.mem_singleton.mp new]

/-- Events about elements announce nothing about the service. -/
theorem AnnouncedDown.of_quiet {events quiet : List Event}
    (about : ∀ e ∈ quiet, e.kind.ofService = false) (h : AnnouncedDown (events ++ quiet)) :
    AnnouncedDown events := by
  induction quiet using List.reverseRecOn with
  | nil => rwa [List.append_nil] at h
  | append_singleton quiet e ih =>
    rw [← List.append_assoc, announcedDown_concat] at h
    have element := about e (List.mem_append_right _ (List.mem_singleton_self e))
    rcases h with isDown | ⟨_, before⟩
    · rw [isDown] at element
      cases element
    · exact ih (fun x hx => about x (List.mem_append_left _ hx)) before

namespace Run

/-- A service that was announced down is absent. -/
def Truthful (r : Run) : Prop := AnnouncedDown r.events → r.session.state = .absent

variable {r r' : Run}

theorem Truthful.of_quiet (h : r.Truthful)
    (shown : ∃ quiet, r'.events = r.events ++ quiet ∧ ∀ e ∈ quiet, e.kind.ofService = false)
    (same : r'.session.ownership = r.session.ownership) : r'.Truthful := by
  intro down
  obtain ⟨quiet, events, about⟩ := shown
  rw [events] at down
  unfold Session.state
  rw [same]
  exact h (down.of_quiet about)

theorem enter_truthful (owner : String) (r : Run) : (r.enter owner).Truthful := by
  intro down
  rw [enter_events, announcedDown_concat] at down
  rcases down with isDown | ⟨notUp, _⟩
  · cases isDown
  · exact absurd rfl notUp

/-- An owner that comes makes the service present, and one that goes leaves nothing behind. -/
theorem ownerChanged_heard (oldOwner newOwner : String) (silent : r.session.Silent)
    (truthful : r.Truthful) :
    (r.ownerChanged oldOwner newOwner).session.Silent
      ∧ (r.ownerChanged oldOwner newOwner).Truthful := by
  unfold ownerChanged
  split
  · exact ⟨Session.silent_of_present (enter_state _ r), enter_truthful _ r⟩
  · exact ⟨fun _ => Session.still_of_empty (removeAll_element? r), fun _ => exit_state r⟩
  · exact ⟨Session.silent_of_present (enter_state _ _), enter_truthful _ _⟩
  · exact ⟨silent, truthful⟩

end Run

namespace Operation

theorem perform_heard {r : Run} (sound : r.session.Sound) (silent : r.session.Silent)
    (truthful : r.Truthful) (op : Operation) :
    (op.perform r).2.session.Silent ∧ (op.perform r).2.Truthful := by
  -- what stays within the elements keeps the owner, and shows events about elements alone
  have inside : ∀ {q}, Steps Act.Inside r q → q.session.Silent ∧ q.Truthful := fun steps =>
    ⟨steps.inside_silent silent, truthful.of_quiet steps.inside_events steps.inside_ownership⟩
  cases op.turn sound with
  | works steps => exact inside steps.works_inside
  | removes path after =>
    rw [after]
    exact inside (Run.removeTree_inside path r)
  | starts unused after =>
    rw [after]
    refine ⟨fun absent => (silent absent).of_registry_eq rfl, fun down => ?_⟩
    rw [Run.opened_events] at down
    exact truthful down
  | counts users before left after =>
    rw [after]
    exact ⟨fun absent => (silent absent).of_registry_eq rfl, truthful⟩
  | ends last shut after =>
    rw [after]
    exact ⟨fun _ => Session.still_of_empty (Run.shutdown_last last).1,
      fun _ => Run.shutdown_last_state last⟩
  | notified subscription oldOwner newOwner event watched after =>
    rw [after]
    exact Run.ownerChanged_heard oldOwner newOwner silent truthful
  | answered call result event enabled after =>
    have settled : ((Act.answerQuery call).perform r).session.Silent :=
      fun absent => (silent absent).of_registry_eq rfl
    rcases after with after | ⟨owner, after⟩
    · rw [after]
      exact ⟨settled, truthful⟩
    · rw [after]
      exact Run.ownerChanged_heard "" owner settled truthful

end Operation

/-! ## 3. Deliveries -/

namespace Run

variable {r : Run}

theorem ownerChanged_absent (absent : r.session.state = .absent) (oldOwner newOwner : String) :
    r.ownerChanged oldOwner newOwner = r
      ∨ r.ownerChanged oldOwner newOwner = r.enter newOwner := by
  unfold ownerChanged ServiceState.classify
  rw [absent]
  dsimp only
  cases newOwner.isEmpty with
  | true => exact .inl rfl
  | false => exact .inr rfl

/-- While the service is absent, a delivery settles the question who owns the name at most, and
brings the service up at most. -/
theorem dispatch_absent (routed : r.session.Routed) (absent : r.session.state = .absent)
    (still : r.session.Still) (event : BusEvent) :
    ∃ settled : Run, settled.events = r.events
      ∧ settled.session.config = r.session.config
      ∧ settled.session.registry = r.session.registry
      ∧ (r.dispatch event = settled ∨ ∃ owner, r.dispatch event = settled.enter owner) := by
  have nothing : r.dispatch event = r → ∃ settled : Run, settled.events = r.events
      ∧ settled.session.config = r.session.config
      ∧ settled.session.registry = r.session.registry
      ∧ (r.dispatch event = settled ∨ ∃ owner, r.dispatch event = settled.enter owner) :=
    fun same => ⟨r, rfl, rfl, rfl, .inl same⟩
  cases event with
  | reply call result =>
    cases found : Table.get? r.session.callRoutes call with
    | none => exact nothing (handleReply_of_none found result)
    | some route =>
      rw [routed.calls.of_still still found] at found
      have asked := (routed.calls.owner call).mp found
      refine ⟨(Act.answerQuery call).perform r, rfl, rfl, rfl, ?_⟩
      show r.handleReply call result = _ ∨ ∃ owner, r.handleReply call result = _
      rcases handleReply_query_cases ⟨found, asked⟩ result with after | ⟨owner, after⟩
      · exact .inl after
      · rw [after]
        have settled : ((Act.answerQuery call).perform r).session.state = .absent := absent
        exact (ownerChanged_absent settled "" owner).imp_right fun h => ⟨owner, h⟩
  | signal subscription path member args =>
    refine nothing ?_
    show r.handleSignal subscription member args = r
    unfold handleSignal
    cases found : Table.get? r.session.signalRoutes subscription with
    | none => rfl
    | some route => rw [routed.signals.of_still still found]
  | ownerChanged subscription name oldOwner newOwner =>
    refine ⟨r, rfl, rfl, rfl, ?_⟩
    show r.handleOwnerChanged subscription name oldOwner newOwner = _ ∨ ∃ owner,
      r.handleOwnerChanged subscription name oldOwner newOwner = _
    unfold handleOwnerChanged
    split
    · exact (ownerChanged_absent absent oldOwner newOwner).imp_right fun h => ⟨newOwner, h⟩
    · exact .inl rfl

theorem dispatch_absent_events (routed : r.session.Routed) (absent : r.session.state = .absent)
    (still : r.session.Still) (event : BusEvent) :
    (r.dispatch event).events = r.events
      ∨ ∃ owner, (r.dispatch event).session.state = .present owner
        ∧ (r.dispatch event).events =
          r.events ++ [⟨.serviceUp, r.session.config.rootPath, .owner owner⟩] := by
  obtain ⟨settled, events, config, _, after | ⟨owner, after⟩⟩ :=
    dispatch_absent routed absent still event
  · rw [after]
    exact .inl events
  · rw [after, enter_events, events, config]
    exact .inr ⟨owner, enter_state owner settled, rfl⟩

/-- An event about an element comes before those about the service, and nothing about the service
comes before it. -/
theorem Announces.quiet_before {r' : Run} (h : r.Announces r') {before after : List Event}
    {e : Event} (shown : r'.events = r.events ++ (before ++ e :: after))
    (element : e.kind.ofService = false) : ∀ x ∈ before, x.kind.ofService = false := by
  obtain ⟨quiet, loud, events, about, of⟩ := h
  rw [events, List.append_cancel_left_eq] at shown
  rcases List.append_eq_append_iff.mp shown with ⟨rest, _, split⟩ | ⟨rest, split, _⟩
  · -- then the event would be one of those about the service
    have service := of e (split ▸ List.mem_append_right _ List.mem_cons_self)
    rw [element] at service
    cases service
  · exact fun x hx => about x (split ▸ List.mem_append_left _ hx)

end Run

/-! ## 4. Histories -/

namespace Run

theorem performAll_heard (config : Config) (numbering : Numbering) (listing : Listing)
    (ops : List Operation) :
    ((start config numbering listing).performAll ops).session.Silent
      ∧ ((start config numbering listing).performAll ops).Truthful := by
  refine performAll_sound_keeps (I := fun q => q.session.Silent ∧ q.Truthful)
    (fun _ op sound heard => op.perform_heard sound heard.1 heard.2)
    (start_sound config numbering listing) ⟨?_, fun _ => rfl⟩ ops
  exact fun _ => Session.still_of_empty fun _ => rfl

end Run

/-- An absent service is silent in every session that a history leads to. Its elements await no call
and hold no subscription, and a delivery shows no event, or one that the service is up, which then
is present. So between the announcement that the service is down and the next one that it is up, no
delivery shows an event about an element. -/
theorem absent_service_silent (config : Config) (numbering : Numbering) (listing : Listing)
    (ops : List Operation) :
    let r := (Run.start config numbering listing).performAll ops
    let after (event : BusEvent) : Run := ((Operation.dispatch event).perform r).2
    (r.session.state = .absent →
      (∀ path e, r.session.element? path = some e → e.pending = [] ∧ e.subscriptions = [])
      ∧ ∀ event, (after event).events = r.events
        ∨ ∃ owner, (after event).session.state = .present owner
          ∧ (after event).events =
            r.events ++ [⟨.serviceUp, r.session.config.rootPath, .owner owner⟩])
    ∧ ∀ event before e since, (after event).events = r.events ++ (before ++ e :: since) →
      AnnouncedDown (r.events ++ before) → e.kind = .serviceUp ∨ e.kind = .serviceDown := by
  intro r after
  have sound : r.session.Sound :=
    Run.performAll_sound (Run.start_sound config numbering listing) ops
  obtain ⟨silent, truthful⟩ : r.session.Silent ∧ r.Truthful :=
    Run.performAll_heard config numbering listing ops
  have dispatched : ∀ event, after event = r.dispatch event :=
    fun event => congrArg Prod.snd (Operation.perform_dispatch event r)
  have deliveries : r.session.state = .absent → ∀ event, (after event).events = r.events
      ∨ ∃ owner, (after event).session.state = .present owner
        ∧ (after event).events =
          r.events ++ [⟨.serviceUp, r.session.config.rootPath, .owner owner⟩] := by
    intro absent event
    rw [dispatched]
    exact Run.dispatch_absent_events sound.routed absent (silent absent) event
  refine ⟨fun absent => ⟨?_, deliveries absent⟩, ?_⟩
  · exact fun path e here => (silent absent).element here
  · intro event before e since shown down
    by_contra notService
    have element : e.kind.ofService = false := by
      cases kind : e.kind <;> simp [kind, EventKind.ofService] at notService ⊢
    -- nothing was announced about the service since, so it was absent when the event came
    have quiet := (Operation.perform_announces sound (.dispatch event)).quiet_before shown element
    rcases deliveries (truthful (down.of_quiet quiet)) event with none | ⟨owner, _, up⟩
    · rw [none, List.self_eq_append_right] at shown
      exact absurd shown (by simp)
    · rw [up, List.append_cancel_left_eq, ← List.nil_append [_]] at shown
      rcases concat_eq_append_cons_iff.mp shown with ⟨_, _, rfl⟩ | ⟨rest, _, none⟩
      · cases element
      · exact absurd none (by simp)

/-- An element that is created when the service has come and gone. -/
theorem created_while_absent_silent :
    let config : Config :=
      { service := "net.connman", rootPath := "/", rootInterface := "net.connman.Manager",
        protocol := .legacy }
    let ops : List Operation :=
      [.init, .dispatch (.ownerChanged ⟨1⟩ "net.connman" "" ":1.5"),
        .dispatch (.ownerChanged ⟨1⟩ "net.connman" ":1.5" ""),
        .create "/wifi" "net.connman.Technology", .sync "/wifi" none]
    let r := (Run.start config .counting .ascending).performAll ops
    r.session.state = .absent
    ∧ (r.session.element? "/wifi").isSome
    ∧ ∀ path e, r.session.element? path = some e → e.pending = [] ∧ e.subscriptions = [] := by
  intro config ops
  have evaluated : (((Run.start config .counting .ascending).performAll ops).session.state,
      (((Run.start config .counting .ascending).performAll ops).session.element? "/wifi").isSome) =
        (.absent, true) := by subst config ops; rfl
  obtain ⟨quiet, _⟩ := absent_service_silent config .counting .ascending ops
  generalize (Run.start config .counting .ascending).performAll ops = r at evaluated quiet ⊢
  obtain ⟨absent, here⟩ := Prod.mk.inj evaluated
  exact ⟨absent, here, (quiet absent).1⟩

end BusCache
