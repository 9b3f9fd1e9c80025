import BusCache.Proofs.Session.Silence
import BusCache.Proofs.Session.Teardown
import Mathlib.Data.List.Chain

/-!
# Service events — up and down in turn

A session announces the service up when an owner comes, and down when the owner goes. So the two
take turns, and the last of them says how the service is. Whoever comes, the root is fetched from
the new owner before the service is announced up, whatever was done with the root before. A
notification that tells nothing new does nothing.
-/

namespace BusCache

/-! ## 1. What was announced -/

/-- The announcements about a service that lead to what is known of its owner. -/
inductive ServiceState.Announced (root : Path) : ServiceState → List Event → Prop
  | nothing : Announced root .absent []
  | up {events : List Event} {owner : String} (before : Announced root .absent events)
      (named : owner.isEmpty = false) :
      Announced root (.present owner) (events ++ [⟨.serviceUp, root, .owner owner⟩])
  | down {events : List Event} {owner : String} (before : Announced root (.present owner) events) :
      Announced root .absent (events ++ [⟨.serviceDown, root, .none⟩])

namespace ServiceState.Announced

variable {root : Path} {state : ServiceState} {events : List Event} {owner : String}

theorem named (h : Announced root (.present owner) events) : owner.isEmpty = false := by
  cases h
  assumption

theorem last_up (h : Announced root state events) (owner : String) :
    state = .present owner ↔
      ∃ path, events.getLast? = some ⟨.serviceUp, path, .owner owner⟩ := by
  cases h with
  | nothing => simp
  | up before named => simp
  | down before => simp

/-- A service that nothing was announced about is as if it was announced down. -/
theorem last_kind (h : Announced root state events) :
    (EventKind.serviceDown :: events.map Event.kind).getLast? =
      some (if state.isPresent then .serviceUp else .serviceDown) := by
  cases h with
  | nothing => rfl
  | up before named =>
    rw [List.map_append, ← List.cons_append]
    exact List.getLast?_concat
  | down before =>
    rw [List.map_append, ← List.cons_append]
    exact List.getLast?_concat

theorem alternate (h : Announced root state events) :
    (EventKind.serviceDown :: events.map Event.kind).IsChain (· ≠ ·) := by
  induction h with
  | nothing => exact List.isChain_singleton _
  | up before named ih =>
    rw [List.map_append, ← List.cons_append, List.isChain_append]
    refine ⟨ih, List.isChain_singleton _, ?_⟩
    rw [before.last_kind]
    simp [isPresent]
  | down before ih =>
    rw [List.map_append, ← List.cons_append, List.isChain_append]
    refine ⟨ih, List.isChain_singleton _, ?_⟩
    rw [before.last_kind]
    simp [isPresent]

end ServiceState.Announced

/-- What was announced about the service as a whole. -/
def Run.announcements (r : Run) : List Event := r.events.filter fun e => e.kind.ofService

/-- What is known of the owner is what was announced. -/
def Run.Announced (r : Run) : Prop :=
  r.session.state.Announced r.session.config.rootPath r.announcements

namespace Run

variable {r r' : Run}

theorem announcements_of_quiet
    (shown : ∃ quiet, r'.events = r.events ++ quiet ∧ ∀ e ∈ quiet, e.kind.ofService = false) :
    r'.announcements = r.announcements := by
  obtain ⟨quiet, events, about⟩ := shown
  unfold announcements
  rw [events, List.filter_append, List.append_right_eq_self, List.filter_eq_nil_iff]
  exact fun e he => by rw [about e he]; exact Bool.false_ne_true

theorem enter_announcements (owner : String) (r : Run) :
    (r.enter owner).announcements =
      r.announcements ++ [⟨.serviceUp, r.session.config.rootPath, .owner owner⟩] := by
  unfold announcements
  rw [enter_events, List.filter_append]
  rfl

theorem exit_announcements (r : Run) :
    r.exit.announcements =
      r.announcements ++ [⟨.serviceDown, r.session.config.rootPath, .none⟩] := by
  rw [← announcements_of_quiet (removeAll_events r)]
  unfold announcements
  rw [exit_events, List.filter_append]
  rfl

theorem Announced.of_quiet (h : r.Announced)
    (shown : ∃ quiet, r'.events = r.events ++ quiet ∧ ∀ e ∈ quiet, e.kind.ofService = false)
    (setup : Act.SameSetup r.session r'.session) (state : r'.session.state = r.session.state) :
    r'.Announced := by
  unfold Announced
  rw [announcements_of_quiet shown, setup.config, state]
  exact h

theorem Announced.exit (h : r.Announced) (present : ∃ owner, r.session.state = .present owner) :
    r.exit.Announced := by
  obtain ⟨owner, present⟩ := present
  unfold Announced at h ⊢
  rw [exit_announcements, (exit_steps r).sameSetup.config]
  rw [present] at h
  exact .down h

theorem Announced.enter (h : r.Announced) (absent : r.session.state = .absent) {owner : String}
    (named : owner.isEmpty = false) : (r.enter owner).Announced := by
  unfold Announced at h ⊢
  rw [enter_announcements, (enter_steps owner r).sameSetup.config, enter_state]
  rw [absent] at h
  exact .up h named

theorem Announced.ownerChanged (h : r.Announced) (oldOwner newOwner : String) :
    (r.ownerChanged oldOwner newOwner).Announced := by
  unfold Run.ownerChanged
  split
  · rename_i enters
    obtain ⟨absent, _, named⟩ := ServiceState.classify_enter enters
    exact h.enter absent named
  · rename_i exits
    exact h.exit (ServiceState.classify_exit exits)
  · rename_i replaces
    obtain ⟨present, _, named⟩ := ServiceState.classify_replace replaces
    exact (h.exit present).enter (exit_state r) named
  · exact h

theorem Announced.shutdown (h : r.Announced) (last : r.session.users = 1) :
    r.shutdown.Announced := by
  have left : (if (r.setUsers 0).session.state.isPresent then (r.setUsers 0).exit
      else (r.setUsers 0).removeAll).Announced := by
    have counted : (r.setUsers 0).Announced := h
    split
    · rename_i present
      exact counted.exit (ServiceState.exists_owner present)
    · have inside := removeAll_inside (r.setUsers 0)
      apply counted.of_quiet inside.inside_events inside.sameSetup
      unfold Session.state
      rw [inside.inside_ownership]
  rw [shutdown_one last]
  generalize (if (r.setUsers 0).session.state.isPresent then (r.setUsers 0).exit
    else (r.setUsers 0).removeAll) = down at left ⊢
  -- giving up the watch and the question announces nothing
  have closed : Steps (fun _ => True) down down.closeWatch.closeQuery :=
    (Steps.one (a := .closeWatch) trivial trivial).trans
      (Steps.one (a := .closeQuery) trivial trivial)
  apply left.of_quiet _ closed.sameSetup
  · unfold Session.state
    rw [closeQuery_ownership, closeWatch_ownership]
  · refine ⟨[], ?_, fun _ h => absurd h List.not_mem_nil⟩
    rw [(closed_shown down).1, List.append_nil]

end Run

theorem Operation.perform_announced {r : Run} (sound : r.session.Sound) (h : r.Announced)
    (op : Operation) : (op.perform r).2.Announced := by
  have inside : ∀ {q}, Steps Act.Inside r q → q.Announced := by
    intro q steps
    apply h.of_quiet steps.inside_events steps.sameSetup
    unfold Session.state
    rw [steps.inside_ownership]
  cases op.turn sound with
  | works steps => exact inside steps.works_inside
  | removes path after =>
    rw [after]
    exact inside (Run.removeTree_inside path r)
  | starts unused after =>
    have quiet : ∃ quiet, (r.setUsers 1).openWatch.openQuery.events = r.events ++ quiet
        ∧ ∀ e ∈ quiet, e.kind.ofService = false := by
      refine ⟨[], ?_, fun _ h => absurd h List.not_mem_nil⟩
      rw [Run.opened_events, List.append_nil]
    rw [after]
    exact h.of_quiet quiet ⟨rfl, rfl⟩ rfl
  | counts users before left after =>
    rw [after]
    exact h
  | ends last shut after =>
    rw [after]
    exact h.shutdown last
  | notified subscription oldOwner newOwner event watched after =>
    rw [after]
    exact h.ownerChanged oldOwner newOwner
  | answered call result event enabled after =>
    have settled : ((Act.answerQuery call).perform r).Announced := h
    rcases after with after | ⟨owner, after⟩
    · rw [after]
      exact settled
    · rw [after]
      exact settled.ownerChanged "" owner

/-! ## 2. An owner comes -/

/-- From a run to a later one an owner came. The root is registered, and the one call under way on
it is a fetch of its properties from that owner. It is the one call that was sent, and the service
was announced up after it. -/
structure Run.Arrives (r r' : Run) (owner : String) (fetch : CallId) (root : Element) : Prop where
  registered : r'.session.element? r.session.config.rootPath = some root
  pending : root.pending = [(.propertiesGet, ⟨fetch, none⟩)]
  calls : r'.shown Effect.call? = r.shown Effect.call?
    ++ [(fetch, r.session.config.protocol.fetch owner r.session.config.rootPath root.interface)]
  announced : ∃ before asked, r.trace <+: before ∧ r'.trace = before
    ++ [⟨.call fetch (r.session.config.protocol.fetch owner r.session.config.rootPath
          root.interface), asked⟩,
        ⟨.event ⟨.serviceUp, r.session.config.rootPath, .owner owner⟩
          (r'.session.handlers .serviceUp), r'.session⟩]

theorem Steps.removes_calls {r r' : Run} (h : Steps Act.Removes r r') :
    r'.shown Effect.call? = r.shown Effect.call? := by
  apply h.shown_eq
  intro q a removes enabled
  cases a with
  | release path =>
    obtain ⟨e, here⟩ := Option.isSome_iff_exists.mp enabled
    exact Act.release_unseen (fun _ => rfl) (fun _ => rfl) (fun _ _ => rfl) (fun _ _ => rfl) here
  | _ => exact removes.elim

/-- Registering and subscribing send no call. -/
theorem Steps.prepares_calls {r r' : Run} (h : Steps Act.Prepares r r') :
    r'.shown Effect.call? = r.shown Effect.call? := by
  apply h.shown_eq
  intro q a prepares _
  cases a <;> first | exact prepares.elim | rfl

namespace Run

variable {r : Run}

/-- The root is fetched from an owner that comes, as no call was under way on it before. -/
theorem enter_arrives (still : r.session.Still) (owner : String) :
    ∃ fetch root, r.Arrives (r.enter owner) owner fetch root := by
  obtain ⟨ready, prepares, here, entered⟩ := enter_prepares owner r
  obtain ⟨x, here⟩ := Option.isSome_iff_exists.mp here
  have state : ready.session.state = .present owner := by
    unfold Session.state
    rw [(prepares.mono Act.Prepares.grows).ownership_eq]
    rfl
  have present : ready.session.state.isPresent := by
    rw [state]
    rfl
  have config : ready.session.config = r.session.config := prepares.sameSetup.config
  have free : ∀ kind, ready.session.slot? r.session.config.rootPath kind = none := by
    intro kind
    rw [prepares.slot?_eq]
    exact still.slot r.session.config.rootPath kind
  have subscribes := (Attempt.subscribeChanges_steps r.session.config.rootPath ready).mono
    Act.Subscribes.prepares
  obtain ⟨_, _, _, root, now, interface⟩ := Attempt.subscribeChanges_asks present here
  have destination : ready.session.destination = owner := Session.destination_of_present state
  rw [Attempt.sync_eq present here (free .propertiesGet), config, destination,
    ← interface] at entered
  have calls := (prepares.trans subscribes).prepares_calls
  have shown := (prepares.trans subscribes).trace_extends
  have idle : root.pending = [] := by
    refine (Table.eq_nil_iff _).mpr fun kind => ?_
    have none := (subscribes.slot?_eq r.session.config.rootPath kind).trans (free kind)
    unfold Session.slot? at none
    rwa [Session.look_of_element? now] at none
  generalize (Attempt.subscribeChanges r.session.config.rootPath ready).2 = q
    at now entered calls shown
  have trace : (r.enter owner).trace = q.trace
      ++ [⟨.call q.nextCall (r.session.config.protocol.fetch owner r.session.config.rootPath
            root.interface), q.session⟩,
          ⟨.event ⟨.serviceUp, r.session.config.rootPath, .owner owner⟩
            ((r.enter owner).session.handlers .serviceUp), (r.enter owner).session⟩] := by
    rw [entered]
    exact List.append_assoc _ _ _
  refine ⟨q.nextCall, root.track .propertiesGet ⟨q.nextCall, none⟩, ?_, ?_, ?_, ?_⟩
  · rw [entered]
    exact Session.element?_of_modified_self (q.sendCall_registry _ _ _ _ _) now
  · unfold Element.track
    rw [idle]
    rfl
  · rw [shown_append Effect.call? trace, calls]
    rfl
  · exact ⟨q.trace, q.session, shown, trace⟩

/-- What was done before the owner came sent no call. -/
theorem Arrives.after {q r' : Run} {owner : String} {fetch : CallId} {root : Element}
    (h : q.Arrives r' owner fetch root) (config : q.session.config = r.session.config)
    (before : r.trace <+: q.trace) (uncalled : q.shown Effect.call? = r.shown Effect.call?) :
    r.Arrives r' owner fetch root := by
  obtain ⟨registered, pending, calls, start, asked, shown, trace⟩ := h
  rw [config] at registered calls trace
  rw [uncalled] at calls
  exact ⟨registered, pending, calls, start, asked, before.trans shown, trace⟩

theorem exit_calls (r : Run) : r.exit.shown Effect.call? = r.shown Effect.call? := by
  rw [exit_shown fun _ _ => rfl]
  exact (removeAll_steps r).removes_calls

/-- What an owner finds that comes: nothing is under way, no call was sent meanwhile, and the
elements are those of a time without an owner, or none. -/
structure Finds (r q : Run) : Prop where
  routed : q.session.Routed
  still : q.session.Still
  config : q.session.config = r.session.config
  extends_ : r.trace <+: q.trace
  uncalled : q.shown Effect.call? = r.shown Effect.call?
  elements : r.session.state = .absent ∧ q.session.registry = r.session.registry
    ∨ ∀ p, q.session.element? p = none

theorem Finds.arrives {q : Run} (h : r.Finds q) (owner : String) :
    ∃ fetch root, r.Arrives (q.enter owner) owner fetch root := by
  obtain ⟨fetch, root, arrives⟩ := enter_arrives h.still owner
  exact ⟨fetch, root, arrives.after h.config h.extends_ h.uncalled⟩

/-- Whoever is present after a notification and was not before it came with it. -/
theorem ownerChanged_enters (routed : r.session.Routed) (silent : r.session.Silent)
    {oldOwner newOwner owner : String}
    (present : (r.ownerChanged oldOwner newOwner).session.state = .present owner)
    (other : r.session.state ≠ .present owner) :
    ∃ q, r.Finds q ∧ r.ownerChanged oldOwner newOwner = q.enter owner := by
  unfold ownerChanged at present ⊢
  split at present
  · rename_i name enters
    rw [enter_state] at present
    cases present
    have absent := (ServiceState.classify_enter enters).1
    exact ⟨r, ⟨routed, silent absent, rfl, List.prefix_refl _, rfl, .inl ⟨absent, rfl⟩⟩, rfl⟩
  · rw [exit_state] at present
    cases present
  · rename_i name replaces
    rw [enter_state] at present
    cases present
    have empty : ∀ p, r.exit.session.element? p = none := removeAll_element? r
    exact ⟨r.exit, ⟨(exit_steps r).routed routed, Session.still_of_empty empty,
      (exit_steps r).sameSetup.config, (exit_steps r).trace_extends, exit_calls r, .inr empty⟩, rfl⟩
  · exact absurd present other

end Run

theorem Operation.perform_enters {r : Run} (sound : r.session.Sound) (silent : r.session.Silent)
    (op : Operation) {owner : String} (present : (op.perform r).2.session.state = .present owner)
    (other : r.session.state ≠ .present owner) :
    ∃ q, r.Finds q ∧ (op.perform r).2 = q.enter owner := by
  have unmoved : (op.perform r).2.session.ownership = r.session.ownership →
      ∃ q, r.Finds q ∧ (op.perform r).2 = q.enter owner := by
    intro same
    unfold Session.state at present other
    rw [same] at present
    exact absurd present other
  cases op.turn sound with
  | works steps => exact unmoved steps.works_inside.inside_ownership
  | removes path after =>
    apply unmoved
    rw [after, (Run.removeTree_inside path r).inside_ownership]
  | starts unused after =>
    rw [after] at present
    exact absurd present other
  | counts users before left after =>
    rw [after] at present
    exact absurd present other
  | ends last shut after =>
    rw [after, Run.shutdown_last_state last] at present
    cases present
  | notified subscription oldOwner newOwner event watched after =>
    rw [after] at present ⊢
    exact Run.ownerChanged_enters sound.routed silent present other
  | answered call result event enabled after =>
    have settled : ((Act.answerQuery call).perform r).session.Silent :=
      fun absent => (silent absent).of_registry_eq rfl
    rcases after with after | ⟨name, after⟩
    · rw [after] at present
      exact absurd present other
    · rw [after] at present ⊢
      obtain ⟨q, finds, entered⟩ :=
        Run.ownerChanged_enters (enabled.routed sound.routed) settled present other
      exact ⟨q, ⟨finds.routed, finds.still, finds.config, finds.extends_, finds.uncalled,
        finds.elements⟩, entered⟩

theorem Operation.perform_arrives {r : Run} (sound : r.session.Sound) (silent : r.session.Silent)
    (op : Operation) {owner : String} (present : (op.perform r).2.session.state = .present owner)
    (other : r.session.state ≠ .present owner) :
    ∃ fetch root, r.Arrives (op.perform r).2 owner fetch root := by
  obtain ⟨q, finds, entered⟩ := op.perform_enters sound silent present other
  rw [entered]
  exact finds.arrives owner

/-! ## 3. No news -/

/-- What means nothing does nothing, wherever it is delivered. -/
theorem Run.handleOwnerChanged_ignored {r : Run} {oldOwner newOwner : String}
    (ignored : r.session.state.classify oldOwner newOwner = .ignore)
    (subscription : SubscriptionId) (name : String) :
    r.handleOwnerChanged subscription name oldOwner newOwner = r := by
  unfold handleOwnerChanged
  split
  · unfold ownerChanged
    rw [ignored]
  · rfl

/-! ## 4. Histories -/

/-- In every history the service is announced up and down in turn, up first. It is present with an
owner exactly if the last announcement is that it is up with this owner. Whatever operation comes
next, if it leaves the service present with an owner that it did not have before, the root is
registered then, and one call is under way on it: a fetch of its properties, the one call that was
sent, to the new owner and before the service was announced up. A notification that names the known
owner, and one that some owner left who is not the known one, leave everything as it is. -/
theorem service_events_alternate (config : Config) (numbering : Numbering) (listing : Listing)
    (ops : List Operation) :
    let r := (Run.start config numbering listing).performAll ops
    (EventKind.serviceDown :: r.announcements.map Event.kind).IsChain (· ≠ ·)
    ∧ (∀ owner, r.session.state = .present owner ↔
        ∃ path, r.announcements.getLast? = some ⟨.serviceUp, path, .owner owner⟩)
    ∧ (∀ (op : Operation) owner, (op.perform r).2.session.state = .present owner →
        r.session.state ≠ .present owner →
        ∃ fetch root, r.Arrives (op.perform r).2 owner fetch root)
    ∧ ∀ subscription name oldOwner newOwner,
        (r.session.state = .present newOwner
          ∨ newOwner = "" ∧ oldOwner ≠ "" ∧ r.session.state ≠ .present oldOwner) →
        (Operation.dispatch (.ownerChanged subscription name oldOwner newOwner)).perform r =
          (.ok .done, r) := by
  intro r
  have started := Run.start_sound config numbering listing
  have sound : r.session.Sound := Run.performAll_sound started ops
  have silent : r.session.Silent := (Run.performAll_heard config numbering listing ops).1
  have announced : r.Announced :=
    Run.performAll_sound_keeps (I := Run.Announced)
      (fun _ op sound kept => op.perform_announced sound kept) started .nothing ops
  refine ⟨announced.alternate, announced.last_up, ?_, ?_⟩
  · exact fun op owner present other => op.perform_arrives sound silent present other
  · intro subscription name oldOwner newOwner nothing
    have ignored : r.session.state.classify oldOwner newOwner = .ignore := by
      rcases nothing with known | ⟨rfl, named, other⟩
      · unfold Run.Announced at announced
        rw [known] at announced ⊢
        exact ServiceState.classify_known announced.named
      · exact ServiceState.classify_stale (String.isEmpty_eq_false_iff.mpr named) other
    rw [Operation.perform_dispatch]
    exact congrArg _ (Run.handleOwnerChanged_ignored ignored subscription name)

/-- The root was created and changed before an owner came, and before that some owner left. -/
theorem owner_finds_created_root :
    let config : Config :=
      { service := "net.connman", rootPath := "/", rootInterface := "net.connman.Manager",
        protocol := .legacy }
    let ops : List Operation :=
      [.init, .create "/" "net.connman.Clock", .change "/" "Time" (.string "noon")]
    let r := (Run.start config .counting .ascending).performAll ops
    r.session.state = .absent
    ∧ r.session.property "/" "Time" = .ok (.string "noon")
    ∧ (Operation.dispatch (.ownerChanged ⟨1⟩ "net.connman" ":1.5" "")).perform r = (.ok .done, r)
    ∧ ∃ fetch root, r.Arrives ((Operation.dispatch
        (.ownerChanged ⟨1⟩ "net.connman" "" ":1.7")).perform r).2 ":1.7" fetch root := by
  intro config ops
  have evaluated : let r := (Run.start config .counting .ascending).performAll ops
      (r.session.state, r.session.property "/" "Time", ((Operation.dispatch
        (.ownerChanged ⟨1⟩ "net.connman" "" ":1.7")).perform r).2.session.state) =
          (.absent, .ok (.string "noon"), .present ":1.7") := by subst config ops; rfl
  obtain ⟨_, _, arrives, ignored⟩ :=
    service_events_alternate config .counting .ascending ops
  generalize (Run.start config .counting .ascending).performAll ops = r
    at evaluated arrives ignored ⊢
  obtain ⟨absent, held, present⟩ : _ ∧ _ ∧ _ := by simpa only [Prod.mk.injEq] using evaluated
  have unknown : ∀ owner, r.session.state ≠ .present owner := by
    intro owner same
    rw [absent] at same
    cases same
  exact ⟨absent, held, ignored ⟨1⟩ _ _ _ (.inr ⟨rfl, by decide, unknown ":1.5"⟩),
    arrives _ ":1.7" present (unknown ":1.7")⟩

end BusCache
