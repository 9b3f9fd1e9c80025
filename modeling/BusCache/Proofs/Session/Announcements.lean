import BusCache.Proofs.Session.Turns

/-!
# Announcements — which events are shown, and in which order

Work on elements and their removal show events about elements only. An owner that comes is announced
by one event, and an owner that goes by one event after the removals. So the events that a delivery
shows are about elements first and about the service last.
-/

namespace BusCache

/-! ## 1. Events about elements -/

namespace Act

theorem Inside.of_element {a : Act} (inside : a.Inside) {r : Run} (enabled : a.Enabled r.session) :
    ∀ e ∈ (a.shows r).filterMap Effect.event?, e.kind.ofService = false := by
  intro e shown
  cases a with
  | release path =>
    obtain ⟨left, here⟩ := Option.isSome_iff_exists.mp enabled
    rw [release_events here, List.mem_singleton] at shown
    rw [shown]
    rfl
  | emit kind path payload =>
    have same : e = ⟨kind, path, payload⟩ := List.mem_singleton.mp shown
    rw [same]
    exact inside.resolve_right id
  | _ => first | exact inside.elim False.elim False.elim | exact absurd shown List.not_mem_nil

end Act

theorem Steps.inside_events {r r' : Run} (h : Steps Act.Inside r r') :
    ∃ quiet, r'.events = r.events ++ quiet ∧ ∀ e ∈ quiet, e.kind.ofService = false := by
  apply h.preserves (I := fun q => ∃ quiet, q.events = r.events ++ quiet
    ∧ ∀ e ∈ quiet, e.kind.ofService = false)
  · intro q a inside enabled ⟨quiet, before, about⟩
    refine ⟨quiet ++ (a.shows q).filterMap Effect.event?, ?_, ?_⟩
    · unfold Run.events at before ⊢
      rw [Act.perform_shown, before, List.append_assoc]
    · intro e he
      rcases List.mem_append.mp he with old | new
      · exact about e old
      · exact inside.of_element enabled e new
  · exact ⟨[], (List.append_nil _).symm, fun _ h => absurd h List.not_mem_nil⟩

/-- Growth shows no event. -/
theorem Steps.grows_events {r r' : Run} (h : Steps Act.Grows r r') : r'.events = r.events := by
  apply h.shown_eq
  intro q a grows _
  cases a <;> first | exact grows.elim | rfl

/-! ## 2. Events about the service -/

namespace Run

variable {r : Run}

theorem emit_events (r : Run) (kind : EventKind) (path : Path) (payload : Payload) :
    (r.emit kind path payload).events = r.events ++ [⟨kind, path, payload⟩] :=
  Act.perform_shown Effect.event? (.emit kind path payload) r

theorem enter_events (owner : String) (r : Run) :
    (r.enter owner).events =
      r.events ++ [⟨.serviceUp, r.session.config.rootPath, .owner owner⟩] := by
  obtain ⟨grown, grows, entered⟩ := enter_grows owner r
  rw [entered, emit_events, grows.grows_events]
  rfl

theorem exit_events (r : Run) :
    r.exit.events =
      r.removeAll.events ++ [⟨.serviceDown, r.session.config.rootPath, .none⟩] :=
  emit_events (r.removeAll.setState .absent) .serviceDown r.session.config.rootPath .none

theorem removeAll_events (r : Run) :
    ∃ quiet, r.removeAll.events = r.events ++ quiet ∧ ∀ e ∈ quiet, e.kind.ofService = false :=
  (removeAll_inside r).inside_events

/-- The first user makes the session watch the name and ask for its owner. -/
theorem opened_shown {α : Type} (f : Effect → Option α) (r : Run) :
    ((r.setUsers 1).openWatch.openQuery).shown f = r.shown f ++
      [Effect.watch (r.session.numbering.subscription r.session.issued) r.session.config.service,
        Effect.query (r.session.numbering.call (r.session.issued + 1))
          r.session.config.service].filterMap f := by
  have watched := Act.perform_shown f .openWatch (r.setUsers 1)
  have asked := Act.perform_shown f .openQuery (r.setUsers 1).openWatch
  refine asked.trans ?_
  rw [show (r.setUsers 1).openWatch.shown f = _ from watched, List.append_assoc,
    ← List.filterMap_append]
  rfl

/-- The first user is not announced. -/
theorem opened_events (r : Run) : (r.setUsers 1).openWatch.openQuery.events = r.events := by
  show ((r.setUsers 1).openWatch.openQuery).shown _ = _
  rw [opened_shown]
  exact List.append_nil _

/-- What the last user gives up when the elements are gone. -/
theorem closed_shown (down : Run) :
    down.closeWatch.closeQuery.events = down.events
      ∧ down.closeWatch.closeQuery.shown Effect.canceled? =
        down.shown Effect.canceled? ++ down.session.ownership.query.toList
      ∧ down.closeWatch.closeQuery.shown Effect.closed? =
        down.shown Effect.closed? ++ down.session.ownership.watch.toList := by
  have shown : ∀ {α : Type} (f : Effect → Option α), down.closeWatch.closeQuery.shown f =
      down.shown f ++ (Act.closeWatch.shows down).filterMap f
        ++ (Act.closeQuery.shows down.closeWatch).filterMap f := by
    intro α f
    rw [← Act.perform_shown f .closeWatch down]
    exact Act.perform_shown f .closeQuery down.closeWatch
  have query : down.closeWatch.session.ownership.query = down.session.ownership.query := by
    rw [closeWatch_ownership]
  refine ⟨?_, ?_, ?_⟩
  · unfold events
    rw [shown, Act.closeWatch_unseen fun _ => rfl, Act.closeQuery_unseen fun _ => rfl,
      List.append_nil, List.append_nil]
  · rw [shown, Act.closeWatch_unseen fun _ => rfl, Act.closeQuery_canceled, query, List.append_nil]
  · rw [shown, Act.closeWatch_closed, Act.closeQuery_unseen fun _ => rfl, List.append_nil]

end Run

/-! ## 3. Operations -/

/-- Events about elements were shown first, and events about the service after them. -/
def Run.Announces (r r' : Run) : Prop :=
  ∃ quiet loud, r'.events = r.events ++ (quiet ++ loud)
    ∧ (∀ e ∈ quiet, e.kind.ofService = false) ∧ ∀ e ∈ loud, e.kind.ofService = true

namespace Run

variable {r r' : Run}

theorem Announces.nothing (same : r'.events = r.events) : r.Announces r' :=
  ⟨[], [], same.trans (List.append_nil _).symm, fun _ h => absurd h List.not_mem_nil,
    fun _ h => absurd h List.not_mem_nil⟩

theorem Announces.of_quiet (quiet : ∃ quiet, r'.events = r.events ++ quiet
    ∧ ∀ e ∈ quiet, e.kind.ofService = false) : r.Announces r' := by
  obtain ⟨quiet, shown, about⟩ := quiet
  refine ⟨quiet, [], ?_, about, fun _ h => absurd h List.not_mem_nil⟩
  rw [shown, List.append_nil]

/-- One more event about the service. -/
theorem Announces.then {r'' : Run} {e : Event} (h : r.Announces r')
    (shown : r''.events = r'.events ++ [e]) (service : e.kind.ofService = true) :
    r.Announces r'' := by
  obtain ⟨quiet, loud, before, about, of⟩ := h
  refine ⟨quiet, loud ++ [e], ?_, about, ?_⟩
  · rw [shown, before, List.append_assoc, List.append_assoc]
  · intro x hx
    rcases List.mem_append.mp hx with old | new
    · exact of x old
    · rwa [List.mem_singleton.mp new]

theorem exit_announces (r : Run) : r.Announces r.exit :=
  (Announces.of_quiet (removeAll_events r)).then (exit_events r) rfl

theorem ownerChanged_announces (oldOwner newOwner : String) (r : Run) :
    r.Announces (r.ownerChanged oldOwner newOwner) := by
  unfold ownerChanged
  split
  · exact (Announces.nothing rfl).then (enter_events _ r) rfl
  · exact exit_announces r
  · exact (exit_announces r).then (enter_events _ r.exit) rfl
  · exact .nothing rfl

theorem shutdown_announces (last : r.session.users = 1) : r.Announces r.shutdown := by
  rw [shutdown_one last]
  have left : r.Announces (if (r.setUsers 0).session.state.isPresent then (r.setUsers 0).exit
      else (r.setUsers 0).removeAll) := by
    split
    · exact exit_announces (r.setUsers 0)
    · exact Announces.of_quiet (removeAll_events (r.setUsers 0))
  unfold Announces at left ⊢
  rwa [(closed_shown _).1]

end Run

namespace Operation

theorem perform_announces {r : Run} (sound : r.session.Sound) (op : Operation) :
    r.Announces (op.perform r).2 := by
  cases op.turn sound with
  | works steps => exact .of_quiet steps.works_inside.inside_events
  | removes path after =>
    rw [after]
    exact .of_quiet (Run.removeTree_inside path r).inside_events
  | starts unused after =>
    rw [after]
    exact .nothing (Run.opened_events r)
  | counts users before left after =>
    rw [after]
    exact .nothing rfl
  | ends last shut after =>
    rw [after]
    exact Run.shutdown_announces last
  | notified subscription oldOwner newOwner event watched after =>
    rw [after]
    exact Run.ownerChanged_announces oldOwner newOwner r
  | answered call result event enabled after =>
    rcases after with after | ⟨owner, after⟩
    · rw [after]
      exact .nothing rfl
    · rw [after]
      exact Run.ownerChanged_announces "" owner ((Act.answerQuery call).perform r)

end Operation

end BusCache
