import BusCache.Proofs.Session.Caches
import BusCache.Proofs.Session.Teardown

/-!
# Departures — the last that is seen of an element

The removal of an element is announced when its path no longer resolves, with the properties that it
had last. Removal changes no element that is still there. So an element that leaves in an operation
is announced as it was before, however many others leave with it.
-/

namespace BusCache

/-! ## 1. What a removal shows -/

/-- A removal shows no event but that the element left. Whatever it shows, the element is gone by
then and the others are there. -/
theorem Run.releaseElement_moments {r : Run} {path : Path} {x : Element}
    (here : r.session.element? path = some x) :
    ∃ new, (r.releaseElement path).trace = r.trace ++ new
      ∧ ∀ m ∈ new, (∀ e, m.effect.event? = some e → e = .removal (path, x))
        ∧ ∀ p, m.session.element? p = if p = path then none else r.session.element? p := by
  obtain ⟨between, erased, trace⟩ := releaseElement_trace here
  rw [List.append_assoc] at trace
  refine ⟨_, trace, fun m hm => ⟨?_, ?_⟩⟩
  · intro e shown
    have effect : m.effect ∈ (Act.release path).shows r := by
      rw [Act.shows_release here]
      have mapped := List.mem_map_of_mem (f := Moment.effect) hm
      rwa [List.map_append, List.map_map, List.map_map, Function.comp_def, Function.comp_def,
        List.map_id', List.map_id'] at mapped
    have removal : e ∈ ((Act.release path).shows r).filterMap Effect.event? :=
      List.mem_filterMap.mpr ⟨m.effect, effect, shown⟩
    rwa [Act.release_events here, List.mem_singleton] at removal
  · intro p
    rcases List.mem_append.mp hm with given | parting
    · obtain ⟨_, _, rfl⟩ := List.mem_map.mp given
      exact Session.element?_of_erased erased p
    · obtain ⟨_, _, rfl⟩ := List.mem_map.mp parting
      exact releaseElement_element? r path p

/-! ## 2. Elements leave -/

/-- From a run to a later one, every element that left is announced as the run found it, and so it
was found at every instant until then. -/
def Run.Departs (r r' : Run) : Prop :=
  ∃ new, r'.trace = r.trace ++ new
    ∧ ∀ before m after, new = before ++ m :: after → ∀ path, m.effect.removed? = some path →
      ∃ x, r.session.element? path = some x ∧ m.effect.event? = some (.removal (path, x))
        ∧ ∀ earlier ∈ before, ∀ y, earlier.session.element? path = some y → y = x

/-- From a run to a later one elements left, and those that did not are as they were. -/
structure Run.Leaves (r r' : Run) (new : List Moment) : Prop where
  trace : r'.trace = r.trace ++ new
  stay : ∀ p x, r'.session.element? p = some x → r.session.element? p = some x
  stayed : ∀ m ∈ new, ∀ p x, m.session.element? p = some x → r.session.element? p = some x
  announced : ∀ m ∈ new, ∀ path, m.effect.removed? = some path →
    ∃ x, r.session.element? path = some x ∧ m.effect.event? = some (.removal (path, x))

theorem Effect.event?_of_removed {effect : Effect} {path : Path}
    (removed : effect.removed? = some path) :
    ∃ payload, effect.event? = some ⟨.elementRemoved, path, payload⟩ := by
  unfold Effect.removed? at removed
  split at removed
  · rw [← Option.some.inj removed]
    exact ⟨_, rfl⟩
  · cases removed

namespace Run

variable {r r' : Run} {path : Path}

theorem Leaves.release {q : Run} {x : Element} {new : List Moment} (h : r.Leaves q new)
    (here : q.session.element? path = some x) :
    ∃ more, r.Leaves (q.releaseElement path) (new ++ more) := by
  obtain ⟨more, trace, moments⟩ := releaseElement_moments here
  have stay : ∀ {t : Session},
      (∀ p, t.element? p = if p = path then none else q.session.element? p) →
        ∀ p y, t.element? p = some y → r.session.element? p = some y := by
    intro t without p y found
    rw [without] at found
    split at found
    · cases found
    · exact h.stay p y found
  refine ⟨more, ?_, stay (releaseElement_element? q path), ?_, ?_⟩
  · rw [trace, h.trace, List.append_assoc]
  · intro m hm
    rcases List.mem_append.mp hm with old | fresh
    · exact h.stayed m old
    · exact stay (moments m fresh).2
  · intro m hm p removed
    rcases List.mem_append.mp hm with old | fresh
    · exact h.announced m old p removed
    · obtain ⟨payload, shown⟩ := Effect.event?_of_removed removed
      have removal := (moments m fresh).1 _ shown
      obtain ⟨_, rfl, _⟩ := Event.mk.inj removal
      exact ⟨x, h.stay p x here, shown.trans (congrArg some removal)⟩

theorem leaves_of_removes (h : Steps Act.Removes r r') : ∃ new, r.Leaves r' new := by
  apply h.preserves (I := fun q => ∃ new, r.Leaves q new)
  · intro q a removes enabled ⟨new, leaves⟩
    cases a with
    | release path =>
      obtain ⟨x, here⟩ := Option.isSome_iff_exists.mp enabled
      obtain ⟨more, left⟩ := leaves.release here
      exact ⟨_, left⟩
    | _ => exact removes.elim
  · exact ⟨[], (List.append_nil _).symm, fun _ _ => id, fun _ h => absurd h List.not_mem_nil,
      fun _ h => absurd h List.not_mem_nil⟩

theorem departs_of_removes (h : Steps Act.Removes r r') : r.Departs r' := by
  obtain ⟨new, leaves⟩ := leaves_of_removes h
  refine ⟨new, leaves.trace, ?_⟩
  rintro before m after rfl path removed
  obtain ⟨x, here, shown⟩ :=
    leaves.announced m (List.mem_append_right _ List.mem_cons_self) path removed
  refine ⟨x, here, shown, fun earlier he y found => ?_⟩
  have was := leaves.stayed earlier (List.mem_append_left _ he) path y found
  rw [here] at was
  exact (Option.some.inj was).symm

/-- Nothing leaves after a point from which on no removal is announced. -/
theorem Departs.then {q : Run} (h : r.Departs q) (later : q.trace <+: r'.trace)
    (same : r'.shown Effect.removed? = q.shown Effect.removed?) : r.Departs r' := by
  obtain ⟨new, trace, departs⟩ := h
  obtain ⟨more, further⟩ := later
  have unseen : ∀ m ∈ more, m.effect.removed? = none := by
    rw [shown_append Effect.removed? further.symm, List.append_right_eq_self] at same
    exact List.filterMap_eq_nil_iff.mp same
  refine ⟨new ++ more, ?_, ?_⟩
  · rw [← further, trace, List.append_assoc]
  · intro before m after split path removed
    rcases List.append_eq_append_iff.mp split with ⟨rest, _, last⟩ | ⟨rest, first, last⟩
    · -- then the removal would be among what was shown after that point
      have none := unseen m (last ▸ List.mem_append_right _ List.mem_cons_self)
      rw [removed] at none
      cases none
    · cases rest with
      | nil =>
        have fresh : m ∈ more := by
          rw [← List.nil_append more, ← last]
          exact List.mem_cons_self
        have none := unseen m fresh
        rw [removed] at none
        cases none
      | cons m' rest =>
        obtain ⟨rfl, _⟩ := List.cons.inj last
        exact departs before m rest first path removed

theorem departs_of_none (later : r.trace <+: r'.trace)
    (same : r'.shown Effect.removed? = r.shown Effect.removed?) : r.Departs r' :=
  (departs_of_removes .refl).then later same

end Run

/-- The path of an element that an event announces to have left. -/
def Event.left? (e : Event) : Option Path :=
  if e.kind = .elementRemoved then some e.path else none

namespace Run

variable {r r' : Run}

theorem shown_removed (r : Run) : r.shown Effect.removed? = r.events.filterMap Event.left? := by
  unfold events shown
  rw [List.filterMap_filterMap]
  congr 1
  funext m
  cases m.effect with
  | event e handler =>
    obtain ⟨kind, path, payload⟩ := e
    cases kind <;> rfl
  | _ => rfl

theorem removed_of_events {new : List Event} (events : r'.events = r.events ++ new)
    (other : ∀ e ∈ new, e.kind ≠ .elementRemoved) :
    r'.shown Effect.removed? = r.shown Effect.removed? := by
  rw [shown_removed, shown_removed, events, List.filterMap_append, List.append_right_eq_self,
    List.filterMap_eq_nil_iff]
  exact fun e he => if_neg (other e he)

theorem removed_of_same (same : r'.events = r.events) :
    r'.shown Effect.removed? = r.shown Effect.removed? := by
  rw [shown_removed, shown_removed, same]

/-! ## 3. Operations -/

theorem enter_departs {q : Run} (h : r.Departs q) (owner : String) : r.Departs (q.enter owner) := by
  apply h.then (enter_steps owner q).trace_extends
  exact removed_of_events (enter_events owner q) (List.forall_mem_singleton.mpr nofun)

theorem removeAll_departs (r : Run) : r.Departs r.removeAll :=
  departs_of_removes (removeAll_steps r)

theorem exit_departs (r : Run) : r.Departs r.exit := by
  apply (removeAll_departs r).then (List.prefix_append _ _)
  exact removed_of_events (exit_events r) (List.forall_mem_singleton.mpr nofun)

theorem ownerChanged_departs (oldOwner newOwner : String) (r : Run) :
    r.Departs (r.ownerChanged oldOwner newOwner) := by
  have stays : r.Departs r := departs_of_none (List.prefix_refl _) rfl
  unfold ownerChanged
  split
  · exact enter_departs stays _
  · exact exit_departs r
  · exact enter_departs (exit_departs r) _
  · exact stays

theorem shutdown_departs (last : r.session.users = 1) : r.Departs r.shutdown := by
  rw [shutdown_one last]
  have left : r.Departs (if (r.setUsers 0).session.state.isPresent then (r.setUsers 0).exit
      else (r.setUsers 0).removeAll) := by
    split
    · exact exit_departs (r.setUsers 0)
    · exact removeAll_departs (r.setUsers 0)
  generalize (if (r.setUsers 0).session.state.isPresent then (r.setUsers 0).exit
    else (r.setUsers 0).removeAll) = down at left ⊢
  have unwatched : down.trace <+: down.closeWatch.trace := by
    obtain ⟨new, trace, _⟩ := Act.closeWatch.perform_trace down
    exact ⟨new, trace.symm⟩
  have unasked : down.closeWatch.trace <+: down.closeWatch.closeQuery.trace := by
    obtain ⟨new, trace, _⟩ := Act.closeQuery.perform_trace down.closeWatch
    exact ⟨new, trace.symm⟩
  exact left.then (unwatched.trans unasked) (removed_of_same (closed_shown down).1)

end Run

namespace Operation

theorem perform_departs {r : Run} (sound : r.session.Sound) (op : Operation) :
    r.Departs (op.perform r).2 := by
  cases op.turn sound with
  | works steps =>
    apply Run.departs_of_none steps.trace_extends
    apply steps.shown_eq
    intro q a works enabled
    rw [List.eq_nil_iff_forall_not_mem]
    intro path removed
    rw [enabled.removed] at removed
    subst removed
    exact works
  | removes path after =>
    rw [after]
    exact Run.departs_of_removes (Run.removeTree_steps path r)
  | starts unused after =>
    rw [after]
    apply Run.departs_of_none
    · exact (List.prefix_append _ _).trans (List.prefix_append _ _)
    · exact Run.removed_of_same (Run.opened_events r)
  | counts users before left after =>
    rw [after]
    exact Run.departs_of_none (List.prefix_refl _) rfl
  | ends last shut after =>
    rw [after]
    exact Run.shutdown_departs last
  | notified subscription oldOwner newOwner event watched after =>
    rw [after]
    exact Run.ownerChanged_departs oldOwner newOwner r
  | answered call result event enabled after =>
    rcases after with after | ⟨owner, after⟩
    · rw [after]
      exact Run.departs_of_none (List.prefix_refl _) rfl
    · rw [after]
      exact Run.ownerChanged_departs "" owner ((Act.answerQuery call).perform r)

end Operation

end BusCache
