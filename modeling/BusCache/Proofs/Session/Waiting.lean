import BusCache.Proofs.Session.Resources

/-!
# Waiting — how a completion leaves the slot that it waits in

A completion waits in the slot of one call. Acts that have to do with neither leave it there, except
the removal of its element, which tells it that the call is canceled. A completion that nothing
waits with is told nothing.
-/

namespace BusCache

/-! ## 1. Calls under way, act by act -/

/-- Every call under way was so before the act, or the act sent it. -/
theorem Act.Enabled.slot_old_or_sent {a : Act} {r : Run} (enabled : a.Enabled r.session) {p : Path}
    {k : CallKind} {slot : Slot} (h : (a.perform r).session.slot? p k = some slot) :
    r.session.slot? p k = some slot
      ∨ ∃ purpose call, a = .send p k purpose slot.completion call := by
  by_cases moves : a.MovesCalls
  · cases a with
    | send path kind purpose completion call =>
      rw [show (Act.send path kind purpose completion call).perform r
        = r.sendCall path kind purpose completion call from rfl,
        Session.slot?_of_tracked (r.sendCall_registry path kind purpose completion call)
          enabled.2.1] at h
      split at h
      · rename_i place
        obtain ⟨rfl, rfl⟩ := place
        rw [← Option.some.inj h]
        exact .inr ⟨purpose, call, rfl⟩
      · exact .inl h
    | openQuery => exact .inl h
    | closeQuery =>
      left
      unfold Session.slot? at h ⊢
      rwa [show Act.closeQuery.perform r = r.closeQuery from rfl,
        Session.look_of_registry_eq r.closeQuery_registry] at h
    | release path =>
      left
      obtain ⟨e, here⟩ := Option.isSome_iff_exists.mp enabled
      unfold Session.slot? at h ⊢
      rw [show (Act.release path).perform r = r.releaseElement path from rfl,
        Session.look_of_erased (congrArg Session.registry (Run.releaseElement_session here))] at h
      split at h
      · cases h
      · exact h
    | answer call path kind =>
      left
      rw [Session.slot?_of_freed (Act.answer_registry call path kind r)] at h
      split at h
      · cases h
      · exact h
    | answerQuery call => exact .inl h
    | _ => exact moves.elim
  · left
    rwa [(enabled.sameCalls moves).slot] at h

/-- A call stays under way, for the same purpose, unless its reply is taken or its element
leaves. -/
theorem Act.Enabled.call_kept {a : Act} {r : Run} (enabled : a.Enabled r.session)
    (h : r.session.Routed) {call : CallId} {path : Path} {kind : CallKind} {purpose : CallPurpose}
    {completion : Option Completion}
    (held : r.session.slot? path kind = some ⟨call, completion⟩)
    (routed : Table.get? r.session.callRoutes call = some (.element path kind purpose))
    (unanswered : a ≠ .answer call path kind) (kept : a ≠ .release path) :
    (a.perform r).session.slot? path kind = some ⟨call, completion⟩
      ∧ Table.get? (a.perform r).session.callRoutes call = some (.element path kind purpose) := by
  by_cases moves : a.MovesCalls
  · cases a with
    | send p k purpose' completion' message =>
      have slots := Session.slot?_of_tracked
        (r.sendCall_registry p k purpose' completion' message) enabled.2.1
      show (r.sendCall p k purpose' completion' message).session.slot? path kind = _
        ∧ Table.get? (Table.set r.session.callRoutes r.nextCall _) call = _
      -- the number of the new call is that of no call under way
      rw [slots, if_neg, Table.get?_set, if_neg (h.calls.slot?_call_ne_nextCall held)]
      · exact ⟨held, routed⟩
      · -- a slot that is taken is not sent from again
        rintro ⟨rfl, rfl⟩
        have free := enabled.2.2.1
        rw [held] at free
        cases free
    | openQuery =>
      show r.session.slot? path kind = _
        ∧ Table.get? (Table.set r.session.callRoutes r.nextCall _) call = _
      rw [Table.get?_set, if_neg (h.calls.slot?_call_ne_nextCall held)]
      exact ⟨held, routed⟩
    | closeQuery =>
      show r.closeQuery.session.slot? path kind = _
        ∧ Table.get? r.closeQuery.session.callRoutes call = _
      rw [Run.closeQuery_session]
      cases asked : r.session.ownership.query with
      | none => exact ⟨held, routed⟩
      | some query =>
        refine ⟨held, ?_⟩
        show Table.get? (Table.erase r.session.callRoutes query) call = _
        rw [Table.get?_erase, if_neg]
        · exact routed
        · -- the question's call is for no element
          rintro rfl
          rw [(h.calls.owner call).mpr asked] at routed
          cases routed
    | release p =>
      -- the element that leaves has another path, so neither slot nor route are its own
      have hp : path ≠ p := fun he => kept (by rw [he])
      obtain ⟨e, here⟩ := Option.isSome_iff_exists.mp enabled
      have session := Run.releaseElement_session here
      constructor
      · show (r.releaseElement p).session.slot? path kind = _
        unfold Session.slot?
        rw [Session.look_of_erased (congrArg Session.registry session), if_neg hp]
        exact held
      · show Table.get? (r.releaseElement p).session.callRoutes call = _
        rw [session, Table.get?_eraseAll, if_neg]
        · exact routed
        · intro gone
          obtain ⟨k, purpose', routed'⟩ := (h.calls.mem_calls_iff here _ call).mp gone
          rw [routed] at routed'
          cases routed'
          exact hp rfl
    | answer other p k =>
      -- the reply is to another call, which is in another slot
      have hother : call ≠ other := by
        rintro rfl
        obtain ⟨purpose', routed'⟩ := enabled.1
        rw [routed] at routed'
        cases routed'
        exact unanswered rfl
      show _ ∧ Table.get? (Table.erase r.session.callRoutes other) call = _
      rw [Session.slot?_of_freed (Act.answer_registry other p k r), if_neg, Table.get?_erase,
        if_neg hother]
      · exact ⟨held, routed⟩
      · rintro ⟨rfl, rfl⟩
        obtain ⟨slot, held', hcall⟩ := enabled.2
        rw [held] at held'
        rw [← Option.some.inj held'] at hcall
        exact hother hcall
    | answerQuery other =>
      show r.session.slot? path kind = _
        ∧ Table.get? (Table.erase r.session.callRoutes other) call = _
      rw [Table.get?_erase, if_neg]
      · exact ⟨held, routed⟩
      · -- the reply is to the question, whose route leads to no slot
        rintro rfl
        rw [enabled.1] at routed
        cases routed
    | _ => exact moves.elim
  · have same := enabled.sameCalls moves
    rw [same.slot, same.routes]
    exact ⟨held, routed⟩

/-! ## 2. Waiting and being told -/

/-- No call under way has the completion. -/
def Session.Lacks (s : Session) (c : Completion) : Prop :=
  ∀ path kind slot, s.slot? path kind = some slot → slot.completion ≠ some c

namespace Run

/-- What a completion was told, in order. -/
def outcomes (r : Run) (c : Completion) : List (Except BusError (List Value)) :=
  r.shown (Effect.told? c)

/-- A completion waits for a call, in one slot, and was told nothing yet. -/
structure Waits (r : Run) (c : Completion) (call : CallId) (path : Path) (kind : CallKind)
    (purpose : CallPurpose) : Prop where
  held : r.session.slot? path kind = some ⟨call, some c⟩
  routed : Table.get? r.session.callRoutes call = some (.element path kind purpose)
  alone : ∀ p k slot, r.session.slot? p k = some slot → slot.completion = some c →
    p = path ∧ k = kind
  untold : r.outcomes c = []

/-- Between two runs, the removal of the element at a path was announced, and after that a
completion was told that its call is canceled. At both instants the path did not resolve. -/
def CanceledBetween (r r' : Run) (c : Completion) (path : Path) : Prop :=
  ∃ before removal between told after,
    r'.trace = before ++ removal :: (between ++ told :: after) ∧ r.trace <+: before
    ∧ removal.effect.removed? = some path ∧ removal.session.element? path = none
    ∧ told.effect = .complete c (.error .canceled) ∧ told.session.element? path = none

theorem CanceledBetween.later {r r' r'' : Run} {c : Completion} {path : Path}
    (h : r.CanceledBetween r' c path) (more : r'.trace <+: r''.trace) :
    r.CanceledBetween r'' c path := by
  obtain ⟨before, removal, between, told, after, trace, first, rest⟩ := h
  obtain ⟨new, hnew⟩ := more
  refine ⟨before, removal, between, told, after ++ new, ?_, first, rest⟩
  rw [← hnew, trace]
  simp only [List.append_assoc, List.cons_append]

end Run

/-- An act that has nothing to do with a completion. -/
def Act.Spares (c : Completion) : Act → Prop
  | send _ _ _ completion _ => completion ≠ some c
  | tell d _ => d ≠ c
  | _ => True

/-- What the completions of an element that leaves are told. -/
theorem Element.partings_told (order : Listing) (path : Path) (e : Element)
    (handler : Option Handler) (c : Completion) :
    (e.partings order path handler).filterMap (Effect.told? c) =
      (order.slots path e).filterMap fun slot =>
        if slot.completion = some c then some (.error .canceled) else none := by
  unfold partings
  rw [List.filterMap_cons_none (show Effect.told? c (.event _ handler) = none from rfl),
    List.filterMap_map, List.filterMap_filterMap]
  apply List.filterMap_congr
  intro slot _
  cases slot.completion with
  | none => rfl
  | some d =>
    show (if d = c then _ else _) = _
    simp only [Option.some.injEq]

theorem Act.release_told {r : Run} {path : Path} {e : Element}
    (here : r.session.element? path = some e) (c : Completion) :
    ((Act.release path).shows r).filterMap (Effect.told? c) =
      (r.session.listing.slots path e).filterMap fun slot =>
        if slot.completion = some c then some (.error .canceled) else none := by
  rw [shows_release here, List.filterMap_append,
    Element.surrenders_unseen _ _ _ (fun _ => rfl) (fun _ => rfl), Element.partings_told,
    List.nil_append]

/-- Acts other than removals tell only the completion that they are about. -/
theorem Act.Spares.untold {a : Act} {c : Completion} (spares : a.Spares c)
    (other : ∀ path, a ≠ .release path) (r : Run) :
    (a.shows r).filterMap (Effect.told? c) = [] := by
  cases a with
  | release path => exact absurd rfl (other path)
  | tell d outcome => exact List.filterMap_cons_none (if_neg spares)
  | closeWatch => exact closeWatch_unseen (fun _ => rfl) r
  | closeQuery => exact closeQuery_unseen (fun _ => rfl) r
  | _ => rfl

/-- A removal tells only completions that wait on its element. -/
theorem Act.Enabled.untold {a : Act} {r : Run} {c : Completion} (enabled : a.Enabled r.session)
    (spares : a.Spares c)
    (elsewhere : ∀ path, a = .release path → ∀ kind slot,
      r.session.slot? path kind = some slot → slot.completion ≠ some c) :
    (a.shows r).filterMap (Effect.told? c) = [] := by
  cases a with
  | release path =>
    obtain ⟨e, here⟩ := Option.isSome_iff_exists.mp enabled
    rw [Act.release_told here, List.filterMap_eq_nil_iff]
    intro slot hslot
    obtain ⟨kind, hkind⟩ := (r.session.listing.mem_slots_iff path e slot).mp hslot
    have held : r.session.slot? path kind = some slot := by
      unfold Session.slot?
      rw [Session.look_of_element? here, hkind]
    exact if_neg (elsewhere path rfl kind slot held)
  | _ => exact Act.Spares.untold spares (fun _ h => by cases h) r

/-- A completion that nothing waits with is told nothing. -/
theorem Session.Lacks.perform {a : Act} {r : Run} {c : Completion} (lacks : r.session.Lacks c)
    (enabled : a.Enabled r.session) (spares : a.Spares c) :
    (a.perform r).session.Lacks c ∧ (a.perform r).outcomes c = r.outcomes c := by
  constructor
  · intro p k slot held
    rcases enabled.slot_old_or_sent held with old | ⟨purpose, call, rfl⟩
    · exact lacks p k slot old
    · exact spares
  · unfold Run.outcomes
    rw [Act.perform_shown]
    rw [enabled.untold spares fun path _ kind => lacks path kind, List.append_nil]

theorem Steps.lacks {P : Act → Prop} {r r' : Run} {c : Completion} (h : Steps P r r')
    (spares : ∀ a, P a → a.Spares c) (lacks : r.session.Lacks c) :
    r'.session.Lacks c ∧ r'.outcomes c = r.outcomes c := by
  apply h.preserves (I := fun q => q.session.Lacks c ∧ q.outcomes c = r.outcomes c) _ ⟨lacks, rfl⟩
  intro q a mem enabled ⟨lacks, same⟩
  obtain ⟨lacks', same'⟩ := lacks.perform enabled (spares a mem)
  exact ⟨lacks', same'.trans same⟩

/-- When the element leaves, the completion is told that its call is canceled. -/
theorem Run.Waits.release {r : Run} {c : Completion} {call : CallId} {path : Path}
    {kind : CallKind} {purpose : CallPurpose} (w : r.Waits c call path kind purpose)
    (h : r.session.Routed) :
    (r.releaseElement path).session.Lacks c
      ∧ (r.releaseElement path).outcomes c = [.error .canceled]
      ∧ r.CanceledBetween (r.releaseElement path) c path := by
  obtain ⟨e, here, hslot⟩ := Session.look_eq_some.mp w.held
  have enabled : (Act.release path).Enabled r.session := by
    show (r.session.element? path).isSome
    rw [here]
    rfl
  have gone : (r.releaseElement path).session.element? path = none := by
    rw [releaseElement_element?, if_pos rfl]
  refine ⟨?_, ?_, ?_⟩
  · intro p k slot held hc
    -- the only slot with the completion went with its element
    rcases enabled.slot_old_or_sent held with old | ⟨_, _, he⟩
    · obtain ⟨rfl, rfl⟩ := w.alone p k slot old hc
      have empty : (r.releaseElement p).session.slot? p k = none :=
        Session.look_of_element?_none gone
      rw [empty] at held
      cases held
    · cases he
  · have told : ((Act.release path).shows r).filterMap (Effect.told? c) = [.error .canceled] := by
      -- of the slots that the element leaves with, one has the completion
      rw [Act.release_told here]
      apply (h.tidy path e here).1.filterMap_getAll_single (r.session.listing.kinds_perm path e)
        hslot (if_pos rfl)
      intro k slot hk seen
      have held : r.session.slot? path k = some slot := by
        unfold Session.slot?
        rw [Session.look_of_element? here, hk]
      have hc : slot.completion = some c := by
        by_contra hc
        exact seen (if_neg hc)
      exact (w.alone path k slot held hc).2
    have shown := Act.perform_shown (Effect.told? c) (.release path) r
    rw [told] at shown
    have untold := w.untold
    unfold Run.outcomes at untold ⊢
    rw [untold] at shown
    exact shown
  · obtain ⟨between, _, trace⟩ := releaseElement_trace here
    -- the completion is among those that the element leaves with
    have mem : c ∈ (r.session.listing.slots path e).filterMap Slot.completion :=
      List.mem_filterMap.mpr ⟨_, (r.session.listing.mem_slots_iff path e _).mpr ⟨kind, hslot⟩, rfl⟩
    obtain ⟨earlier, later, hsplit⟩ := List.append_of_mem mem
    let told : Completion → Moment :=
      fun d => ⟨.complete d (.error .canceled), (r.releaseElement path).session⟩
    let removal : Moment :=
      ⟨.event ⟨.elementRemoved, path, .snapshot e.properties⟩ (r.session.handlers .elementRemoved),
        (r.releaseElement path).session⟩
    -- the calls and subscriptions given up come before the announcement
    refine ⟨r.trace ++ (e.surrenders r.session.listing path).map fun x => ⟨x, between⟩, removal,
      earlier.map told, told c, later.map told, ?_, List.prefix_append _ _, rfl, gone, rfl, gone⟩
    rw [trace]
    unfold Element.partings
    rw [hsplit]
    simp only [List.map_append, List.map_cons, List.map_map, Function.comp_def, List.append_assoc,
      told, removal]

theorem Run.CanceledBetween.earlier {r q r' : Run} {c : Completion} {path : Path}
    (h : q.CanceledBetween r' c path) (before : r.trace <+: q.trace) :
    r.CanceledBetween r' c path := by
  obtain ⟨start, removal, between, told, after, trace, first, rest⟩ := h
  exact ⟨start, removal, between, told, after, trace, before.trans first, rest⟩

/-! ## 3. Waiting, act by act -/

section Acts

variable {c : Completion} {call : CallId} {path : Path} {kind : CallKind} {purpose : CallPurpose}

/-- An act that has to do neither with a completion nor with the reply to a call. -/
def Act.Leaves (c : Completion) (call : CallId) (a : Act) : Prop :=
  a.Spares c ∧ ∀ path kind, a ≠ .answer call path kind

/-- A completion goes on waiting unless its element leaves. -/
theorem Run.Waits.perform {a : Act} {r : Run} (w : r.Waits c call path kind purpose)
    (h : r.session.Routed) (enabled : a.Enabled r.session) (leaves : a.Leaves c call) :
    (a.perform r).Waits c call path kind purpose ∨ a = .release path := by
  by_cases gone : a = .release path
  · exact .inr gone
  · left
    have kept := enabled.call_kept h w.held w.routed (leaves.2 path kind) gone
    refine ⟨kept.1, kept.2, ?_, ?_⟩
    · intro p k slot held hc
      rcases enabled.slot_old_or_sent held with old | ⟨purpose', message, rfl⟩
      · exact w.alone p k slot old hc
      · exact absurd hc leaves.1
    · unfold outcomes
      rw [Act.perform_shown]
      rw [enabled.untold leaves.1, List.append_nil]
      · exact w.untold
      · -- another element that leaves does not have the completion
        rintro p rfl k slot held hc
        exact gone (by rw [(w.alone p k slot held hc).1])

theorem Steps.waits {r r' : Run} (h : Steps (Act.Leaves c call) r r') (routed : r.session.Routed)
    (w : r.Waits c call path kind purpose) :
    r'.Waits c call path kind purpose
      ∨ r'.session.Lacks c ∧ r'.outcomes c = [.error .canceled] ∧ r.CanceledBetween r' c path := by
  have kept : r'.session.Routed ∧ r.trace <+: r'.trace ∧ (r'.Waits c call path kind purpose
      ∨ r'.session.Lacks c ∧ r'.outcomes c = [.error .canceled] ∧ r.CanceledBetween r' c path) := by
    apply h.preserves (I := fun q => q.session.Routed ∧ r.trace <+: q.trace
      ∧ (q.Waits c call path kind purpose
        ∨ q.session.Lacks c ∧ q.outcomes c = [.error .canceled] ∧ r.CanceledBetween q c path))
      _ ⟨routed, List.prefix_refl _, .inl w⟩
    intro q a leaves enabled ⟨routed, before, state⟩
    obtain ⟨new, trace, _⟩ := a.perform_trace q
    have more : q.trace <+: (a.perform q).trace := by
      rw [trace]
      exact List.prefix_append _ _
    refine ⟨enabled.routed routed, before.trans more, ?_⟩
    -- until its element leaves it waits, and from then on it is told nothing more
    rcases state with w | ⟨lacks, told, canceled⟩
    · rcases w.perform routed enabled leaves with still | rfl
      · exact .inl still
      · obtain ⟨lacks, told, canceled⟩ := w.release routed
        exact .inr ⟨lacks, told, canceled.earlier before⟩
    · obtain ⟨lacks', same⟩ := lacks.perform enabled leaves.1
      exact .inr ⟨lacks', same.trans told, canceled.later more⟩
  exact kept.2.2

/-- Once the reply to its call is taken, nothing waits with the completion. -/
theorem Run.Waits.answer {r : Run} (w : r.Waits c call path kind purpose) :
    ((Act.answer call path kind).perform r).session.Lacks c := by
  have enabled : (Act.answer call path kind).Enabled r.session :=
    Act.answer_enabled w.routed w.held
  intro p k slot held hc
  rcases enabled.slot_old_or_sent held with old | ⟨_, _, he⟩
  · obtain ⟨rfl, rfl⟩ := w.alone p k slot old hc
    rw [Session.slot?_of_freed (Act.answer_registry call p k r), if_pos ⟨rfl, rfl⟩] at held
    cases held
  · cases he

end Acts

end BusCache
