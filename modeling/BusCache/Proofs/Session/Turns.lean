import BusCache.Proofs.Session.Resources

/-!
# Turns — what an operation comes down to

Most operations work on elements and touch neither the users nor the owner nor the watch. The others
are few: an operation removes a tree of elements, counts the users, starts or ends the watch, is
told of a change of owners, or is told who owns the name. What holds of a session whatever is done
with it is proved once for each of these turns.
-/

namespace BusCache

/-! ## 1. Work on elements -/

/-- An event about the service as a whole, and not about one element. -/
def EventKind.ofService : EventKind → Bool
  | serviceUp => true
  | serviceDown => true
  | _ => false

namespace Act

/-- Concerns neither users nor owner, and takes no element away. -/
def Works : Act → Prop
  | register _ _ _ _ => True
  | send _ _ _ _ _ => True
  | subscribe _ _ _ => True
  | merge _ _ => True
  | store _ _ _ _ => True
  | drop _ _ => True
  | answer _ _ _ => True
  | tell _ _ => True
  | setHandler _ _ => True
  | relist _ => True
  | emit kind _ _ => kind.ofService = false
  | _ => False

/-- Stays within the elements. -/
def Inside (a : Act) : Prop := a.Works ∨ a.Removes

theorem Grows.works (a : Act) (h : a.Grows) : a.Works := by
  cases a <;> first | exact h.elim | trivial

theorem Changes.works (a : Act) (h : a.Changes) : a.Works := by
  cases a with
  | emit kind path payload => cases kind <;> first | exact h.elim | rfl
  | _ => first | exact h.elim | trivial

theorem Works.element?_isSome {a : Act} (h : a.Works) {r : Run} {p : Path}
    (here : (r.session.element? p).isSome) : ((a.perform r).session.element? p).isSome :=
  a.element?_isSome (fun path he => by subst he; exact h) here

/-- Users, owner, watch and question are not the elements' business. -/
theorem Inside.ownership_eq {a : Act} (h : a.Inside) {r : Run} (enabled : a.Enabled r.session) :
    (a.perform r).session.ownership = r.session.ownership := by
  cases a with
  | release path =>
    obtain ⟨e, here⟩ := Option.isSome_iff_exists.mp enabled
    show (r.releaseElement path).session.ownership = r.session.ownership
    rw [Run.releaseElement_session here]
  | _ => first | exact h.elim False.elim False.elim | rfl

end Act

theorem Steps.inside_ownership {r r' : Run} (h : Steps Act.Inside r r') :
    r'.session.ownership = r.session.ownership := by
  apply h.preserves (I := fun q => q.session.ownership = r.session.ownership) _ rfl
  exact fun q a inside enabled kept => (inside.ownership_eq enabled).trans kept

theorem Steps.works_inside {r r' : Run} (h : Steps Act.Works r r') : Steps Act.Inside r r' :=
  h.mono fun _ => Or.inl

theorem Run.removeTree_inside (path : Path) (r : Run) : Steps Act.Inside r (r.removeTree path) :=
  (removeTree_steps path r).mono fun _ => Or.inr

theorem Run.removeAll_inside (r : Run) : Steps Act.Inside r r.removeAll :=
  (removeAll_steps r).mono fun _ => Or.inr

/-! ## 2. The owner comes and goes -/

namespace ServiceState

variable {state : ServiceState} {oldOwner newOwner owner : String}

theorem classify_enter (enters : state.classify oldOwner newOwner = .enter owner) :
    state = .absent ∧ newOwner = owner ∧ owner.isEmpty = false := by
  unfold classify at enters
  cases state with
  | absent =>
    dsimp only at enters
    split at enters
    · cases enters
    · rename_i named
      cases enters
      exact ⟨rfl, rfl, Bool.not_eq_true _ ▸ named⟩
  | present known =>
    -- the service is up already
    dsimp only at enters
    split at enters
    · split at enters <;> cases enters
    · split at enters <;> cases enters

theorem exists_owner (present : state.isPresent) : ∃ owner, state = .present owner := by
  cases state with
  | absent => cases present
  | present owner => exact ⟨owner, rfl⟩

theorem classify_exit (exits : state.classify oldOwner newOwner = .exit) :
    ∃ known, state = .present known := by
  unfold classify at exits
  cases state with
  | absent =>
    dsimp only at exits
    split at exits <;> cases exits
  | present known => exact ⟨known, rfl⟩

theorem classify_replace (replaces : state.classify oldOwner newOwner = .replace owner) :
    (∃ known, state = .present known) ∧ newOwner = owner ∧ owner.isEmpty = false := by
  unfold classify at replaces
  cases state with
  | absent =>
    dsimp only at replaces
    split at replaces <;> cases replaces
  | present known =>
    dsimp only at replaces
    split at replaces
    · split at replaces <;> cases replaces
    · rename_i named
      split at replaces
      · cases replaces
      · cases replaces
        exact ⟨⟨known, rfl⟩, rfl, Bool.not_eq_true _ ▸ named⟩

theorem named_of_replace (replaces : state.classify oldOwner newOwner = .replace owner) :
    newOwner.isEmpty = false := by
  obtain ⟨_, rfl, named⟩ := classify_replace replaces
  exact named

theorem classify_known (named : owner.isEmpty = false) :
    (present owner).classify oldOwner owner = .ignore := by
  unfold classify
  simp [named]

/-- An owner that is not the known one can leave as it likes. -/
theorem classify_stale (named : oldOwner.isEmpty = false) (other : state ≠ .present oldOwner) :
    state.classify oldOwner "" = .ignore := by
  cases state with
  | absent => rfl
  | present known =>
    have unknown : oldOwner ≠ known := fun same => other (same ▸ rfl)
    unfold classify
    simp [named, unknown]

end ServiceState

theorem Session.destination_of_present {s : Session} {owner : String}
    (present : s.state = .present owner) : s.destination = owner := by
  unfold destination
  rw [present]
  rfl

/-- What is known of the owner after a notification. -/
def ServiceState.after (state : ServiceState) (oldOwner newOwner : String) : ServiceState :=
  match state.classify oldOwner newOwner with
  | .enter owner => .present owner
  | .exit => .absent
  | .replace owner => .present owner
  | .ignore => state

namespace Run

theorem removeAll_ownership (r : Run) : r.removeAll.session.ownership = r.session.ownership :=
  (removeAll_inside r).inside_ownership

theorem exit_ownership (r : Run) :
    r.exit.session.ownership = { r.session.ownership with state := .absent } := by
  show { r.removeAll.session.ownership with state := .absent } = _
  rw [removeAll_ownership]

theorem exit_state (r : Run) : r.exit.session.state = .absent := rfl

theorem enter_ownership (owner : String) (r : Run) :
    (r.enter owner).session.ownership = { r.session.ownership with state := .present owner } := by
  obtain ⟨grown, grows, entered⟩ := enter_grows owner r
  rw [entered, emit_session, grows.ownership_eq]
  rfl

theorem enter_state (owner : String) (r : Run) :
    (r.enter owner).session.state = .present owner := by
  unfold Session.state
  rw [enter_ownership]

/-- A change of owners changes what is known of the owner, and nothing else about the service. -/
theorem ownerChanged_ownership (oldOwner newOwner : String) (r : Run) :
    (r.ownerChanged oldOwner newOwner).session.ownership =
      { r.session.ownership with state := r.session.state.after oldOwner newOwner } := by
  unfold ownerChanged ServiceState.after
  cases r.session.state.classify oldOwner newOwner with
  | enter owner => exact enter_ownership owner r
  | exit => exact exit_ownership r
  | replace owner =>
    dsimp only
    rw [enter_ownership, exit_ownership]
  | ignore => rfl

/-- With the last user the service is gone, and the watch and the question with it. -/
theorem shutdown_last_ownership {r : Run} (last : r.session.users = 1) :
    r.shutdown.session.ownership = {} := by
  rw [shutdown_one last, closeQuery_ownership, closeWatch_ownership]
  split
  · rw [exit_ownership]
    rfl
  · rename_i gone
    rw [removeAll_ownership]
    -- there was no owner, so removing the elements is all there is to do
    have absent : (r.setUsers 0).session.ownership.state = .absent := by
      cases known : (r.setUsers 0).session.ownership.state with
      | absent => rfl
      | present owner =>
        unfold Session.state at gone
        rw [known] at gone
        exact absurd rfl gone
    dsimp only
    rw [absent]
    rfl

theorem shutdown_last_state {r : Run} (last : r.session.users = 1) :
    r.shutdown.session.state = .absent := by
  unfold Session.state
  rw [shutdown_last_ownership last]

end Run

/-! ## 3. Turns -/

/-- A delivery by which the service tells that the object at a path is gone. -/
def Session.Dismisses (s : Session) (path : Path) : Operation → Prop
  | .dispatch (.signal subscription _ _ args) =>
      Table.get? s.signalRoutes subscription = some (.lifecycle .removed)
        ∧ ∃ rest, WireValue.decodeAll args = .ok (.objectPath path :: rest)
  | _ => False

/-- What an operation comes down to. -/
inductive Operation.Turn (op : Operation) (r : Run) : Prop
  | works (steps : Steps Act.Works r (op.perform r).2)
  | removes (path : Path) (after : (op.perform r).2 = r.removeTree path)
      (cause : op = .remove path ∨ r.session.Dismisses path op)
  | starts (unused : r.session.users = 0)
      (after : (op.perform r).2 = (r.setUsers 1).openWatch.openQuery)
  | counts (users : Nat) (before : 0 < r.session.users) (left : 0 < users)
      (after : (op.perform r).2 = r.setUsers users)
  | ends (last : r.session.users = 1) (shut : op = .shutdown)
      (after : (op.perform r).2 = r.shutdown)
  /-- The watch tells of a change of owners. -/
  | notified (subscription : SubscriptionId) (oldOwner newOwner : String)
      (event : op =
        .dispatch (.ownerChanged subscription r.session.config.service oldOwner newOwner))
      (watched : r.session.ownership.watch = some subscription)
      (after : (op.perform r).2 = r.ownerChanged oldOwner newOwner)
  /-- The question who owns the name is answered, with a name or without. -/
  | answered (call : CallId) (result : Except BusError (List WireValue))
      (event : op = .dispatch (.reply call result))
      (enabled : (Act.answerQuery call).Enabled r.session)
      (after : (op.perform r).2 = (Act.answerQuery call).perform r
        ∨ ∃ owner, (op.perform r).2 = ((Act.answerQuery call).perform r).ownerChanged "" owner)

namespace Run

theorem handleReply_query_cases {r : Run} {call : CallId}
    (enabled : (Act.answerQuery call).Enabled r.session)
    (result : Except BusError (List WireValue)) :
    r.handleReply call result = (Act.answerQuery call).perform r
      ∨ ∃ owner, r.handleReply call result =
        ((Act.answerQuery call).perform r).ownerChanged "" owner := by
  rw [handleReply_query enabled.1 enabled.2]
  split
  · split
    · exact .inl rfl
    · exact .inr ⟨_, rfl⟩
  · exact .inl rfl

/-- A delivery works on elements, or removes one that is announced gone. -/
theorem handleSignal_cases (subscription : SubscriptionId) (sender : Path) (member : String)
    (args : List WireValue) (r : Run) :
    Steps Act.Works r (r.handleSignal subscription member args)
      ∨ ∃ path, r.handleSignal subscription member args = r.removeTree path
        ∧ r.session.Dismisses path (.dispatch (.signal subscription sender member args)) := by
  unfold handleSignal
  split
  · exact .inl .refl
  · exact .inl .refl
  · split
    · exact .inl ((change_steps _ _ _ _ r).mono Act.Changes.works)
    · exact .inl .refl
  · split
    · exact .inl ((applyChanges_steps _ _ r).mono Act.Changes.works)
    · exact .inl .refl
  · rename_i action routed
    split
    · rename_i target rest decoded
      unfold applyLifecycle
      cases action with
      | added interface =>
        dsimp only
        split
        · rename_i allowed
          exact .inl ((adopt_steps (Session.level_below_root allowed)).mono Act.Grows.works)
        · exact .inl .refl
      | removed => exact .inr ⟨target, remove_run target r, routed, rest, decoded⟩
    · exact .inl .refl
  · split
    · split
      · left
        apply emit_steps _ (by decide)
        rfl
      · exact .inl .refl
    · exact .inl .refl

end Run

namespace Operation

theorem turn_of_init (r : Run) : init.Turn r := by
  show init.Turn r
  have after : (init.perform r).2 = r.init := rfl
  unfold Run.init at after
  dsimp only at after
  by_cases unused : r.session.users = 0
  · rw [if_pos (by omega), unused] at after
    exact .starts unused after
  · rw [if_neg (by omega)] at after
    exact .counts _ (by omega) (by omega) after

theorem turn_of_shutdown (r : Run) : shutdown.Turn r := by
  have after : (shutdown.perform r).2 = r.shutdown := rfl
  cases count : r.session.users with
  | zero =>
    refine .works ?_
    rw [after]
    unfold Run.shutdown
    rw [count]
    exact .refl
  | succ rest =>
    cases rest with
    | zero => exact .ends count rfl after
    | succ users =>
      unfold Run.shutdown at after
      rw [count] at after
      exact .counts (users + 1) (by omega) (by omega) after

/-- The reply to a call of an element is taken, what it brings is merged, and its completion is
told. -/
theorem reply_works {r : Run} {call : CallId} {path : Path} {kind : CallKind}
    {purpose : CallPurpose} {completion : Option Completion}
    (routed : Table.get? r.session.callRoutes call = some (.element path kind purpose))
    (held : r.session.slot? path kind = some ⟨call, completion⟩)
    (result : Except BusError (List WireValue)) :
    Steps Act.Works r ((dispatch (.reply call result)).perform r).2 := by
  have taken : Steps Act.Works r ((Act.answer call path kind).perform r) :=
    Steps.one trivial (Act.answer_enabled routed held)
  obtain ⟨r₁, steps, after⟩ := Run.handleReply_call_steps routed held result
  rw [perform_reply, after]
  refine (taken.trans (steps.mono Act.Changes.works)).trans ?_
  apply (r₁.complete_steps completion _).mono
  rintro a ⟨c, _, rfl⟩
  trivial

theorem turn {r : Run} (sound : r.session.Sound) (op : Operation) : op.Turn r := by
  by_cases extending : op.Extends
  · exact .works (perform_extends extending Act.Grows.works (fun _ _ _ _ _ => trivial) r)
  cases op.course sound with
  | query call result reply enabled _ =>
    subst reply
    refine .answered call result rfl enabled ?_
    rw [perform_reply]
    exact Run.handleReply_query_cases enabled result
  | call call result path kind purpose completion r₁ reply routed held steps after =>
    subst reply
    exact .works (reply_works routed held result)
  | own _ unheard =>
    cases op with
    | init => exact turn_of_init r
    | shutdown => exact turn_of_shutdown r
    | remove path => exact .removes path (Run.remove_run path r) (.inl rfl)
    | change path name value =>
      refine .works ?_
      rw [perform_change]
      exact (Run.change_steps path name value none r).mono Act.Changes.works
    | setHandler kind handler =>
      exact .works (Steps.one (a := .setHandler kind handler) trivial trivial)
    | relist order => exact .works (Steps.one (a := .relist order) trivial trivial)
    | dispatch event =>
      have after := congrArg Prod.snd (perform_dispatch event r)
      cases event with
      | reply call result =>
        refine .works ?_
        rw [perform_reply, Run.handleReply_of_none (unheard call result rfl)]
        exact .refl
      | signal subscription path member args =>
        rcases Run.handleSignal_cases subscription path member args r with
          steps | ⟨target, removed, cause⟩
        · exact .works (after ▸ steps)
        · exact .removes target (after.trans removed) (.inr cause)
      | ownerChanged subscription name oldOwner newOwner =>
        change _ = r.handleOwnerChanged subscription name oldOwner newOwner at after
        unfold Run.handleOwnerChanged at after
        by_cases heard : Table.get? r.session.signalRoutes subscription = some .nameOwner
            ∧ name = r.session.config.service
        · obtain ⟨routed, rfl⟩ := heard
          rw [if_pos ⟨routed, rfl⟩] at after
          exact .notified subscription oldOwner newOwner rfl
            ((sound.routed.signals.owner subscription).mp routed) after
        · rw [if_neg heard] at after
          refine .works ?_
          rw [after]
          exact .refl
    | _ => exact absurd trivial extending

end Operation

/-! ## 4. Users and the owner -/

/-- Without users no owner is known. -/
def Session.Resting (s : Session) : Prop := s.users = 0 → s.state = .absent

namespace Operation

theorem perform_resting {r : Run} (sound : r.session.Sound) (resting : r.session.Resting)
    (op : Operation) : (op.perform r).2.session.Resting := by
  unfold Session.Resting Session.users Session.state at resting ⊢
  cases op.turn sound with
  | works steps => rwa [steps.works_inside.inside_ownership]
  | removes path after =>
    rw [after]
    rwa [(Run.removeTree_inside path r).inside_ownership]
  | starts unused after =>
    rw [after]
    exact fun none => absurd none Nat.one_ne_zero
  | counts users before left after =>
    rw [after]
    exact fun none => absurd none (Nat.ne_of_gt left)
  | ends last shut after =>
    rw [after]
    exact fun _ => Run.shutdown_last_state last
  | notified subscription oldOwner newOwner event watched after =>
    -- who is notified has a watch, and so it has users
    rw [after, Run.ownerChanged_ownership]
    intro none
    rw [(sound.idle none).1] at watched
    cases watched
  | answered call result event enabled after =>
    rcases after with after | ⟨owner, after⟩
    · rw [after]
      exact resting
    · rw [after, Run.ownerChanged_ownership]
      intro none
      have asked := enabled.2
      rw [(sound.idle none).2] at asked
      cases asked

end Operation

theorem Run.performAll_resting {r : Run} (sound : r.session.Sound) (resting : r.session.Resting)
    (ops : List Operation) : (r.performAll ops).session.Resting :=
  performAll_sound_keeps (I := fun q => q.session.Resting)
    (fun _ op sound resting => op.perform_resting sound resting) sound resting ops

end BusCache
