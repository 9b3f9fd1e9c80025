import BusCache.Proofs.Session.Waiting

/-!
# Completions — each is told once

A completion that is handed over with an operation waits in the slot of the call that the operation
sends. It leaves the slot in one of two ways: the reply to its call takes it, or the removal of its
element does, and either tells it. An operation that fails drops its completion untold.
-/

namespace BusCache

/-! ## 1. Operations -/

theorem Act.Comes.spares {a : Act} {c : Completion} (h : a.Comes) : a.Spares c := by
  cases a with
  | send path kind purpose completion call =>
    have none : completion = none := h.1
    show completion ≠ some c
    rw [none]
    exact (Option.some_ne_none c).symm
  | tell d outcome => exact h.elim
  | _ => trivial

theorem Act.Changes.spares {a : Act} {c : Completion} (h : a.Changes) : a.Spares c := by
  cases a with
  | send path kind purpose completion call =>
    have none : completion = none := h.1
    show completion ≠ some c
    rw [none]
    exact (Option.some_ne_none c).symm
  | tell d outcome => exact h.elim
  | _ => trivial

theorem Operation.Takes.spares {op : Operation} {a : Act} {c : Completion} (h : op.Takes a)
    (other : op.completion? ≠ some c) : a.Spares c := by
  cases a with
  | send path kind purpose completion call =>
    show completion ≠ some c
    rcases h with ⟨rfl, _⟩ | ⟨rfl, _⟩
    · exact (Option.some_ne_none c).symm
    · exact other
  | tell d outcome => exact h.elim
  | _ => trivial

/-- What takes no reply frees no slot by itself. -/
theorem Act.Leaves.of_spares {a : Act} {c : Completion} (spares : a.Spares c)
    (unheard : a.answers? = none) (call : CallId) : a.Leaves c call := by
  refine ⟨spares, ?_⟩
  rintro path kind rfl
  cases unheard

section Operations

variable {r : Run} {op : Operation} {c : Completion}

theorem Run.complete_outcomes (r : Run) (completion : Option Completion)
    (outcome : Except BusError (List Value)) (c : Completion) :
    (r.complete completion outcome).outcomes c =
      r.outcomes c ++ if completion = some c then [outcome] else [] := by
  cases completion with
  | none => exact (List.append_nil _).symm
  | some d =>
    unfold outcomes
    have trace : (r.complete (some d) outcome).trace = r.trace ++ [_] := rfl
    rw [shown_append (Effect.told? c) trace]
    congr 1
    by_cases h : d = c
    · subst h
      simp [Effect.told?]
    · simp [Effect.told?, h]

theorem Operation.perform_lacks (sound : r.session.Sound)
    (other : op.completion? ≠ some c) (lacks : r.session.Lacks c) :
    (op.perform r).2.session.Lacks c ∧ (op.perform r).2.outcomes c = r.outcomes c := by
  cases op.course sound with
  | own steps unheard => exact steps.lacks (fun _ taken => taken.spares other) lacks
  | query call result reply enabled steps =>
    obtain ⟨lacks₁, same₁⟩ := lacks.perform enabled trivial
    obtain ⟨lacks₂, same₂⟩ := steps.lacks (fun _ comes => comes.spares) lacks₁
    exact ⟨lacks₂, same₂.trans same₁⟩
  | call call result path kind purpose completion r₁ reply hroute held steps after =>
    have enabled := Act.answer_enabled hroute held
    obtain ⟨lacks₁, same₁⟩ := lacks.perform enabled trivial
    obtain ⟨lacks₂, same₂⟩ := steps.lacks (fun _ changes => changes.spares) lacks₁
    rw [after, Run.complete_session, Run.complete_outcomes, if_neg (lacks path kind _ held),
      List.append_nil]
    exact ⟨lacks₂, same₂.trans same₁⟩

/-- A completion that waits goes on waiting, or is canceled with its element, or is told the outcome
of the reply to its call. -/
theorem Operation.perform_waits {call : CallId} {path : Path} {kind : CallKind}
    {purpose : CallPurpose} (sound : r.session.Sound)
    (other : op.completion? ≠ some c) (w : r.Waits c call path kind purpose) :
    (∀ result, op ≠ .dispatch (.reply call result))
        ∧ ((op.perform r).2.Waits c call path kind purpose
          ∨ (op.perform r).2.session.Lacks c ∧ (op.perform r).2.outcomes c = [.error .canceled]
            ∧ r.CanceledBetween (op.perform r).2 c path)
      ∨ ∃ result, op = .dispatch (.reply call result) ∧ (op.perform r).2.session.Lacks c
          ∧ (op.perform r).2.outcomes c = [purpose.outcome result] := by
  have routed := sound.routed
  cases op.course sound with
  | own steps unheard =>
    left
    constructor
    · -- a reply to the call would have been heard
      intro result reply
      have unrouted := unheard call result reply
      rw [w.routed] at unrouted
      cases unrouted
    · apply Steps.waits _ routed w
      exact steps.mono fun a taken => .of_spares (taken.spares other) taken.unheard call
  | query asked result reply enabled steps =>
    left
    constructor
    · intro result' reply'
      rw [reply] at reply'
      cases reply'
      have owner := enabled.1
      rw [w.routed] at owner
      cases owner
    · have settled : Steps (Act.Leaves c call) r ((Act.answerQuery asked).perform r) :=
        Steps.one ⟨trivial, fun _ _ h => by cases h⟩ enabled
      have came : Steps (Act.Leaves c call) _ (op.perform r).2 :=
        steps.mono fun a comes => .of_spares comes.spares comes.unheard call
      exact Steps.waits (settled.trans came) routed w
  | call answered result p k purpose' completion r₁ reply hroute held steps after =>
    have enabled := Act.answer_enabled hroute held
    by_cases mine : answered = call
    · subst mine
      right
      -- the reply is to the call that the completion waits for
      rw [w.routed] at hroute
      cases hroute
      rw [w.held] at held
      cases held
      have lacks := w.answer
      have untold : ((Act.answer answered path kind).perform r).outcomes c = [] := w.untold
      obtain ⟨lacks₁, same₁⟩ := steps.lacks (fun _ changes => changes.spares) lacks
      refine ⟨result, reply, ?_, ?_⟩
      · rw [after, Run.complete_session]
        exact lacks₁
      · rw [after, Run.complete_outcomes, same₁, untold, if_pos rfl, List.nil_append]
    · left
      constructor
      · intro result' reply'
        rw [reply] at reply'
        cases reply'
        exact mine rfl
      · -- the completion that is told in the end waited for another call
        have foreign : completion ≠ some c := by
          intro hc
          obtain ⟨rfl, rfl⟩ := w.alone p k _ held hc
          rw [w.held] at held
          cases held
          exact mine rfl
        have taken : Steps (Act.Leaves c call) r ((Act.answer answered p k).perform r) := by
          refine Steps.one ⟨trivial, ?_⟩ enabled
          intro _ _ he
          cases he
          exact mine rfl
        have changed : Steps (Act.Leaves c call) _ r₁ :=
          steps.mono fun a changes => .of_spares changes.spares changes.unheard call
        have told : Steps (Act.Leaves c call) r₁ (op.perform r).2 := by
          rw [after]
          apply (r₁.complete_steps completion (purpose'.outcome result)).mono
          rintro a ⟨d, rfl, rfl⟩
          exact ⟨fun hd => foreign (by rw [hd]), fun _ _ h => by cases h⟩
        exact Steps.waits ((taken.trans changed).trans told) routed w

/-- An operation with a completion fails and changes nothing, or the completion waits from then on
for the call that was sent last. -/
theorem Operation.perform_accepts (passed : op.completion? = some c) (lacks : r.session.Lacks c)
    (untold : r.outcomes c = []) :
    (∃ error, op.perform r = (.error error, r))
      ∨ ∃ path kind purpose call message, op.place? = some (path, kind, purpose)
          ∧ (op.perform r).1 = .ok .done
          ∧ (op.perform r).2.trace.getLast?.map Moment.effect = some (.call call message)
          ∧ (op.perform r).2.Waits c call path kind purpose := by
  obtain ⟨path, kind, purpose, place⟩ := place?_isSome passed
  obtain ⟨a, sends, same⟩ := perform_sends place r
  rw [passed] at sends
  rw [same, silent_apply]
  rcases sends with ⟨error, he⟩ | ⟨r₁, message, steps, enabled, ho⟩
  · left
    exact ⟨error, by rw [he]; rfl⟩
  · right
    have spared : ∀ a, Act.Subscribes a → a.Spares c := by
      intro a subscribes
      cases a <;> first | exact subscribes.elim | trivial
    -- subscribing comes before the call and has no completion
    obtain ⟨lacks₁, same₁⟩ := steps.lacks spared lacks
    refine ⟨path, kind, purpose, r₁.nextCall, message, place, ?_, ?_, ?_⟩
    · rw [ho]
      rfl
    · rw [ho]
      show (r₁.trace ++ [_]).getLast?.map Moment.effect = _
      rw [List.getLast?_concat]
      rfl
    · rw [ho]
      have slots := Session.slot?_of_tracked
        (r₁.sendCall_registry path kind purpose (some c) message) enabled.2.1
      refine ⟨?_, Table.get?_set_self _ _ _, ?_, ?_⟩
      · show (r₁.sendCall path kind purpose (some c) message).session.slot? path kind = _
        rw [slots, if_pos ⟨rfl, rfl⟩]
      · intro p k slot held hc
        by_contra elsewhere
        have old : r₁.session.slot? p k = some slot := by
          rw [← held, slots, if_neg elsewhere]
        exact lacks₁ p k slot old hc
      · show (r₁.sendCall path kind purpose (some c) message).outcomes c = []
        have shown :=
          Act.perform_shown (Effect.told? c) (.send path kind purpose (some c) message) r₁
        unfold Run.outcomes at same₁ untold ⊢
        rw [same₁, untold] at shown
        exact shown

end Operations

/-! ## 2. Histories -/

/-- What becomes of a completion in the operations after the one that it was accepted with. -/
inductive Run.Fate (r : Run) (after : List Operation) (c : Completion) (call : CallId)
    (path : Path) (kind : CallKind) (purpose : CallPurpose) : Prop
  /-- It waits still. -/
  | waiting (unanswered : ∀ result, .dispatch (.reply call result) ∉ after)
      (waits : (r.performAll after).Waits c call path kind purpose)
  /-- It waited until the first reply to its call and was told the outcome. -/
  | answered (mid : List Operation) (result : Except BusError (List WireValue))
      (rest : List Operation) (split : after = mid ++ .dispatch (.reply call result) :: rest)
      (first : ∀ other, .dispatch (.reply call other) ∉ mid)
      (waited : (r.performAll mid).Waits c call path kind purpose)
      (free : (r.performAll after).session.Lacks c)
      (told : (r.performAll after).outcomes c = [purpose.outcome result])
  /-- It waited until its element was removed and was told that its call is canceled. -/
  | canceled (mid : List Operation) (op : Operation) (rest : List Operation)
      (split : after = mid ++ op :: rest)
      (unanswered : ∀ result, .dispatch (.reply call result) ∉ mid ++ [op])
      (waited : (r.performAll mid).Waits c call path kind purpose)
      (removed : (r.performAll mid).CanceledBetween (r.performAll (mid ++ [op])) c path)
      (free : (r.performAll after).session.Lacks c)
      (told : (r.performAll after).outcomes c = [.error .canceled])

namespace Run

theorem performAll_lacks {r : Run} {c : Completion} (sound : r.session.Sound)
    (lacks : r.session.Lacks c) {ops : List Operation}
    (once : ∀ op ∈ ops, op.completion? ≠ some c) :
    (r.performAll ops).session.Lacks c ∧ (r.performAll ops).outcomes c = r.outcomes c := by
  induction ops using List.reverseRecOn with
  | nil => exact ⟨lacks, rfl⟩
  | append_singleton ops op ih =>
    obtain ⟨lacks', same⟩ := ih fun o ho => once o (List.mem_append_left _ ho)
    have other := once op (List.mem_append_right _ List.mem_cons_self)
    obtain ⟨lacks'', same'⟩ := op.perform_lacks (performAll_sound sound ops) other lacks'
    rw [performAll_concat]
    exact ⟨lacks'', same'.trans same⟩

variable {r : Run} {c : Completion} {call : CallId} {path : Path} {kind : CallKind}
  {purpose : CallPurpose}

/-- A completion that waits has one of the three fates, whatever follows. -/
theorem Waits.fate (w : r.Waits c call path kind purpose) (sound : r.session.Sound)
    {after : List Operation} (once : ∀ op ∈ after, op.completion? ≠ some c) :
    r.Fate after c call path kind purpose := by
  -- on the last operation; only a completion that waits still can change its fate
  induction after using List.reverseRecOn with
  | nil => exact .waiting (fun _ => List.not_mem_nil) w
  | append_singleton ops op ih =>
    have sound := performAll_sound sound ops
    have other := once op (List.mem_append_right _ List.mem_cons_self)
    have next := performAll_concat ops op r
    cases ih fun o ho => once o (List.mem_append_left _ ho) with
    | waiting unanswered waits =>
      rcases op.perform_waits sound other waits with
        ⟨unheard, state⟩ | ⟨result, rfl, lacks, told⟩
      · have silent : ∀ result, .dispatch (.reply call result) ∉ ops ++ [op] := by
          intro result hmem
          rcases List.mem_append.mp hmem with old | new
          · exact unanswered result old
          · exact unheard result (List.mem_singleton.mp new).symm
        rw [← next] at state
        rcases state with still | ⟨lacks, told, removed⟩
        · exact .waiting silent still
        · exact .canceled ops op [] rfl silent waits removed lacks told
      · rw [← next] at lacks told
        exact .answered ops result [] rfl unanswered waits lacks told
    | answered mid result rest split first waited free told =>
      obtain ⟨lacks, same⟩ := op.perform_lacks sound other free
      rw [← next] at lacks same
      refine .answered mid result (rest ++ [op]) ?_ first waited lacks (same.trans told)
      rw [split, List.append_assoc, List.cons_append]
    | canceled mid breaker rest split unanswered waited removed free told =>
      obtain ⟨lacks, same⟩ := op.perform_lacks sound other free
      rw [← next] at lacks same
      refine .canceled mid breaker (rest ++ [op]) ?_ unanswered waited removed lacks
        (same.trans told)
      rw [split, List.append_assoc, List.cons_append]

end Run

/-! ## 3. Teardown -/

/-- The owner that was known is gone. -/
def Transition.Ends : Transition → Prop
  | exit => True
  | replace _ => True
  | _ => False

/-- An operation that tears a session down: the owner is lost or replaced, or the last user
leaves. -/
def Operation.TearsDown (s : Session) : Operation → Prop
  | shutdown => s.users = 1
  | dispatch (.ownerChanged subscription name oldOwner newOwner) =>
      s.ownership.watch = some subscription ∧ name = s.config.service
        ∧ (s.state.classify oldOwner newOwner).Ends
  | dispatch (.reply asked result) =>
      s.ownership.query = some asked ∧ ∃ owner rest,
        result >>= WireValue.decodeAll = .ok (.string owner :: rest)
          ∧ owner.isEmpty = false ∧ (s.state.classify "" owner).Ends
  | _ => False

/-- No completion waits for a call. -/
def Session.Unwaited (s : Session) : Prop :=
  ∀ path kind slot, s.slot? path kind = some slot → slot.completion = none

theorem Session.unwaited_of_empty {s : Session} (empty : ∀ path, s.element? path = none) :
    s.Unwaited := by
  intro path kind slot held
  have none : s.slot? path kind = none := look_of_element?_none (empty path)
  rw [none] at held
  cases held

namespace Run

theorem exit_unwaited (r : Run) : r.exit.session.Unwaited :=
  Session.unwaited_of_empty fun path => removeAll_element? r path

/-- The coming of an owner sends calls that nobody waits for. -/
theorem enter_unwaited {r : Run} (owner : String) (h : r.session.Unwaited) :
    (r.enter owner).session.Unwaited := by
  apply (enter_steps owner r).preserves (I := fun q => q.session.Unwaited) _ h
  intro q a comes enabled unwaited path kind slot held
  -- a call sent on the way has no completion, and the others were there before
  rcases enabled.slot_old_or_sent held with old | ⟨purpose, call, rfl⟩
  · exact unwaited path kind slot old
  · exact comes.1

theorem ownerChanged_unwaited {r : Run} {oldOwner newOwner : String}
    (ends : (r.session.state.classify oldOwner newOwner).Ends) :
    (r.ownerChanged oldOwner newOwner).session.Unwaited := by
  unfold ownerChanged
  split
  · rename_i owner classified
    rw [classified] at ends
    exact ends.elim
  · exact r.exit_unwaited
  · exact enter_unwaited _ r.exit_unwaited
  · rename_i classified
    rw [classified] at ends
    exact ends.elim

end Run

theorem Operation.TearsDown.unwaited {r : Run} {op : Operation} (h : op.TearsDown r.session)
    (routed : r.session.Routed) : (op.perform r).2.session.Unwaited := by
  cases op with
  | shutdown => exact Session.unwaited_of_empty (Run.shutdown_last (r := r) h).1
  | dispatch event =>
    cases event with
    | reply call result =>
      obtain ⟨asked, owner, rest, answer, named, ends⟩ := h
      rw [perform_reply, Run.handleReply_query ((routed.calls.owner call).mpr asked) asked, answer]
      dsimp only
      rw [named]
      exact Run.ownerChanged_unwaited ends
    | signal _ _ _ _ => exact h.elim
    | ownerChanged subscription name oldOwner newOwner =>
      obtain ⟨watched, rfl, ends⟩ := h
      show (r.handleOwnerChanged subscription _ oldOwner newOwner).session.Unwaited
      rw [Run.handleOwnerChanged_watched routed watched]
      exact Run.ownerChanged_unwaited ends
  | _ => exact h.elim

/-- A completion that waits is told by the end of the first teardown. -/
theorem Run.Waits.told_of_teardown {r : Run} {c : Completion} {call : CallId} {path : Path}
    {kind : CallKind} {purpose : CallPurpose} (w : r.Waits c call path kind purpose)
    (sound : r.session.Sound) {mid rest : List Operation} {last : Operation}
    (once : ∀ op ∈ mid ++ last :: rest, op.completion? ≠ some c)
    (torn : last.TearsDown (r.performAll mid).session) :
    (r.performAll (mid ++ last :: rest)).session.Lacks c
      ∧ ∃ outcome, (r.performAll (mid ++ last :: rest)).outcomes c = [outcome] := by
  have join : mid ++ last :: rest = (mid ++ [last]) ++ rest := by
    rw [List.append_assoc, List.singleton_append]
  rw [join] at once ⊢
  have unwaited : (r.performAll (mid ++ [last])).session.Unwaited := by
    rw [performAll_concat]
    exact torn.unwaited (performAll_sound sound mid).routed
  -- the teardown leaves nothing waiting, so the fate by then is one of the other two
  have done : (r.performAll (mid ++ [last])).session.Lacks c
      ∧ ∃ outcome, (r.performAll (mid ++ [last])).outcomes c = [outcome] := by
    cases w.fate sound fun op hop => once op (List.mem_append_left _ hop) with
    | waiting _ still =>
      have none := unwaited path kind _ still.held
      cases none
    | answered _ _ _ _ _ _ free told => exact ⟨free, _, told⟩
    | canceled _ _ _ _ _ _ _ free told => exact ⟨free, _, told⟩
  obtain ⟨free, outcome, told⟩ := done
  obtain ⟨free', same⟩ := performAll_lacks (performAll_sound sound (mid ++ [last])) free
    fun op hop => once op (List.mem_append_right _ hop)
  rw [performAll_append]
  exact ⟨free', outcome, same.trans told⟩

/-- Completions run exactly once. A completion is handed over with one operation, and then it is out
of the application's hands. If the operation fails, the completion is dropped: no call has it, and
it is never told anything. If the operation succeeds, it sent a call as its last effect, and at
every later moment the completion waits in the slot of that call and was told nothing, or it is in
no slot and was told one outcome: that of the first reply to the call, or that the call is canceled,
after the removal of the element was announced and its path stopped resolving. Once the session was
torn down after the operation, it was told. -/
theorem completions_run_once (config : Config) (numbering : Numbering) (listing : Listing)
    (before after : List Operation) (op : Operation) (c : Completion)
    (passed : op.completion? = some c)
    (once : ∀ other ∈ before ++ after, other.completion? ≠ some c) :
    let r₀ := (Run.start config numbering listing).performAll before
    let r₁ := (op.perform r₀).2
    let r := (Run.start config numbering listing).performAll (before ++ op :: after)
    ((∃ error, (op.perform r₀).1 = .error error) → r.session.Lacks c ∧ r.outcomes c = [])
    ∧ ((∃ answer, (op.perform r₀).1 = .ok answer) →
      ∃ path kind purpose call message,
        op.place? = some (path, kind, purpose)
        ∧ r₁.trace.getLast?.map Moment.effect = some (.call call message)
        ∧ r₁.Fate after c call path kind purpose
        ∧ ∀ mid last rest, after = mid ++ last :: rest →
            last.TearsDown (r₁.performAll mid).session →
            r.session.Lacks c ∧ ∃ outcome, r.outcomes c = [outcome]) := by
  intro r₀ r₁ r
  have sound := Run.start_sound config numbering listing
  have sound₀ : r₀.session.Sound := Run.performAll_sound sound before
  have sound₁ : r₁.session.Sound := op.perform_sound sound₀
  have later : ∀ o ∈ after, o.completion? ≠ some c :=
    fun o ho => once o (List.mem_append_right _ ho)
  have hr : r = r₁.performAll after := Run.performAll_append before (op :: after) _
  rw [hr]
  -- before the operation nothing has the completion, as it was not handed over yet
  have unknown : (Run.start config numbering listing).session.Lacks c :=
    fun _ _ _ held => by cases held
  obtain ⟨lacks, untold⟩ := Run.performAll_lacks sound unknown
    fun o ho => once o (List.mem_append_left _ ho)
  rcases Operation.perform_accepts passed lacks untold with
    ⟨error, failed⟩ | ⟨path, kind, purpose, call, message, place, accepted, sent, waits⟩
  · -- a failed operation left the run as it was
    have same : r₁ = r₀ := congrArg Prod.snd failed
    have outcome : (op.perform r₀).1 = .error error := congrArg Prod.fst failed
    refine ⟨fun _ => ?_, fun ⟨answer, ok⟩ => ?_⟩
    · rw [same]
      obtain ⟨lacks', untold'⟩ := Run.performAll_lacks sound₀ lacks later
      exact ⟨lacks', untold'.trans untold⟩
    · rw [outcome] at ok
      cases ok
  · refine ⟨fun ⟨error, failed⟩ => ?_, fun _ => ?_⟩
    · rw [accepted] at failed
      cases failed
    · refine ⟨path, kind, purpose, call, message, place, sent, waits.fate sound₁ later, ?_⟩
      intro mid last rest split torn
      rw [split] at later ⊢
      exact waits.told_of_teardown sound₁ later torn

/-- A call that the last user leaves behind. -/
theorem shutdown_tells_waiting_completion :
    let config : Config :=
      { service := "net.connman", rootPath := "/", rootInterface := "net.connman.Manager",
        protocol := .legacy }
    let before : List Operation :=
      [.init, .dispatch (.ownerChanged ⟨1⟩ "net.connman" "" ":1.5")]
    let op : Operation := .call "/" ⟨"manager-connect"⟩ "Connect" [] (some ⟨7⟩)
    op.completion? = some ⟨7⟩
    ∧ (∀ other ∈ before ++ [.shutdown], other.completion? ≠ some ⟨7⟩)
    ∧ ∃ outcome, ((Run.start config .counting .ascending).performAll
        (before ++ [op, .shutdown])).outcomes ⟨7⟩ = [outcome] := by
  intro config before op
  have passed : op.completion? = some ⟨7⟩ := rfl
  have once : ∀ other ∈ before ++ [Operation.shutdown], other.completion? ≠ some ⟨7⟩ := by decide
  obtain ⟨_, accepted⟩ :=
    completions_run_once config .counting .ascending before [.shutdown] op ⟨7⟩ passed once
  obtain ⟨_, _, _, _, _, _, _, _, torn⟩ := accepted ⟨.done, rfl⟩
  exact ⟨passed, once, (torn [] .shutdown [] rfl rfl).2⟩

end BusCache
