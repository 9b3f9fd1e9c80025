import BusCache.Proofs.Session.Announcements

/-!
# The startup answer — who owned the name when a session asked

The answer to the question at the start is taken as a change from nobody to the owner that it names,
whenever it comes. If it names the known owner or nobody, only the question is settled. If it names
another owner, that owner is taken on, although the answer may be older than what is known.
-/

namespace BusCache

/-! ## 1. What an answer is taken for -/

/-- The owner that an answer names, if it names one. -/
def ownerNamed? (result : Except BusError (List WireValue)) : Option String :=
  match result >>= WireValue.decodeAll with
  | .ok (.string owner :: _) => if owner.isEmpty then none else some owner
  | _ => none

theorem ownerNamed?_isEmpty {result : Except BusError (List WireValue)} {owner : String}
    (named : ownerNamed? result = some owner) : owner.isEmpty = false := by
  unfold ownerNamed? at named
  split at named
  · split at named
    · cases named
    · rename_i some
      rw [← Option.some.inj named]
      simpa using some
  · cases named

/-- An answer that does not begin with a text names nobody. -/
theorem ownerNamed?_of_other {result : Except BusError (List WireValue)}
    (other : ∀ owner rest, result >>= WireValue.decodeAll = .ok (.string owner :: rest) → False) :
    ownerNamed? result = none := by
  unfold ownerNamed?
  split
  · rename_i answer
    exact (other _ _ answer).elim
  · rfl

namespace ServiceState

/-- A name that is taken for news makes its owner known, whatever was known before. -/
theorem after_of_named (state : ServiceState) {owner : String} (named : owner.isEmpty = false) :
    state.after "" owner = .present owner := by
  unfold after classify
  cases state with
  | absent => simp [named]
  | present known =>
    by_cases same : known = owner
    · simp [named, same]
    · simp [named, same]

end ServiceState

/-- Who asks for the owner is told one, or only that the question is settled. -/
theorem Run.handleReply_named {r : Run} {query : CallId}
    (enabled : (Act.answerQuery query).Enabled r.session)
    (result : Except BusError (List WireValue)) :
    r.handleReply query result =
      match ownerNamed? result with
      | none => (Act.answerQuery query).perform r
      | some owner => ((Act.answerQuery query).perform r).ownerChanged "" owner := by
  rw [handleReply_query enabled.1 enabled.2]
  split
  · rename_i owner rest answer
    unfold ownerNamed?
    rw [answer]
    dsimp only
    split <;> rfl
  · rename_i other
    rw [ownerNamed?_of_other other]

/-! ## 2. What becomes of the service -/

/-- The service is as it was: the same owner is known or none, no element left, and nothing was
announced about the service. -/
structure Run.LeavesService (r r' : Run) : Prop where
  state : r'.session.state = r.session.state
  elements : ∀ path, (r.session.element? path).isSome → (r'.session.element? path).isSome
  removals : r'.shown Effect.removed? = r.shown Effect.removed?
  events :
    r'.events.filter (fun e => e.kind.ofService) = r.events.filter fun e => e.kind.ofService

namespace Run

variable {r : Run} {query : CallId}

/-- The answer tells nothing new: it names the known owner, or nobody. -/
def AnswerKnown (r : Run) (result : Except BusError (List WireValue)) : Prop :=
  ∀ owner, ownerNamed? result = some owner → r.session.state = .present owner

theorem handleReply_known (enabled : (Act.answerQuery query).Enabled r.session)
    {result : Except BusError (List WireValue)} (known : r.AnswerKnown result) :
    r.handleReply query result = (Act.answerQuery query).perform r := by
  rw [handleReply_named enabled]
  cases named : ownerNamed? result with
  | none => rfl
  | some owner =>
    -- settling the question does not change what is known
    have state : ((Act.answerQuery query).perform r).session.state = .present owner :=
      known owner named
    dsimp only
    unfold ownerChanged
    rw [state, ServiceState.classify_known (ownerNamed?_isEmpty named)]

theorem handleReply_state (enabled : (Act.answerQuery query).Enabled r.session)
    {result : Except BusError (List WireValue)} {owner : String}
    (named : ownerNamed? result = some owner) :
    (r.handleReply query result).session.state = .present owner := by
  rw [handleReply_named enabled, named]
  unfold Session.state
  dsimp only
  rw [ownerChanged_ownership, ServiceState.after_of_named _ (ownerNamed?_isEmpty named)]

theorem settled_leavesService (r : Run) (query : CallId) :
    r.LeavesService ((Act.answerQuery query).perform r) :=
  ⟨rfl, fun _ here => here, rfl, rfl⟩

end Run

/-! ## 3. Histories -/

/-- In a history, the watch told of a change of owners while a question was open. -/
def Run.NotifiedSince (r : Run) (ops : List Operation) (query : CallId) : Prop :=
  ∃ before subscription oldOwner newOwner after,
    ops = before
      ++ .dispatch (.ownerChanged subscription r.session.config.service oldOwner newOwner) :: after
    ∧ (r.performAll before).session.ownership.watch = some subscription
    ∧ (r.performAll before).session.ownership.query = some query

/-- The answer to the question at the start leaves the service as it is exactly if it tells nothing
new: if it names the owner that is known when it comes, or nobody. Then only the question is
settled. An answer that names any other owner makes that owner known, also when a notification came
before it. -/
theorem startup_answer_leaves_service_iff (config : Config) (numbering : Numbering)
    (listing : Listing) (ops : List Operation) (query : CallId)
    (result : Except BusError (List WireValue))
    (asked : ((Run.start config numbering listing).performAll ops).session.ownership.query =
      some query) :
    let r := (Run.start config numbering listing).performAll ops
    let after := ((Operation.dispatch (.reply query result)).perform r).2
    (r.LeavesService after ↔
      ∀ owner, ownerNamed? result = some owner → r.session.state = .present owner)
    ∧ (r.LeavesService after →
      after.trace = r.trace ∧ after.session.registry = r.session.registry)
    ∧ ∀ owner, ownerNamed? result = some owner → after.session.state = .present owner := by
  intro r after
  have routed : r.session.Routed :=
    (Run.performAll_sound (Run.start_sound config numbering listing) ops).routed
  have enabled : (Act.answerQuery query).Enabled r.session :=
    ⟨(routed.calls.owner query).mpr asked, asked⟩
  have told : after = r.handleReply query result := Operation.perform_reply r query result
  have state : ∀ owner, ownerNamed? result = some owner → after.session.state = .present owner := by
    intro owner named
    rw [told]
    exact Run.handleReply_state enabled named
  -- who is left alone by an answer that names an owner knew that owner
  have knew : r.LeavesService after → r.AnswerKnown result := by
    intro leaves owner named
    rw [← leaves.state]
    exact state owner named
  have settles : r.AnswerKnown result → after = (Act.answerQuery query).perform r := by
    intro known
    rw [told]
    exact Run.handleReply_known enabled known
  refine ⟨⟨knew, fun known => ?_⟩, fun leaves => ?_, state⟩
  · rw [settles known]
    exact Run.settled_leavesService r query
  · rw [settles (knew leaves)]
    exact ⟨rfl, rfl⟩

/-- The owner is notified before the answer comes, which names the same one. -/
theorem startup_answer_of_known_owner :
    let config : Config :=
      { service := "net.connman", rootPath := "/", rootInterface := "net.connman.Manager",
        protocol := .legacy }
    let ops : List Operation := [.init, .dispatch (.ownerChanged ⟨1⟩ "net.connman" "" ":1.7")]
    let r := (Run.start config .counting .ascending).performAll ops
    let answer : Except BusError (List WireValue) := .ok [.string ":1.7"]
    r.session.ownership = ⟨1, .present ":1.7", some ⟨1⟩, some ⟨2⟩⟩
    ∧ ownerNamed? answer = some ":1.7"
    ∧ r.LeavesService ((Operation.dispatch (.reply ⟨2⟩ answer)).perform r).2 := by
  intro config ops r answer
  have ownership : r.session.ownership = ⟨1, .present ":1.7", some ⟨1⟩, some ⟨2⟩⟩ := by
    subst config ops r
    rfl
  have asked : r.session.ownership.query = some ⟨2⟩ := congrArg Ownership.query ownership
  have named : ownerNamed? answer = some ":1.7" := by subst answer; rfl
  obtain ⟨leaves, _⟩ :=
    startup_answer_leaves_service_iff config .counting .ascending ops ⟨2⟩ answer asked
  refine ⟨ownership, named, leaves.mpr fun owner same => ?_⟩
  rw [named] at same
  rw [← Option.some.inj same]
  exact congrArg Ownership.state ownership

/-- An answer that is older than a notification overrides it. The name had passed on when the answer
came, and the session goes back to the owner that had left: it removes the elements of the service,
and announces it down and up again. -/
theorem late_startup_answer_overrides_notification :
    let config : Config :=
      { service := "net.connman", rootPath := "/", rootInterface := "net.connman.Manager",
        protocol := .legacy }
    let ops : List Operation := [.init, .dispatch (.ownerChanged ⟨1⟩ "net.connman" ":1.5" ":1.7")]
    let r := (Run.start config .counting .ascending).performAll ops
    let after := ((Operation.dispatch (.reply ⟨2⟩ (.ok [.string ":1.5"]))).perform r).2
    r.session.ownership = ⟨1, .present ":1.7", some ⟨1⟩, some ⟨2⟩⟩
    ∧ (Run.start config .counting .ascending).NotifiedSince ops ⟨2⟩
    ∧ after.session.state = .present ":1.5"
    ∧ after.shown Effect.removed? = r.shown Effect.removed? ++ ["/"]
    ∧ (after.events.filter fun e => e.kind.ofService).map Event.kind =
        [.serviceUp, .serviceDown, .serviceUp]
    ∧ ¬ r.LeavesService after := by
  intro config ops
  have notified : (Run.start config .counting .ascending).NotifiedSince ops ⟨2⟩ :=
    ⟨[.init], ⟨1⟩, ":1.5", ":1.7", [], rfl, rfl, rfl⟩
  have evaluated : let r := (Run.start config .counting .ascending).performAll ops
      let after := ((Operation.dispatch (.reply ⟨2⟩ (.ok [.string ":1.5"]))).perform r).2
      (r.session.ownership, after.session.state, after.shown Effect.removed?,
        (after.events.filter fun e => e.kind.ofService).map Event.kind) =
          (⟨1, .present ":1.7", some ⟨1⟩, some ⟨2⟩⟩, .present ":1.5",
            r.shown Effect.removed? ++ ["/"], [.serviceUp, .serviceDown, .serviceUp]) := by
    subst config ops
    rfl
  dsimp only at evaluated ⊢
  generalize (Run.start config .counting .ascending).performAll ops = r at evaluated ⊢
  obtain ⟨known, overridden, removed, announced⟩ : _ ∧ _ ∧ _ ∧ _ := by
    simpa only [Prod.mk.injEq] using evaluated
  refine ⟨known, notified, overridden, removed, announced, fun leaves => ?_⟩
  have state : r.session.state = .present ":1.7" := congrArg Ownership.state known
  have same := leaves.state
  rw [overridden, state] at same
  exact absurd same (by decide)

end BusCache
