import BusCache.Proofs.Session.Turns

/-!
# Owner tracking — a session knows who owns the name

A session that has users is told of every change of the name's owner, and once of the owner at the
start. The answer comes at its place among the changes, and anything else may come in between. From
the first change or the answer on, the session knows the owner as the last change left it.
-/

namespace BusCache

/-! ## 1. What a change of owners leaves -/

namespace ServiceState

/-- A service whose name has an owner, or has none. -/
def ofOwner (owner : String) : ServiceState := if owner.isEmpty then .absent else .present owner

theorem ofOwner_of_empty {owner : String} (nobody : owner.isEmpty = true) :
    ofOwner owner = .absent := by
  unfold ofOwner
  rw [nobody]
  rfl

theorem ofOwner_of_name {owner : String} (named : owner.isEmpty = false) :
    ofOwner owner = .present owner := by
  unfold ofOwner
  rw [named]
  rfl

theorem absent_after (oldOwner newOwner : String) :
    absent.after oldOwner newOwner = ofOwner newOwner := by
  unfold after classify ofOwner
  dsimp only
  cases newOwner.isEmpty <;> rfl

/-- A change from the known owner leaves the new one. -/
theorem ofOwner_after (oldOwner newOwner : String) :
    (ofOwner oldOwner).after oldOwner newOwner = ofOwner newOwner := by
  cases known : oldOwner.isEmpty with
  | true => rw [ofOwner_of_empty known, absent_after]
  | false =>
    rw [ofOwner_of_name known]
    unfold after classify
    dsimp only
    cases named : newOwner.isEmpty with
    | true =>
      -- the owner that leaves is the known one
      rw [ofOwner_of_empty named]
      simp
    | false =>
      rw [ofOwner_of_name named]
      by_cases same : oldOwner = newOwner
      · simp [same]
      · simp [same]

/-- The answer to the question at the start tells nothing new once a change was told. -/
theorem ofOwner_after_same {owner : String} (named : owner.isEmpty = false) :
    (ofOwner owner).after "" owner = ofOwner owner := by
  rw [ofOwner_of_name named]
  unfold after classify
  simp [named]

end ServiceState

/-! ## 2. What a session is told -/

/-- What the bus answers who owns a name: the owner, or an error if there is none. -/
def AnswersOwner (owner : String) (result : Except BusError (List WireValue)) : Prop :=
  result = .ok [.string owner] ∨ owner = "" ∧ ∃ error, result = .error error

/-- Neither tells of a change of the owner nor answers the question, unless that is settled. -/
def Operation.Aside (config : Config) (watch : SubscriptionId) (query : CallId) (answered : Bool) :
    Operation → Prop
  | dispatch (.ownerChanged subscription name _ _) => subscription = watch → name ≠ config.service
  | dispatch (.reply asked _) => asked = query → answered = true
  | _ => True

/-- The operations of a history in which a session is told of the changes of owners in their order
and, at some point among them, who the owner is at that point, with the number of changes told so
far and whether the question is answered. In between come operations that leave the session with
users. -/
inductive Told (r : Run) (watch : SubscriptionId) (query : CallId) (owners : Nat → String) :
    List Operation → Nat → Bool → Prop
  | start : Told r watch query owners [] 0 false
  | change {ops : List Operation} {changes : Nat} {answered : Bool}
      (before : Told r watch query owners ops changes answered) :
      Told r watch query owners
        (ops ++ [.dispatch (.ownerChanged watch r.session.config.service (owners changes)
          (owners (changes + 1)))]) (changes + 1) answered
  | answer {ops : List Operation} {changes : Nat} {result : Except BusError (List WireValue)}
      (before : Told r watch query owners ops changes false)
      (answers : AnswersOwner (owners changes) result) :
      Told r watch query owners (ops ++ [.dispatch (.reply query result)]) changes true
  | aside {ops : List Operation} {changes : Nat} {answered : Bool} {op : Operation}
      (before : Told r watch query owners ops changes answered)
      (aside : op.Aside r.session.config watch query answered)
      (used : 0 < (r.performAll (ops ++ [op])).session.users) :
      Told r watch query owners (ops ++ [op]) changes answered

/-! ## 3. What a session knows -/

/-- A session with users that watches the name and knows the service to be in some state. -/
structure Session.Knows (s : Session) (watch : SubscriptionId) (query : CallId) (answered : Bool)
    (state : ServiceState) : Prop where
  used : 0 < s.users
  watch : s.ownership.watch = some watch
  query : s.ownership.query = if answered then none else some query
  state : s.state = state

namespace Session.Knows

variable {s t : Session} {watch : SubscriptionId} {query : CallId} {answered : Bool}
  {state state' : ServiceState}

/-- The first user has started the watch and asked the question. -/
theorem of_start (first : s.ownership = ⟨1, .absent, some watch, some query⟩) :
    s.Knows watch query false .absent := by
  constructor
  · unfold users
    rw [first]
    exact Nat.one_pos
  · rw [first]
  · rw [first]
    rfl
  · unfold Session.state
    rw [first]

theorem of_state (h : s.Knows watch query answered state)
    (after : t.ownership = { s.ownership with state := state' }) :
    t.Knows watch query answered state' := by
  constructor
  · unfold users
    rw [after]
    exact h.used
  · rw [after]
    exact h.watch
  · rw [after]
    exact h.query
  · unfold Session.state
    rw [after]

theorem of_ownership (h : s.Knows watch query answered state)
    (same : t.ownership = s.ownership) : t.Knows watch query answered state := by
  apply h.of_state
  rw [same, ← h.state]
  rfl

end Session.Knows

namespace Run

variable {r : Run} {watch : SubscriptionId} {query : CallId} {answered : Bool}
  {state : ServiceState}

theorem ownerChanged_knows (h : r.session.Knows watch query answered state)
    (oldOwner newOwner : String) : (r.ownerChanged oldOwner newOwner).session.Knows watch query
      answered (state.after oldOwner newOwner) := by
  apply h.of_state
  rw [ownerChanged_ownership, h.state]

theorem answerQuery_knows (h : r.session.Knows watch query false state) :
    ((Act.answerQuery query).perform r).session.Knows watch query true state :=
  ⟨h.used, h.watch, rfl, h.state⟩

end Run

namespace Operation

variable {r : Run} {watch : SubscriptionId} {query : CallId} {answered : Bool}
  {state : ServiceState}

theorem change_knows (routed : r.session.Routed) (h : r.session.Knows watch query answered state)
    (oldOwner newOwner : String) :
    ((dispatch (.ownerChanged watch r.session.config.service oldOwner newOwner)).perform
      r).2.session.Knows watch query answered (state.after oldOwner newOwner) := by
  rw [perform_dispatch]
  show (r.handleOwnerChanged watch _ oldOwner newOwner).session.Knows _ _ _ _
  rw [Run.handleOwnerChanged_watched routed h.watch]
  exact Run.ownerChanged_knows h oldOwner newOwner

/-- The answer settles the question, and names the owner if there is one. -/
theorem answer_knows (routed : r.session.Routed) (h : r.session.Knows watch query false state)
    {owner : String} {result : Except BusError (List WireValue)}
    (answers : AnswersOwner owner result) :
    ((dispatch (.reply query result)).perform r).2.session.Knows watch query true
      (if owner.isEmpty then state else state.after "" owner) := by
  have asked : r.session.ownership.query = some query := h.query
  rw [perform_reply, Run.handleReply_query ((routed.calls.owner query).mpr asked) asked]
  have settled := Run.answerQuery_knows h
  rcases answers with rfl | ⟨rfl, error, rfl⟩
  · have read : (Except.ok [WireValue.string owner] >>= WireValue.decodeAll :
        Except BusError (List Value)) = .ok [.string owner] := rfl
    rw [read]
    dsimp only
    cases owner.isEmpty with
    | true => exact settled
    | false => exact Run.ownerChanged_knows settled "" owner
  · exact settled

/-- Everything else leaves the owner as it is known. -/
theorem aside_knows (sound : r.session.Sound) (h : r.session.Knows watch query answered state)
    {op : Operation} (aside : op.Aside r.session.config watch query answered)
    (used : 0 < (op.perform r).2.session.users) :
    (op.perform r).2.session.Knows watch query answered state := by
  cases op.turn sound with
  | works steps => exact h.of_ownership steps.works_inside.inside_ownership
  | removes path after =>
    rw [after]
    exact h.of_ownership (Run.removeTree_inside path r).inside_ownership
  | starts unused after => exact absurd unused (Nat.ne_of_gt h.used)
  | counts users before left after =>
    rw [after]
    exact ⟨left, h.watch, h.query, h.state⟩
  | ends last shut after =>
    -- the last user does not leave
    rw [after] at used
    unfold Session.users at used
    rw [Run.shutdown_last_ownership last] at used
    exact absurd used (Nat.lt_irrefl 0)
  | notified subscription oldOwner newOwner event watched after =>
    subst event
    rw [h.watch] at watched
    exact absurd rfl (aside (Option.some.inj watched).symm)
  | answered call result event enabled after =>
    subst event
    have asked := h.query
    rw [enabled.2] at asked
    split at asked
    · cases asked
    · rename_i open_
      exact absurd (aside (Option.some.inj asked)) open_

end Operation

/-! ## 4. Histories -/

/-- What a session knows of the owner that the changes have led to: nothing before it was told. -/
def ServiceState.known (owners : Nat → String) (changes : Nat) (answered : Bool) : ServiceState :=
  if changes = 0 ∧ answered = false then .absent else ofOwner (owners changes)

namespace ServiceState

theorem known_of_told {owners : Nat → String} {changes : Nat} {answered : Bool}
    (told : 0 < changes ∨ answered = true) :
    known owners changes answered = ofOwner (owners changes) := by
  unfold known
  rw [if_neg]
  rintro ⟨none, unanswered⟩
  rcases told with some | yes
  · omega
  · rw [unanswered] at yes
    cases yes

theorem known_after (owners : Nat → String) (changes : Nat) (answered : Bool) :
    (known owners changes answered).after (owners changes) (owners (changes + 1)) =
      known owners (changes + 1) answered := by
  rw [known_of_told (.inl (Nat.succ_pos changes))]
  unfold known
  split
  · exact absent_after _ _
  · exact ofOwner_after _ _

/-- The answer agrees with the changes told before it. -/
theorem known_answered (owners : Nat → String) (changes : Nat) :
    (if (owners changes).isEmpty then known owners changes false
      else (known owners changes false).after "" (owners changes)) =
        known owners changes true := by
  rw [known_of_told (.inr rfl)]
  unfold known
  cases named : (owners changes).isEmpty with
  | true =>
    -- without an owner the service is absent, whether or not a change was told
    rw [ofOwner_of_empty named, ite_self]
    rfl
  | false =>
    rw [if_neg Bool.false_ne_true]
    split
    · exact absent_after _ _
    · exact ofOwner_after_same named

end ServiceState

theorem Told.knows {r : Run} {watch : SubscriptionId} {query : CallId} {owners : Nat → String}
    {ops : List Operation} {changes : Nat} {answered : Bool} (sound : r.session.Sound)
    (start : r.session.Knows watch query false .absent)
    (told : Told r watch query owners ops changes answered) :
    (r.performAll ops).session.Knows watch query answered
      (.known owners changes answered) := by
  have config : ∀ ops, (r.performAll ops).session.config = r.session.config :=
    fun ops => (Run.performAll_acts sound ops).sameSetup.config
  -- on the operations: each of them moves on in the history of owners, or leaves the owner alone
  induction told with
  | start => exact start
  | @change ops changes answered before ih =>
    rw [Run.performAll_concat, ← config ops, ← ServiceState.known_after]
    exact Operation.change_knows (Run.performAll_sound sound ops).routed ih _ _
  | @answer ops changes result before answers ih =>
    rw [Run.performAll_concat, ← ServiceState.known_answered]
    exact Operation.answer_knows (Run.performAll_sound sound ops).routed ih answers
  | @aside ops changes answered op before aside used ih =>
    rw [Run.performAll_concat] at used ⊢
    rw [← config ops] at aside
    exact Operation.aside_knows (Run.performAll_sound sound ops) ih aside used

theorem Run.init_knows {r : Run} (unused : r.session.users = 0) (resting : r.session.Resting) :
    ∃ watch query, r.init.session.ownership = ⟨1, .absent, some watch, some query⟩ := by
  have absent := resting unused
  have after : r.init = (r.setUsers 1).openWatch.openQuery := by
    unfold init
    dsimp only
    rw [unused]
    rfl
  refine ⟨r.nextSubscription, (r.setUsers 1).openWatch.nextCall, ?_⟩
  rw [after, ← absent]
  rfl

/-- A session tracks the owner of the name, from any history on that leaves it without users. The
first user starts a watch and asks who the owner is. Whatever the owners are, wherever the answer
comes among the changes, and whatever else is done in between, from the first change or the answer
on the session is present with the owner that the last change left, and absent if it left none. -/
theorem session_tracks_owner (config : Config) (numbering : Numbering) (listing : Listing)
    (history : List Operation) (owners : Nat → String) :
    let r := (Run.start config numbering listing).performAll history
    let r₀ := (Operation.init.perform r).2
    r.session.users = 0 →
    ∃ watch query, r₀.session.ownership = ⟨1, .absent, some watch, some query⟩
      ∧ ∀ ops changes answered, Told r₀ watch query owners ops changes answered →
        0 < changes ∨ answered = true →
          (r₀.performAll ops).session.state = .ofOwner (owners changes) := by
  intro r r₀ unused
  have started := Run.start_sound config numbering listing
  have sound : r.session.Sound := Run.performAll_sound started history
  have resting : r.session.Resting := Run.performAll_resting started (fun _ => rfl) history
  obtain ⟨watch, query, ownership⟩ := Run.init_knows unused resting
  have knows : r₀.session.Knows watch query false .absent := .of_start ownership
  refine ⟨watch, query, ownership, fun ops changes answered told some => ?_⟩
  rw [(told.knows (Operation.init.perform_sound sound) knows).state,
    ServiceState.known_of_told some]

/-- The owner leaves before the question is answered, so the answer names nobody. In between an
element is created, and then a new owner comes. -/
theorem tracks_owner_that_left_before_answer :
    let config : Config :=
      { service := "net.connman", rootPath := "/", rootInterface := "net.connman.Manager",
        protocol := .legacy }
    let owners : Nat → String := fun n => [":1.5", "", ":1.7"].getD n ""
    let r := Run.start config .counting .ascending
    let r₀ := (Operation.init.perform r).2
    let ops : List Operation :=
      [.dispatch (.ownerChanged ⟨1⟩ "net.connman" ":1.5" ""),
        .create "/wifi" "net.connman.Technology",
        .dispatch (.reply ⟨2⟩ (.error (.bus "NameHasNoOwner"))),
        .dispatch (.ownerChanged ⟨1⟩ "net.connman" "" ":1.7")]
    r.session.users = 0
    ∧ Told r₀ ⟨1⟩ ⟨2⟩ owners ops 2 true
    ∧ (r₀.performAll ops).session.state = .present ":1.7" := by
  intro config owners r r₀ ops
  have left : Told r₀ ⟨1⟩ ⟨2⟩ owners (ops.take 1) 1 false := .change .start
  have created : Told r₀ ⟨1⟩ ⟨2⟩ owners (ops.take 2) 1 false :=
    .aside left trivial (by decide)
  have answered : Told r₀ ⟨1⟩ ⟨2⟩ owners (ops.take 3) 1 true :=
    .answer created (.inr ⟨rfl, _, rfl⟩)
  have told : Told r₀ ⟨1⟩ ⟨2⟩ owners ops 2 true := .change answered
  obtain ⟨watch, query, ownership, tracked⟩ :=
    session_tracks_owner config .counting .ascending [] owners rfl
  -- the first two numbers that the transport gives out are those of the watch and the question
  have first : r₀.session.ownership = ⟨1, .absent, some ⟨1⟩, some ⟨2⟩⟩ := rfl
  obtain ⟨_, _, watched, asked⟩ := Ownership.mk.inj (first.symm.trans ownership)
  cases watched
  cases asked
  exact ⟨rfl, told, tracked ops 2 true told (.inl (by decide))⟩

end BusCache
