import BusCache.Proofs.Session.Silence
import BusCache.Proofs.Session.Lateness
import BusCache.Proofs.Session.Teardown

/-!
# Users — who keeps the watch going

A session counts its users. The first one makes it watch the name and ask for the owner, and the
last one takes it all down. In between, counting is all that users do, and nothing else counts them
or touches the watch. So a session is watching exactly while it has users, and one without users is
deaf: it has no route left, not even for the watches and questions of users who left long ago.
-/

namespace BusCache

/-! ## 1. Users and inquiries -/

namespace Operation

/-- The number of users after an operation. -/
def count (users : Nat) : Operation → Nat
  | init => users + 1
  | shutdown => users - 1
  | _ => users

end Operation

/-- A request about the owner of a name: to watch it, or to be told. -/
def Effect.inquiry? : Effect → Option (Request × String)
  | watch id name => some (.inr id, name)
  | query id name => some (.inl id, name)
  | _ => none

namespace Run

def inquiries (r : Run) : List (Request × String) := r.shown Effect.inquiry?

/-- The watches that were asked for and are not given back. -/
def watches (r : Run) : List SubscriptionId :=
  (r.inquiries.filterMap fun i => i.1.getRight?).filter fun id => id ∉ r.shown Effect.closed?

/-- The first user makes the session watch the name and ask for its owner. -/
def opening (r : Run) : List (Request × String) :=
  [(.inr (r.session.numbering.subscription r.session.issued), r.session.config.service),
    (.inl (r.session.numbering.call (r.session.issued + 1)), r.session.config.service)]

end Run

/-! ## 2. Acts -/

namespace Act

/-- Neither counts users nor starts or ends the watch or the question. -/
def Serves : Act → Prop
  | openWatch => False
  | openQuery => False
  | closeWatch => False
  | closeQuery => False
  | setUsers _ => False
  | _ => True

theorem Comes.serves (a : Act) (h : a.Comes) : a.Serves := by
  cases a <;> first | exact h.elim | trivial

theorem Changes.serves (a : Act) (h : a.Changes) : a.Serves := by
  cases a <;> first | exact h.elim | trivial

theorem Serves.ownership_eq {a : Act} {r : Run} (h : a.Serves) (enabled : a.Enabled r.session) :
    (a.perform r).session.ownership.users = r.session.ownership.users
      ∧ (a.perform r).session.ownership.watch = r.session.ownership.watch := by
  cases a with
  | release path =>
    obtain ⟨e, here⟩ := Option.isSome_iff_exists.mp enabled
    show (r.releaseElement path).session.ownership.users = _
      ∧ (r.releaseElement path).session.ownership.watch = _
    rw [Run.releaseElement_session here]
    exact ⟨rfl, rfl⟩
  | _ => first | exact h.elim | exact ⟨rfl, rfl⟩

/-- Inquiries are made where the watch and the question start, and nowhere else. -/
theorem inquires_nothing {a : Act} {r : Run} (watch : a ≠ .openWatch) (query : a ≠ .openQuery)
    (enabled : a.Enabled r.session) : (a.shows r).filterMap Effect.inquiry? = [] := by
  cases a with
  | openWatch => exact absurd rfl watch
  | openQuery => exact absurd rfl query
  | closeWatch => exact closeWatch_unseen (fun _ => rfl) r
  | closeQuery => exact closeQuery_unseen (fun _ => rfl) r
  | release path =>
    obtain ⟨e, here⟩ := Option.isSome_iff_exists.mp enabled
    exact release_unseen (fun _ => rfl) (fun _ => rfl) (fun _ _ => rfl) (fun _ _ => rfl) here
  | _ => rfl

end Act

namespace Steps

variable {P : Act → Prop} {r r' : Run}

theorem inquiries_eq (h : Steps P r r') (watch : ¬ P .openWatch) (query : ¬ P .openQuery) :
    r'.inquiries = r.inquiries := by
  apply h.shown_eq
  intro q a mem enabled
  exact Act.inquires_nothing (fun same => watch (same ▸ mem)) (fun same => query (same ▸ mem))
    enabled

theorem serves_ownership (h : Steps Act.Serves r r') :
    r'.session.ownership.users = r.session.ownership.users
      ∧ r'.session.ownership.watch = r.session.ownership.watch := by
  apply h.preserves (I := fun q => q.session.ownership.users = r.session.ownership.users
    ∧ q.session.ownership.watch = r.session.ownership.watch) _ ⟨rfl, rfl⟩
  intro q a serves enabled same
  have next := serves.ownership_eq enabled
  exact ⟨next.1.trans same.1, next.2.trans same.2⟩

/-- As long as no inquiry is made, the watches are those of before that are not given back. -/
theorem watches_eq (h : Steps P r r') (same : r'.inquiries = r.inquiries) :
    r'.watches = r.watches.filter fun id => id ∉ r'.shown Effect.closed? := by
  obtain ⟨new, trace⟩ := h.trace_extends
  unfold Run.watches
  rw [same, List.filter_filter, Run.shown_append Effect.closed? trace.symm]
  apply List.filter_congr
  intro id _
  by_cases given : id ∈ r.shown Effect.closed?
  · simp [given]
  · simp [given]

end Steps

namespace Run

variable {r : Run} {answered : CallId → Prop}

theorem watched_opened {id : SubscriptionId}
    (asked : id ∈ r.inquiries.filterMap fun i => i.1.getRight?) : id ∈ r.shown Effect.opened? := by
  obtain ⟨⟨source, name⟩, inquired, right⟩ := List.mem_filterMap.mp asked
  obtain ⟨m, mem, effect⟩ := List.mem_filterMap.mp inquired
  refine List.mem_filterMap.mpr ⟨m, mem, ?_⟩
  cases he : m.effect with
  | watch watch service =>
    rw [he] at effect
    cases effect
    exact right
  | query call service =>
    rw [he] at effect
    cases effect
    cases right
  | _ =>
    rw [he] at effect
    cases effect

/-- A watch that is not given back has a route. -/
theorem Books.watches_routed (books : r.Books answered) {id : SubscriptionId}
    (held : id ∈ r.watches) : (Table.get? r.session.signalRoutes id).isSome := by
  obtain ⟨asked, kept⟩ := List.mem_filter.mp held
  rcases books.subscriptions.accounted id (watched_opened asked) with live | closed | settled
  · exact live
  · exact absurd closed (of_decide_eq_true kept)
  · exact settled.elim

/-- The watch that a session holds is not given back. -/
theorem Books.watch_kept (books : r.Books answered) {id : SubscriptionId}
    (watched : r.session.ownership.watch = some id) : id ∉ r.shown Effect.closed? := by
  apply books.subscriptions.live_not_closed
  rw [(books.routed.signals.owner id).mpr watched]
  rfl

/-! ## 3. Users come and go -/

theorem init_first (unused : r.session.users = 0) :
    r.init = (r.setUsers 1).openWatch.openQuery := by
  unfold init
  dsimp only
  rw [unused, if_pos rfl]

theorem opened_inquiries (r : Run) :
    (r.setUsers 1).openWatch.openQuery.inquiries = r.inquiries ++ r.opening :=
  opened_shown Effect.inquiry? r

theorem init_next (used : 0 < r.session.users) : r.init = r.setUsers (r.session.users + 1) := by
  unfold init
  dsimp only
  rw [if_neg (by omega)]

theorem setUsers_same (r : Run) : r.setUsers r.session.users = r := rfl

theorem shutdown_other (other : r.session.users ≠ 1) :
    r.shutdown = r.setUsers (r.session.users - 1) := by
  unfold shutdown
  split
  · rename_i none
    have same : r.setUsers (r.session.users - 1) = r.setUsers r.session.users := by rw [none]
    rw [same, setUsers_same]
  · rename_i one
    exact absurd one other
  · rename_i users _ count
    rw [count]
    rfl

end Run

namespace Operation

/-- Who neither comes nor goes leaves the users, the watch and the question to those who do. -/
theorem perform_serves {r : Run} (sound : r.session.Sound) {op : Operation} (stays : op ≠ init)
    (remains : op ≠ shutdown) : Steps Act.Serves r (op.perform r).2 := by
  refine op.perform_within sound ?_ (fun _ _ _ => trivial) (fun _ => trivial) (fun _ _ => trivial)
    Act.Comes.serves Act.Changes.serves
  intro a taken
  cases a with
  | openWatch => exact stays taken
  | openQuery => exact stays taken
  | closeWatch => exact remains taken
  | closeQuery => exact remains taken
  | setUsers users => exact taken.elim stays remains
  | _ => trivial

theorem count_other {op : Operation} (stays : op ≠ init) (remains : op ≠ shutdown) (users : Nat) :
    op.count users = users := by
  cases op <;> first | rfl | exact absurd rfl stays | exact absurd rfl remains

theorem perform_users {r : Run} (sound : r.session.Sound) (op : Operation) :
    (op.perform r).2.session.users = op.count r.session.users := by
  by_cases begins : op = init
  · subst begins
    show r.init.session.users = r.session.users + 1
    unfold Run.init
    dsimp only
    split <;> rfl
  by_cases ends : op = shutdown
  · subst ends
    show r.shutdown.session.users = r.session.users - 1
    by_cases last : r.session.users = 1
    · unfold Session.users at last ⊢
      rw [Run.shutdown_last_ownership last, last]
    · rw [Run.shutdown_other last]
      rfl
  rw [count_other begins ends]
  exact (perform_serves sound begins ends).serves_ownership.1

/-- The watch and the question are asked for when the first user comes, and at no other time. -/
theorem perform_inquiries {r : Run} (sound : r.session.Sound) (op : Operation) :
    (op.perform r).2.inquiries = r.inquiries ++
      if r.session.users = 0 ∧ (op.perform r).2.session.users = 1 then r.opening else [] := by
  rw [op.perform_users sound]
  by_cases begins : op = init
  · subst begins
    show r.init.inquiries = _
    by_cases unused : r.session.users = 0
    · rw [Run.init_first unused, if_pos ⟨unused, by rw [unused]; rfl⟩]
      exact r.opened_inquiries
    · rw [Run.init_next (by omega), if_neg (fun both => unused both.1), List.append_nil]
      rfl
  have idle : ¬ (r.session.users = 0 ∧ op.count r.session.users = 1) := by
    rintro ⟨unused, first⟩
    rw [unused] at first
    cases op <;> first | exact begins rfl | cases first
  rw [if_neg idle, List.append_nil]
  by_cases ends : op = shutdown
  · subst ends
    exact (Run.shutdown_steps r).inquiries_eq Operation.noConfusion Operation.noConfusion
  · exact (perform_serves sound begins ends).inquiries_eq id id

end Operation

/-! ## 4. The watch -/

/-- A session is watching exactly while it has users, and has one watch then. -/
structure Run.Attended (r : Run) : Prop where
  watching : 0 < r.session.users → r.session.ownership.watch.isSome
  watches : r.watches = r.session.ownership.watch.toList

namespace Run

variable {r : Run} {answered : CallId → Prop}

theorem opened_watches (fresh : r.nextSubscription ∉ r.shown Effect.closed?) :
    (r.setUsers 1).openWatch.openQuery.watches = r.watches ++ [r.nextSubscription] := by
  have closed : ((r.setUsers 1).openWatch.openQuery).shown Effect.closed? =
      r.shown Effect.closed? := (opened_shown Effect.closed? r).trans (List.append_nil _)
  unfold watches
  rw [opened_inquiries, closed, List.filterMap_append, List.filter_append]
  congr 1
  exact List.filter_eq_self.mpr fun id new => by
    rw [List.mem_singleton.mp new]
    exact decide_eq_true fresh

theorem init_attended (books : r.Books answered) (idle : r.session.Idle) (attended : r.Attended) :
    r.init.Attended := by
  by_cases unused : r.session.users = 0
  · rw [init_first unused]
    refine ⟨fun _ => rfl, ?_⟩
    -- nothing was watched, and the watch that is new has a number of its own
    have next := books.subscriptions.next_not_opened r.session.numbering.subscription_injective
    rw [opened_watches fun given => next (books.subscriptions.closed_opened _ given),
      attended.watches, (idle unused).1]
    rfl
  · rw [init_next (by omega)]
    exact ⟨fun _ => attended.watching (by omega), attended.watches⟩

theorem shutdown_attended (books : r.Books answered) (attended : r.Attended) :
    r.shutdown.Attended := by
  by_cases last : r.session.users = 1
  · have unwatched := shutdown_last_ownership last
    have left : r.shutdown.Books answered :=
      (shutdown_steps r).books (fun _ taken => taken.unheard) books
    constructor
    · unfold Session.users
      rw [unwatched]
      exact fun used => absurd used (Nat.lt_irrefl 0)
    · rw [unwatched, Option.toList_none, List.eq_nil_iff_forall_not_mem]
      intro id held
      have routed := left.watches_routed held
      rw [(shutdown_unrouted books.routed last).2] at routed
      cases routed
  · rw [shutdown_other last]
    refine ⟨fun used => attended.watching ?_, attended.watches⟩
    have fewer : 0 < r.session.users - 1 := used
    omega

/-- A watch that nobody ends is held on to. -/
theorem Attended.serves {r' : Run} (attended : r.Attended) (books : r'.Books answered)
    (steps : Steps Act.Serves r r') : r'.Attended := by
  have same := steps.serves_ownership
  have held := steps.watches_eq (steps.inquiries_eq id id)
  constructor
  · unfold Session.users
    rw [same.1, same.2]
    exact attended.watching
  · rw [held, attended.watches, ← same.2, List.filter_eq_self]
    intro id watched
    exact decide_eq_true (books.watch_kept (Option.mem_toList.mp watched))

end Run

theorem Operation.perform_attended {r : Run} {answered : CallId → Prop} (sound : r.session.Sound)
    (books : r.Books answered) (attended : r.Attended) (op : Operation) :
    (op.perform r).2.Attended := by
  by_cases begins : op = init
  · subst begins
    exact Run.init_attended books sound.idle attended
  by_cases ends : op = shutdown
  · subst ends
    exact Run.shutdown_attended books attended
  exact attended.serves (op.perform_books sound books) (op.perform_serves sound begins ends)

/-! ## 5. Histories -/

/-- No route is left when no user is. -/
theorem Session.Sound.unrouted_of_unused {s : Session} (sound : s.Sound) (resting : s.Resting)
    (silent : s.Silent) (unused : s.users = 0) : s.callRoutes = [] ∧ s.signalRoutes = [] := by
  obtain ⟨unwatched, unasked⟩ := sound.idle unused
  exact sound.routed.unrouted (silent (resting unused)) unwatched unasked

theorem Session.routes_nothing {s : Session} (calls : s.callRoutes = [])
    (signals : s.signalRoutes = []) (source : Request) : ¬ s.Routes source := by
  cases source with
  | inl call =>
    unfold Routes
    rw [calls]
    exact Bool.false_ne_true
  | inr subscription =>
    unfold Routes
    rw [signals]
    exact Bool.false_ne_true

namespace Run

variable (config : Config) (numbering : Numbering) (listing : Listing) (ops : List Operation)

theorem performAll_users :
    ((start config numbering listing).performAll ops).session.users =
      ops.foldl Operation.count 0 := by
  have started := start_sound config numbering listing
  -- on the last operation, which counts on from where the others left
  induction ops using List.reverseRecOn with
  | nil => rfl
  | append_singleton ops op ih =>
    rw [performAll_concat, op.perform_users (performAll_sound started ops), ih, List.foldl_append]
    rfl

theorem performAll_attended : ((start config numbering listing).performAll ops).Attended := by
  have kept := performAll_sound_keeps
    (I := fun q => (∃ answered, q.Books answered) ∧ q.Attended) ?_
    (start_sound config numbering listing)
    ⟨⟨_, start_books config numbering listing⟩, fun used => absurd used (Nat.lt_irrefl 0), rfl⟩ ops
  · exact kept.2
  · intro q op sound ⟨⟨answered, books⟩, attended⟩
    exact ⟨⟨_, op.perform_books sound books⟩, op.perform_attended sound books attended⟩

/-- Without users nothing is routed, whatever was asked for in the history. -/
theorem performAll_unused
    (unused : ((start config numbering listing).performAll ops).session.users = 0) :
    ((start config numbering listing).performAll ops).session.callRoutes = []
      ∧ ((start config numbering listing).performAll ops).session.signalRoutes = [] := by
  have started := start_sound config numbering listing
  exact (performAll_sound started ops).unrouted_of_unused
    (performAll_resting started (fun _ => rfl) ops)
    (performAll_heard config numbering listing ops).1 unused

end Run

/-- Users govern the watch in every session that a history leads to. Their number is that of those
who came and have not left again. A session with users holds one watch, a session without users
none. The watch and the question who owns the name are asked for when the first user comes, and at
no other time, whatever is done. The service is up, and the question open, only while there are
users. A user who is not the first to come or the last to leave is counted, and that is all. Without
users no route is left and every event is taken without any effect. So is, at any later time, an
event from what was asked for before then. -/
theorem users_govern_watch (config : Config) (numbering : Numbering) (listing : Listing)
    (ops : List Operation) :
    let r₀ := Run.start config numbering listing
    let r := r₀.performAll ops
    r.session.users = ops.foldl Operation.count 0
    ∧ (r.session.users = 0 → r.watches = [] ∧ r.session.ownership.watch = none)
    ∧ (0 < r.session.users → ∃ id, r.watches = [id] ∧ r.session.ownership.watch = some id)
    ∧ (∀ op : Operation, (op.perform r).2.inquiries = r.inquiries ++
        if r.session.users = 0 ∧ (op.perform r).2.session.users = 1 then r.opening else [])
    ∧ (r.session.state.isPresent ∨ r.session.ownership.query.isSome → 0 < r.session.users)
    ∧ (0 < r.session.users → Operation.init.perform r =
        (.ok (.users (r.session.users + 1)), r.setUsers (r.session.users + 1)))
    ∧ (r.session.users ≠ 1 → Operation.shutdown.perform r =
        (.ok (.users (r.session.users - 1)), r.setUsers (r.session.users - 1)))
    ∧ (r.session.users = 0 → r.session.callRoutes = [] ∧ r.session.signalRoutes = []
        ∧ ∀ event, (Operation.dispatch event).perform r = (.ok .done, r))
    ∧ ∀ (event : BusEvent) (before since : List Operation), ops = before ++ since →
        (r₀.performAll before).session.users = 0 → (r₀.performAll before).Issued event.source →
        (Operation.dispatch event).perform r = (.ok .done, r) := by
  intro r₀ r
  have started : r₀.session.Sound := Run.start_sound config numbering listing
  have sound : r.session.Sound := Run.performAll_sound started ops
  have resting : r.session.Resting := Run.performAll_resting started (fun _ => rfl) ops
  have attended : r.Attended := Run.performAll_attended config numbering listing ops
  have inert : ∀ event : BusEvent, ¬ r.session.Routes event.source →
      (Operation.dispatch event).perform r = (.ok .done, r) := by
    intro event unrouted
    rw [Operation.perform_dispatch, Run.dispatch_of_unrouted unrouted]
  refine ⟨Run.performAll_users config numbering listing ops, ?_, ?_,
    fun op => op.perform_inquiries sound, ?_, ?_, ?_, ?_, ?_⟩
  · intro unused
    have unwatched := (sound.idle unused).1
    exact ⟨by rw [attended.watches, unwatched]; rfl, unwatched⟩
  · intro used
    obtain ⟨id, watched⟩ := Option.isSome_iff_exists.mp (attended.watching used)
    exact ⟨id, by rw [attended.watches, watched]; rfl, watched⟩
  · intro awake
    by_contra unused
    have none : r.session.users = 0 := by omega
    rcases awake with present | asked
    · rw [resting none] at present
      cases present
    · rw [(sound.idle none).2] at asked
      cases asked
  · intro used
    show (Except.ok (Answer.users r.init.session.users), r.init) = _
    rw [Run.init_next used]
    rfl
  · intro other
    show (Except.ok (Answer.users r.shutdown.session.users), r.shutdown) = _
    rw [Run.shutdown_other other]
    rfl
  · intro unused
    obtain ⟨calls, signals⟩ := Run.performAll_unused config numbering listing ops unused
    exact ⟨calls, signals, fun event => inert event (Session.routes_nothing calls signals _)⟩
  · -- what was asked for by then is done with by then, and stays so
    rintro event before since rfl unused issued
    apply inert
    obtain ⟨calls, signals⟩ := Run.performAll_unused config numbering listing before unused
    have deaf := Session.routes_nothing calls signals event.source
    rw [← (Run.performAll_sound started before).routed.expects_iff,
      Run.performAll_expects_iff] at deaf
    rw [← sound.routed.expects_iff, Run.performAll_expects_iff]
    exact .inr ((deaf.resolve_left (not_not_intro issued)).later started since)

/-- Two users came and left, and another one came. The first watch tells of an owner only now. -/
theorem watch_of_former_users_inert :
    let config : Config :=
      { service := "net.connman", rootPath := "/", rootInterface := "net.connman.Manager",
        protocol := .legacy }
    let before : List Operation := [.init, .init, .shutdown, .shutdown]
    let r₀ := Run.start config .counting .ascending
    let r := r₀.performAll (before ++ [.init])
    let late : BusEvent := .ownerChanged ⟨1⟩ "net.connman" "" ":1.5"
    (r₀.performAll before).session.users = 0
    ∧ (r₀.performAll before).Issued late.source
    ∧ r.session.users = 1
    ∧ r.watches = [⟨3⟩]
    ∧ (Operation.dispatch late).perform r = (.ok .done, r) := by
  intro config before
  have evaluated :
      (((Run.start config .counting .ascending).performAll before).session.users,
        ((Run.start config .counting .ascending).performAll before).shown Effect.opened?,
        ((Run.start config .counting .ascending).performAll (before ++ [.init])).session.users,
        ((Run.start config .counting .ascending).performAll
          (before ++ [.init])).session.ownership.watch) = (0, [⟨1⟩], 1, some ⟨3⟩) := by
    subst config before
    rfl
  obtain ⟨unused, opened, used, watched⟩ : _ ∧ _ ∧ _ ∧ _ := by
    simpa only [Prod.mk.injEq] using evaluated
  have issued : ((Run.start config .counting .ascending).performAll before).Issued (.inr ⟨1⟩) := by
    show _ ∈ Run.shown _ _
    rw [opened]
    exact List.mem_singleton_self _
  obtain ⟨_, _, one, _, _, _, _, _, inert⟩ :=
    users_govern_watch config .counting .ascending (before ++ [.init])
  obtain ⟨id, watches, same⟩ := one (by rw [used]; exact Nat.one_pos)
  rw [watched] at same
  cases same
  exact ⟨unused, issued, used, watches, inert _ before [.init] rfl unused issued⟩

end BusCache
