import BusCache.Proofs.Session.Chapters
import BusCache.Proofs.Session.Waiting

/-!
# Lives — an element from its registration until it leaves

A path can be registered, left and registered again many times. From each registration on, the
element is not fetched at first, and only notes of it are shown. The answer to its first fetch adds
it, and from then on it counts as fetched, and further fetches update it. Its removal is shown once
and ends this, and nothing is shown about the path until it is registered again. No call that was
sent for an element before has a part in it.
-/

namespace BusCache

/-! ## 1. Calls -/

/-- The calls under way for an element were sent since it was registered. -/
theorem Steps.slots_since {P : Act → Prop} {r r' : Run} (h : Steps P r r') {path : Path}
    (new : r.session.element? path = none ∨ r.Removed r' path) {kind : CallKind} {slot : Slot}
    (held : r'.session.slot? path kind = some slot) :
    slot.call ∈ (r'.shown Effect.placed?).drop (r.shown Effect.placed?).length := by
  have since : r.trace <+: r'.trace ∧ ((r.session.element? path = none ∨ r.Removed r' path) →
      ∀ k s, r'.session.slot? path k = some s →
        s.call ∈ (r'.shown Effect.placed?).drop (r.shown Effect.placed?).length) := by
    apply h.preserves (I := fun q => r.trace <+: q.trace
      ∧ ((r.session.element? path = none ∨ r.Removed q path) →
        ∀ k s, q.session.slot? path k = some s →
          s.call ∈ (q.shown Effect.placed?).drop (r.shown Effect.placed?).length))
    · intro q a mem enabled ⟨before, known⟩
      refine ⟨before.trans (Steps.one mem enabled).trace_extends, fun new k s held => ?_⟩
      obtain ⟨more, trace⟩ := before
      have placed := Run.shown_append Effect.placed? trace.symm
      have next := Act.perform_shown Effect.placed? a q
      rw [placed, List.append_assoc] at next
      rw [placed, List.drop_left] at known
      rw [next, List.drop_left]
      rcases enabled.slot_old_or_sent held with old | ⟨purpose, call, rfl⟩
      · rw [Run.Removed.step ⟨more, trace⟩ enabled, ← or_assoc] at new
        rcases new with new | rfl
        · exact List.mem_append_left _ (known new k s old)
        · -- no call of the element that leaves is under way after that
          have gone : (q.releaseElement path).session.slot? path k = none := by
            apply Session.look_of_element?_none
            rw [Run.releaseElement_element?, if_pos rfl]
          rw [show ((Act.release path).perform q).session.slot? path k = none from gone] at held
          cases held
      · have slots := Session.slot?_of_tracked
          (q.sendCall_registry path k purpose s.completion call) enabled.2.1 path k
        rw [if_pos ⟨rfl, rfl⟩] at slots
        have sent : s = ⟨q.nextCall, s.completion⟩ := Option.some.inj (held.symm.trans slots)
        rw [sent]
        exact List.mem_append_right _ List.mem_cons_self
    · refine ⟨List.prefix_refl _, fun new k s held => ?_⟩
      rcases new with none | removed
      · rw [show r.session.slot? path k = _ from Session.look_of_element?_none none] at held
        cases held
      · exact absurd removed (r.not_removed_self path)
  exact since.2 new kind slot held

/-! ## 2. Chapters of a life -/

theorem Event.Notes.kind_ne {e : Event} (notes : e.Notes) : e.kind ≠ .elementRemoved := by
  intro removed
  unfold Notes at notes
  rw [removed] at notes
  exact notes

namespace Run

variable {r : Run} {op : Operation} {path : Path}

/-- An operation that announces a removal is one in which the element leaves. -/
theorem Chapter.of_removed (h : r.Chapter op path) (later : r.trace <+: (op.perform r).2.trace)
    (removed : r.Removed (op.perform r).2 path) :
    ∃ e, r.session.element? path = some e ∧ (op.perform r).2.session.synced? path ≠ some true
      ∧ (op.perform r).2.news path = r.news path ++ [.removal (path, e)] := by
  cases h with
  | vacant unregistered unfetched news =>
    obtain ⟨_, mem, _⟩ := (removed_iff_news later (news.trans (List.append_nil _).symm)).mp removed
    cases mem
  | stays fetched was still unanswered news =>
    obtain ⟨notes, news, are⟩ := news
    obtain ⟨e, mem, kind⟩ := (removed_iff_news later news).mp removed
    exact absurd kind (are e mem).kind_ne
  | fetched again was answered now news =>
    obtain ⟨properties, news⟩ := news
    obtain ⟨e, mem, kind⟩ := (removed_iff_news later news).mp removed
    rw [List.mem_singleton.mp mem] at kind
    exact absurd kind (Event.refresh_kind_ne again path properties)
  | leaves e was unanswered unfetched fresh last news => exact ⟨e, was, fresh, news⟩

/-- Where there is no element, nothing is fetched and nothing is shown. -/
theorem Chapter.of_unregistered (h : r.Chapter op path) (none : r.session.element? path = none) :
    (∀ s, r.Instant (op.perform r).2 s → s.synced? path ≠ some true)
      ∧ (op.perform r).2.news path = r.news path := by
  have unread : r.session.synced? path = Option.none := Session.synced?_eq_none_iff.mpr none
  cases h with
  | vacant unregistered unfetched news => exact ⟨unfetched, news⟩
  | stays fetched was still unanswered news =>
    rw [unread] at was
    cases was
  | fetched again was answered now news =>
    rw [unread] at was
    cases was
  | leaves e was unanswered unfetched fresh last news =>
    rw [none] at was
    cases was

/-- An element that does not leave stays as it is, or a fetch of it is answered. -/
theorem Chapter.of_kept (h : r.Chapter op path) (later : r.trace <+: (op.perform r).2.trace)
    {synced : Bool} (known : r.session.synced? path = some synced)
    (kept : ¬ r.Removed (op.perform r).2 path) :
    ¬ r.Fetches op path ∧ (∀ s, r.Instant (op.perform r).2 s → s.synced? path = some synced)
        ∧ (∃ notes, (op.perform r).2.news path = r.news path ++ notes ∧ ∀ e ∈ notes, e.Notes)
      ∨ r.Fetches op path ∧ (∀ s, r.Instant (op.perform r).2 s → s.synced? path = some true)
        ∧ ∃ properties,
          (op.perform r).2.news path = r.news path ++ [.refresh synced path properties] := by
  cases h with
  | vacant unregistered unfetched news =>
    rw [Session.synced?_eq_none_iff.mpr unregistered] at known
    cases known
  | stays fetched was still unanswered news =>
    obtain rfl := Option.some.inj (was.symm.trans known)
    exact .inl ⟨unanswered, still, news⟩
  | fetched again was answered now news =>
    obtain rfl := Option.some.inj (was.symm.trans known)
    exact .inr ⟨answered, now, news⟩
  | leaves e was unanswered unfetched fresh last news =>
    exact absurd ((removed_iff_news later news).mpr ⟨_, List.mem_singleton_self _, rfl⟩) kept

/-- A new element was not fetched. -/
theorem Chapter.unsynced (h : r.Chapter op path) (later : r.trace <+: (op.perform r).2.trace)
    (registers : r.Registers op path) : (op.perform r).2.session.synced? path = some false := by
  have fresh : (op.perform r).2.session.synced? path ≠ some true := by
    rcases registers.2 with none | removed
    · exact (h.of_unregistered none).1 _ (instant_end r _)
    · obtain ⟨_, _, fresh, _⟩ := h.of_removed later removed
      exact fresh
  obtain ⟨e, here⟩ := Option.isSome_iff_exists.mp registers.1
  have known : (op.perform r).2.session.synced? path = some e.synced :=
    Session.look_of_element? here
  rw [known] at fresh ⊢
  cases fetched : e.synced with
  | false => rfl
  | true => exact absurd (congrArg some fetched) fresh

end Run

/-! ## 3. Lives -/

/-- Through operations after its registration, no fetch of the element at a path was answered, it
was not fetched at any instant, and only notes of it were shown. -/
structure Run.Unfetched (born : Run) (path : Path) (ops : List Operation) : Prop where
  unanswered : ∀ before op after, ops = before ++ op :: after →
    ¬ (born.performAll before).Fetches op path
  unsynced : ∀ s, born.Instant (born.performAll ops) s → s.synced? path = some false
  news : ∃ notes, (born.performAll ops).news path = born.news path ++ notes ∧ ∀ e ∈ notes, e.Notes

/-- The life of the element at a path from its registration on, through operations. -/
inductive Run.Life (born : Run) (path : Path) (since : List Operation) : Prop
  | unfetched (h : born.Unfetched path since)
  /-- One operation answered its first fetch and added it. At every instant since then it was
  fetched, and notes were shown, and updates after further fetches. -/
  | fetched (before : List Operation) (op : Operation) (after : List Operation)
      (split : since = before ++ op :: after) (young : born.Unfetched path before)
      (answered : (born.performAll before).Fetches op path)
      (added : ∃ properties, (born.performAll (before ++ [op])).news path =
        (born.performAll before).news path ++ [.refresh false path properties])
      (synced : ∀ s, (born.performAll before).Instant (born.performAll since) s →
        s.synced? path = some true)
      (news : ∃ later,
        (born.performAll since).news path = (born.performAll (before ++ [op])).news path ++ later
          ∧ ∀ e ∈ later, e.Notes ∨ ∃ properties, e = .refresh true path properties)

namespace Run

variable {r born : Run} {op : Operation} {path : Path} {since : List Operation}

theorem unfetched_nil (new : born.session.synced? path = some false) : born.Unfetched path [] := by
  refine ⟨fun before x after split => ?_, fun s instant => ?_, [], (List.append_nil _).symm,
    fun _ h => absurd h List.not_mem_nil⟩
  · exact absurd split (List.append_ne_nil_of_right_ne_nil before (List.cons_ne_nil x after) ·.symm)
  · rw [instant.of_same rfl]
    exact new

/-- One more operation, which leaves the element as it is. -/
theorem Unfetched.concat (h : born.Unfetched path since) (sound : born.session.Sound)
    (unanswered : ¬ (born.performAll since).Fetches op path)
    (still : ∀ s, (born.performAll since).Instant (born.performAll (since ++ [op])) s →
      s.synced? path = some false)
    (news : ∃ notes, (born.performAll (since ++ [op])).news path =
      (born.performAll since).news path ++ notes ∧ ∀ e ∈ notes, e.Notes) :
    born.Unfetched path (since ++ [op]) := by
  refine ⟨fun before x after split => ?_, fun s instant => ?_, ?_⟩
  · rcases concat_eq_append_cons_iff.mp split with ⟨_, rfl, rfl⟩ | ⟨rest, _, rfl⟩
    · exact unanswered
    · exact h.unanswered before x rest rfl
  · have first := performAll_extends sound [] since
    have next := performAll_extends sound since [op]
    exact (instant.split first next).elim (h.unsynced s) (still s)
  · obtain ⟨notes, shown, are⟩ := h.news
    obtain ⟨more, further, are'⟩ := news
    refine ⟨notes ++ more, by rw [further, shown, List.append_assoc], fun e mem => ?_⟩
    exact (List.mem_append.mp mem).elim (are e) (are' e)

/-- One more operation, in which the element does not leave. -/
theorem Life.concat (h : born.Life path since) (sound : born.session.Sound)
    (chapter : (born.performAll since).Chapter op path)
    (kept : ¬ (born.performAll since).Removed (born.performAll (since ++ [op])) path) :
    born.Life path (since ++ [op]) := by
  have later := performAll_extends sound since [op]
  have goes_on := @chapter.of_kept
  rw [← performAll_concat since op born] at goes_on
  cases h with
  | unfetched young =>
    rcases goes_on later (young.unsynced _ (instant_end born _)) kept with
      ⟨unanswered, still, news⟩ | ⟨answered, now, news⟩
    · exact .unfetched (young.concat sound unanswered still news)
    · exact .fetched since op [] rfl young answered news now
        ⟨[], (List.append_nil _).symm, fun _ h => absurd h List.not_mem_nil⟩
  | fetched before first rest split young answered added synced news =>
    have earlier : (born.performAll before).trace <+: (born.performAll since).trace :=
      split ▸ performAll_extends sound before (first :: rest)
    have whole : since ++ [op] = before ++ first :: (rest ++ [op]) := by
      rw [split, List.append_assoc, List.cons_append]
    have more : (∀ s, (born.performAll since).Instant (born.performAll (since ++ [op])) s →
          s.synced? path = some true)
        ∧ ∃ new, (born.performAll (since ++ [op])).news path =
            (born.performAll since).news path ++ new
          ∧ ∀ e ∈ new, e.Notes ∨ ∃ properties, e = .refresh true path properties := by
      rcases goes_on later (synced _ (instant_end _ _)) kept with
        ⟨_, still, notes, shown, are⟩ | ⟨_, now, properties, shown⟩
      · exact ⟨still, notes, shown, fun e mem => .inl (are e mem)⟩
      · exact ⟨now, _, shown, fun e mem => .inr ⟨properties, List.mem_singleton.mp mem⟩⟩
    obtain ⟨notes, shown, are⟩ := news
    obtain ⟨now, new, further, are'⟩ := more
    refine .fetched before first (rest ++ [op]) whole young answered added (fun s instant => ?_)
      ⟨notes ++ new, by rw [further, shown, List.append_assoc], fun e mem => ?_⟩
    · exact (instant.split earlier later).elim (synced s) (now s)
    · exact (List.mem_append.mp mem).elim (are e) (are' e)

/-- From the operation on that registers an element, and until it is removed, the element leads one
life. -/
theorem life_since (sound : r.session.Sound) (faithful : r.Faithful)
    (registers : r.Registers op path)
    (stays : ¬ (op.perform r).2.Removed (r.performAll (op :: since)) path) :
    (op.perform r).2.Life path since := by
  have soundBorn := op.perform_sound sound
  induction since using List.reverseRecOn with
  | nil =>
    have chapter := op.chapter sound faithful path
    exact .unfetched (unfetched_nil
      (chapter.unsynced (op.perform_acts sound).trace_extends registers))
  | append_singleton since last ih =>
    have before := (performAll_acts soundBorn since).trace_extends
    have next := performAll_extends soundBorn since [last]
    rw [← List.cons_append] at stays
    have kept := not_or.mp ((removed_trans before next path).not.mp stays)
    have faithfulBorn := op.perform_faithful sound.routed faithful
    exact (ih kept.1).concat soundBorn (last.chapter (performAll_sound soundBorn since)
      (performAll_faithful soundBorn faithfulBorn since) path) kept.2

/-- Nothing is shown about a path until there is an element again. -/
theorem news_of_unregistered (sound : r.session.Sound) (faithful : r.Faithful)
    (unregistered : ∀ first next rest, since = first ++ next :: rest →
      (r.performAll first).session.element? path = none) :
    (r.performAll since).news path = r.news path := by
  induction since using List.reverseRecOn with
  | nil => rfl
  | append_singleton since last ih =>
    have none : (r.performAll since).session.element? path = none := unregistered since last [] rfl
    have quiet : (r.performAll since).news path = r.news path := by
      refine ih fun first next rest split => unregistered first next (rest ++ [last]) ?_
      rw [split, List.append_assoc, List.cons_append]
    rw [performAll_concat, ← quiet]
    have chapter := last.chapter (performAll_sound sound since)
      (performAll_faithful sound faithful since) path
    exact (chapter.of_unregistered none).2

end Run

/-! ## 4. Histories -/

/-- What is shown about an element tells its life, in every history. What the next operation does to
it goes with what is shown about it. From the operation that registers an element on, and until it
is removed, notes are shown of it first, then the answer to its first fetch adds it, and then notes
and updates are shown. It counts as fetched at every instant from its first fetch on and at none
before, and the fetches that can be answered are those that were sent since it was registered. After
the removal of an element nothing is shown about its path until one is registered there again. -/
theorem lives_are_told_in_order (config : Config) (numbering : Numbering) (listing : Listing)
    (ops : List Operation) (path : Path) :
    let start := Run.start config numbering listing
    let r := start.performAll ops
    (∀ op : Operation, r.Chapter op path)
    ∧ (∀ before op since, ops = before ++ op :: since →
      (start.performAll before).Registers op path →
      ¬ (start.performAll (before ++ [op])).Removed r path →
      (start.performAll (before ++ [op])).Life path since
        ∧ ∀ call kind,
          Table.get? r.session.callRoutes call = some (.element path kind .sync) →
          call ∈ (r.shown Effect.placed?).drop
            ((start.performAll before).shown Effect.placed?).length)
    ∧ ∀ before op since, ops = before ++ op :: since →
      (start.performAll before).Removed (start.performAll (before ++ [op])) path →
      (∀ first next rest, since = first ++ next :: rest →
        (start.performAll (before ++ op :: first)).session.element? path = none) →
      ∃ e, (start.performAll before).session.element? path = some e
        ∧ r.news path = (start.performAll before).news path ++ [.removal (path, e)] := by
  intro start r
  have started : start.session.Sound := Run.start_sound config numbering listing
  have truthful : start.Faithful := fun _ h => absurd h List.not_mem_nil
  have sound := Run.performAll_sound started
  have faithful := Run.performAll_faithful started truthful
  have chapter : ∀ history (op : Operation), (start.performAll history).Chapter op path :=
    fun history op => op.chapter (sound history) (faithful history) path
  refine ⟨chapter ops, fun before op since split registers stays => ⟨?_, ?_⟩, ?_⟩
  · have later : r = (start.performAll before).performAll (op :: since) := by
      rw [← Run.performAll_append, ← split]
    rw [Run.performAll_concat, later] at stays
    rw [Run.performAll_concat]
    exact Run.life_since (sound before) (faithful before) registers stays
  · intro call kind routed
    -- whoever was there before was removed by the operation that registers the element
    have acts := Run.performAll_acts (sound before) (op :: since)
    rw [← Run.performAll_append, ← split] at acts
    have new : (start.performAll before).session.element? path = none
        ∨ (start.performAll before).Removed r path := by
      refine registers.2.imp_right fun removed => ?_
      have first := Run.performAll_extends started before [op]
      have rest := Run.performAll_extends started (before ++ [op]) since
      rw [List.append_assoc, List.singleton_append, ← split] at rest
      rw [Run.removed_trans first rest, Run.performAll_concat]
      exact .inl removed
    obtain ⟨slot, held, rfl⟩ :=
      ((sound ops).routed.calls.element call path kind).mp ⟨.sync, routed⟩
    exact acts.slots_since new held
  · intro before op since split removed unregistered
    have first := Run.performAll_extends started before [op]
    rw [Run.performAll_concat] at removed first
    obtain ⟨e, here, _, news⟩ := (chapter before op).of_removed first removed
    have later : r = (start.performAll (before ++ [op])).performAll since := by
      rw [← Run.performAll_append, List.append_assoc, List.singleton_append, ← split]
    refine ⟨e, here, ?_⟩
    rw [later, Run.news_of_unregistered (sound (before ++ [op])) (faithful (before ++ [op])),
      Run.performAll_concat]
    · exact news
    · intro first next rest split
      rw [← Run.performAll_append, List.append_assoc, List.singleton_append]
      exact unregistered first next rest split

/-- The root is fetched once, and then its owner leaves. -/
theorem fetched_root_is_added_and_removed :
    let config : Config :=
      { service := "net.connman", rootPath := "/", rootInterface := "net.connman.Manager",
        protocol := .legacy }
    let arrives : Operation := .dispatch (.ownerChanged ⟨1⟩ "net.connman" "" ":1.5")
    let reply : Operation := .dispatch (.reply ⟨4⟩ (.ok [.dict (.basic .string) .variant []]))
    let departs : Operation := .dispatch (.ownerChanged ⟨1⟩ "net.connman" ":1.5" "")
    let start := Run.start config .counting .ascending
    let fetched := start.performAll [.init, arrives, reply]
    let left := start.performAll [.init, arrives, reply, departs]
    (start.performAll [.init, arrives]).Life "/" [reply]
    ∧ (∃ e, fetched.session.element? "/" = some e
      ∧ left.news "/" = fetched.news "/" ++ [.removal ("/", e)])
    ∧ left.events.map Event.kind =
      [.serviceUp, .elementAdded, .elementRemoved, .serviceDown] := by
  intro config arrives reply departs
  have first := lives_are_told_in_order config .counting .ascending [.init, arrives, reply] "/"
  have whole := lives_are_told_in_order config .counting .ascending
    [.init, arrives, reply, departs] "/"
  have evaluated : let start := Run.start config .counting .ascending
      let left := start.performAll [.init, arrives, reply, departs]
      ((start.performAll [.init]).session.isRegistered "/",
        (start.performAll [.init, arrives]).session.isRegistered "/",
        (start.performAll [.init, arrives, reply]).shown Effect.removed?,
        left.shown Effect.removed?, left.events.map Event.kind) =
          (false, true, [], ["/"],
            [.serviceUp, .elementAdded, .elementRemoved, .serviceDown]) := by
    subst config arrives reply departs
    rfl
  dsimp only at first whole evaluated ⊢
  generalize Run.start config .counting .ascending = start at first whole evaluated ⊢
  obtain ⟨new, made, unremoved, removed, kinds⟩ : _ ∧ _ ∧ _ ∧ _ ∧ _ := by
    simpa only [Prod.mk.injEq] using evaluated
  have registers : (start.performAll [.init]).Registers arrives "/" :=
    ⟨made, .inl (Session.isRegistered_eq_false_iff.mp new)⟩
  obtain ⟨_, lives, _⟩ := first
  obtain ⟨_, _, ends⟩ := whole
  refine ⟨(lives [.init] arrives [reply] rfl registers ?_).1,
    ends [.init, arrives, reply] departs [] rfl ?_ ?_, kinds⟩
  · unfold Run.Removed
    rw [unremoved, List.drop_nil]
    exact List.not_mem_nil
  · show "/" ∈ List.drop _ (Run.shown Effect.removed? (start.performAll _))
    rw [unremoved]
    exact removed ▸ List.mem_singleton_self "/"
  · intro before next rest split
    cases before <;> cases split

end BusCache
