import BusCache.Proofs.Session.News

/-!
# Chapters — what an operation does to one element

An operation can find no element at a path, can leave the one that is there as it is, can bring the
answer to a fetch of it, or can be the one in which it leaves. What is shown about the element goes
with that: nothing, notes at most, one update of all its properties, or its removal.
-/

namespace BusCache

/-! ## 1. Changes -/

theorem Act.Edits.keeps {path p : Path} {sort : Event → Prop}
    (notes : p = path → ∀ e : Event, e.Notes → sort e) (a : Act) (h : a.Edits p) :
    a.Keeps path sort := by
  cases a with
  | emit kind target payload =>
    intro about
    have here : target = path := (Event.about_iff.mp about).1
    cases kind with
    | elementUpdated =>
      cases payload with
      | changed name value =>
        have self : target = p := h
        exact notes (self.symm.trans here) _ trivial
      | _ => exact h.elim
    | _ => exact h.elim
  | _ => first | exact h.elim | trivial

namespace Run

/-- The notes of an element: there are none without it. -/
def Noted (r : Run) (path : Path) (e : Event) : Prop := (r.session.element? path).isSome ∧ e.Notes

theorem change_keeps (p : Path) (name : String) (value : Value) (given : Option Kind) (r : Run)
    (path : Path) : r.Keeps (Attempt.change p name value given r).2 path (r.Noted path) := by
  cases here : r.session.element? p with
  | none =>
    rw [change_apply, here]
    exact .refl
  | some e =>
    refine ((change_edits p name value given r).mono (Act.Edits.keeps ?_)).keeps
    rintro rfl e notes
    exact ⟨Option.isSome_of_eq_some here, notes⟩

theorem applyChanges_keeps (p : Path) (changes : PropertyChanges) (r : Run) (path : Path) :
    r.Keeps (r.applyChanges p changes) path (r.Noted path) := by
  cases here : r.session.element? p with
  | none =>
    unfold applyChanges
    rw [here]
    exact .refl
  | some e =>
    refine ((applyChanges_edits p changes r).mono (Act.Edits.keeps ?_)).keeps
    rintro rfl e notes
    exact ⟨Option.isSome_of_eq_some here, notes⟩

end Run

/-! ## 2. Fetches -/

/-- The event that announces the answer to a fetch, given whether there was one before. The first
one adds the element. -/
def Event.refresh (again : Bool) (path : Path) (properties : Properties) : Event :=
  ⟨if again then .elementUpdated else .elementAdded, path, .snapshot properties⟩

theorem Event.about_refresh (again : Bool) (path : Path) (properties : Properties) :
    (refresh again path properties).about path = true := by
  rw [about_iff]
  cases again <;> exact ⟨rfl, rfl⟩

theorem Event.refresh_kind_ne (again : Bool) (path : Path) (properties : Properties) :
    (refresh again path properties).kind ≠ .elementRemoved := by
  cases again <;> exact EventKind.noConfusion

/-- From a run to a later one, the element at a path was fetched, for the first time or again, and
this is all that was shown about it. -/
structure Run.Refreshes (r r' : Run) (path : Path) (again : Bool) : Prop where
  trace : r.trace <+: r'.trace
  synced : ∀ s, r.Instant r' s → s.synced? path = some true
  news : ∃ properties, r'.news path = r.news path ++ [.refresh again path properties]

namespace Run

variable {r q r' : Run} {path : Path}

theorem complete_keeps (completion : Option Completion) (outcome : Except BusError (List Value))
    (r : Run) (path : Path) : r.Keeps (r.complete completion outcome) path Event.None := by
  refine ((complete_steps r completion outcome).mono ?_).keeps
  rintro a ⟨c, _, rfl⟩
  trivial

/-- A fetch is merged first, and then it is announced and followed. -/
theorem mergeFetched_eq {e : Element} (here : r.session.element? path = some e) (fetched : Cache) :
    r.mergeFetched path fetched =
      (((Act.merge path fetched).perform r).emit
        (if e.synced then EventKind.elementUpdated else .elementAdded) path
        (.snapshot (e.merge fetched).properties)).cascade path none := by
  unfold mergeFetched
  rw [here]
  rfl

theorem Refreshes.then {again : Bool} (h : r.Refreshes q path again)
    (later : q.Keeps r' path Event.None) : r.Refreshes r' path again := by
  refine ⟨h.trace.trans later.trace, fun s instant => ?_, later.news_eq ▸ h.news⟩
  rcases instant.split h.trace later.trace with before | after
  · exact h.synced s before
  · exact later.still (h.synced _ (instant_end r q)) after

theorem Refreshes.of_same {again : Bool} (trace : q.trace = r.trace)
    (h : q.Refreshes r' path again) : r.Refreshes r' path again := by
  obtain ⟨later, known, news⟩ := h
  unfold Instant Run.news events shown at *
  rw [trace] at later known news
  exact ⟨later, known, news⟩

theorem mergeFetched_refreshes {e : Element} (here : r.session.element? path = some e)
    (fetched : Cache) : r.Refreshes (r.mergeFetched path fetched) path e.synced := by
  let merged := (Act.merge path fetched).perform r
  let announcement := Event.refresh e.synced path (e.merge fetched).properties
  let told := merged.emit announcement.kind path announcement.payload
  have known : merged.session.synced? path = some true :=
    Session.look_of_element? (Act.merge_element? here fetched)
  have announced : r.Refreshes told path e.synced := by
    have shown : told.trace = r.trace ++
        [⟨.event announcement (merged.session.handlers announcement.kind), merged.session⟩] := rfl
    refine ⟨shown ▸ List.prefix_append _ _, fun s instant => ?_,
      (e.merge fetched).properties, ?_⟩
    · rw [instant_iff shown] at instant
      rcases instant with ⟨m, mem, rfl⟩ | rfl
      · rw [List.mem_singleton.mp mem]
        exact known
      · exact known
    · have events : told.events = r.events ++ [announcement] :=
        emit_events merged announcement.kind path announcement.payload
      rw [news_of_events events, List.filter_singleton, Event.about_refresh]
      rfl
  rw [mergeFetched_eq here]
  exact announced.then ((cascade_steps told path none).mono Act.Grows.keeps).keeps

theorem mergeFetched_keeps {p : Path} (other : p ≠ path) (fetched : Cache) (r : Run) :
    r.Keeps (r.mergeFetched p fetched) path Event.None := by
  cases here : r.session.element? p with
  | none =>
    unfold mergeFetched
    rw [here]
    exact .refl
  | some e =>
    have merged : r.Keeps ((Act.merge p fetched).perform r) path Event.None :=
      Act.Keeps.keeps other (Option.isSome_of_eq_some here)
    let announcement := Event.refresh e.synced p (e.merge fetched).properties
    have told : ∀ q : Run,
        q.Keeps (q.emit announcement.kind p announcement.payload) path Event.None := fun q =>
      Act.Keeps.keeps (a := .emit announcement.kind p announcement.payload)
        (fun about => other (Event.about_iff.mp about).1) (Event.refresh_kind_ne e.synced p _)
    rw [mergeFetched_eq here]
    exact (merged.trans (told _)).trans ((cascade_steps _ p none).mono Act.Grows.keeps).keeps

/-- The operation is the reply to a fetch of the element at a path that is under way, and all of the
reply can be read. -/
def Fetches (r : Run) (op : Operation) (path : Path) : Prop :=
  ∃ call kind result fetched args, op = .dispatch (.reply call result)
    ∧ Table.get? r.session.callRoutes call = some (.element path kind .sync)
    ∧ fetchedOf result = .ok (fetched, args)

/-- A fetch that is answered makes the element a fetched one, and is announced as the first fetch or
as a later one. -/
theorem Fetches.refreshes {op : Operation} (sound : r.session.Sound) (h : r.Fetches op path) :
    ∃ again, r.session.synced? path = some again ∧ r.Refreshes (op.perform r).2 path again := by
  obtain ⟨call, kind, result, fetched, args, rfl, routed, read⟩ := h
  obtain ⟨⟨id, completion⟩, held, rfl⟩ :=
    (sound.routed.calls.element call path kind).mp ⟨.sync, routed⟩
  obtain ⟨e, here, _⟩ := Session.look_eq_some.mp held
  -- the reply is taken before, and the completion told after
  have freed : ((Act.answer id path kind).perform r).session.element? path =
      some (e.freeSlot kind) :=
    Session.element?_of_modified_self (Act.answer_registry id path kind r) here
  have merges := mergeFetched_refreshes freed fetched
  refine ⟨e.synced, Session.look_of_element? here, ?_⟩
  rw [Operation.perform_reply, handleReply_call routed held, read]
  refine Refreshes.of_same (q := (Act.answer id path kind).perform r) rfl ?_
  exact merges.then (complete_keeps completion _ _ path)

/-! ## 3. Operations -/

theorem handleSignal_passes (subscription : SubscriptionId) (member : String)
    (args : List WireValue) (r : Run) (path : Path) :
    r.Passes (r.handleSignal subscription member args) path (r.Noted path) := by
  unfold handleSignal
  split
  · exact .inl .refl
  · exact .inl .refl
  · split
    · exact .inl (change_keeps _ _ _ _ r path)
    · exact .inl .refl
  · split
    · exact .inl (applyChanges_keeps _ _ r path)
    · exact .inl .refl
  · split
    · rename_i action _ _ target _ _
      unfold applyLifecycle
      cases action with
      | added interface =>
        dsimp only
        split
        · rename_i allowed
          exact .inl ((adopt_steps (Session.level_below_root allowed)).mono Act.Grows.keeps).keeps
        · exact .inl .refl
      | removed => exact ((remove_steps target r).removes_passes path).of_none
    · exact .inl .refl
  · split
    · rename_i p _ registered
      split
      · -- a forwarded signal is a note of the element that it was forwarded for
        left
        refine Act.Keeps.keeps (a := .emit .elementSignal p _) (fun about => ?_)
          EventKind.noConfusion
        obtain ⟨rfl, _⟩ := Event.about_iff.mp about
        exact ⟨registered, trivial⟩
      · exact .inl .refl
    · exact .inl .refl

theorem handleReply_passes (sound : r.session.Sound) {call : CallId}
    {result : Except BusError (List WireValue)}
    (other : ¬ r.Fetches (.dispatch (.reply call result)) path) :
    r.Passes (r.handleReply call result) path Event.None := by
  cases routed : Table.get? r.session.callRoutes call with
  | none =>
    rw [handleReply_of_none routed]
    exact .inl .refl
  | some route =>
    cases route with
    | nameOwner =>
      have asked := (sound.routed.calls.owner call).mp routed
      rcases handleReply_query_cases ⟨routed, asked⟩ result with after | ⟨owner, after⟩
      · rw [after]
        exact .inl (.of_same rfl rfl)
      · rw [after]
        refine Passes.of_same (q := (Act.answerQuery call).perform r) rfl rfl ?_
        exact ownerChanged_passes "" owner _ path
    | element p kind purpose =>
      obtain ⟨⟨id, completion⟩, held, rfl⟩ :=
        (sound.routed.calls.element call p kind).mp ⟨purpose, routed⟩
      have taken : r.Keeps ((Act.answer id p kind).perform r) path Event.None :=
        Act.Keeps.keeps trivial (Act.answer_enabled routed held)
      rw [handleReply_call routed held]
      refine .inl (Keeps.trans ?_ (complete_keeps completion _ _ path))
      split
      · rename_i fetched args read
        refine taken.trans (mergeFetched_keeps ?_ fetched _)
        rintro rfl
        exact other ⟨id, kind, result, fetched, args, rfl, routed, read⟩
      · exact taken

end Run

namespace Operation

variable {r : Run} {path : Path}

/-- Unless a fetch of it is answered, an element is left as it is, with notes at most, or it
leaves. -/
theorem passes (sound : r.session.Sound) (op : Operation) (other : ¬ r.Fetches op path) :
    r.Passes (op.perform r).2 path (r.Noted path) := by
  by_cases extending : op.Extends
  · exact .inl (perform_extends extending Act.Grows.keeps (fun _ _ _ _ _ => trivial) r).keeps
  cases op with
  | init => exact .inl (Run.init_keeps sound.idle path)
  | shutdown => exact (Run.shutdown_passes r path).of_none
  | remove p => exact ((Run.remove_steps p r).removes_passes path).of_none
  | change p name value =>
    rw [perform_change]
    exact .inl (Run.change_keeps p name value none r path)
  | setHandler kind handler =>
    exact .inl (Act.Keeps.keeps (a := .setHandler kind handler) trivial trivial)
  | relist order => exact .inl (Act.Keeps.keeps (a := .relist order) trivial trivial)
  | dispatch event =>
    rw [perform_dispatch]
    cases event with
    | reply call result => exact (Run.handleReply_passes sound other).of_none
    | signal subscription sender member args =>
      exact Run.handleSignal_passes subscription member args r path
    | ownerChanged subscription name oldOwner newOwner =>
      show r.Passes (r.handleOwnerChanged subscription name oldOwner newOwner) path _
      unfold Run.handleOwnerChanged
      split
      · exact (Run.ownerChanged_passes oldOwner newOwner r path).of_none
      · exact .inl .refl
  | _ => exact absurd trivial extending

end Operation

/-- What an operation does to the element at a path, and what it shows about it. -/
inductive Run.Chapter (r : Run) (op : Operation) (path : Path) : Prop
  /-- There is none, and nothing is shown. One that is registered was not fetched. -/
  | vacant (unregistered : r.session.element? path = none)
      (unfetched : ∀ s, r.Instant (op.perform r).2 s → s.synced? path ≠ some true)
      (news : (op.perform r).2.news path = r.news path)
  /-- It stays fetched or not, and at most notes are shown. -/
  | stays (fetched : Bool) (was : r.session.synced? path = some fetched)
      (still : ∀ s, r.Instant (op.perform r).2 s → s.synced? path = some fetched)
      (unanswered : ¬ r.Fetches op path)
      (news : ∃ notes, (op.perform r).2.news path = r.news path ++ notes ∧ ∀ e ∈ notes, e.Notes)
  /-- A fetch of it is answered. This is announced, and nothing else. -/
  | fetched (again : Bool) (was : r.session.synced? path = some again)
      (answered : r.Fetches op path)
      (now : ∀ s, r.Instant (op.perform r).2 s → s.synced? path = some true)
      (news : ∃ properties,
        (op.perform r).2.news path = r.news path ++ [.refresh again path properties])
  /-- It leaves, which is announced when its path no longer resolves, and nothing else is shown. One
  that is registered in its place was not fetched. -/
  | leaves (e : Element) (was : r.session.element? path = some e)
      (unanswered : ¬ r.Fetches op path)
      (unfetched : ∀ s, r.Instant (op.perform r).2 s → s.synced? path = some true → e.synced = true)
      (fresh : (op.perform r).2.session.synced? path ≠ some true)
      (last : ∃ m ∈ (op.perform r).2.trace.drop r.trace.length,
        m.effect.event? = some (.removal (path, e)) ∧ m.session.element? path = none)
      (news : (op.perform r).2.news path = r.news path ++ [.removal (path, e)])

theorem Effect.removed?_of_event {effect : Effect} {path : Path} {payload : Payload}
    (shown : effect.event? = some ⟨.elementRemoved, path, payload⟩) :
    effect.removed? = some path := by
  cases effect with
  | event e handler =>
    obtain rfl := Option.some.inj shown
    rfl
  | _ => cases shown

theorem Session.synced?_eq_none_iff {s : Session} {path : Path} :
    s.synced? path = none ↔ s.element? path = none := by
  unfold synced? look
  rw [Option.bind_eq_none_iff]
  constructor
  · intro unread
    cases here : s.element? path with
    | none => rfl
    | some e => cases unread e here
  · intro none e here
    rw [none] at here
    cases here

namespace Operation

variable {r : Run} {path : Path}

theorem chapter_of_loses {op : Operation} (sound : r.session.Sound) (faithful : r.Faithful)
    (unanswered : ¬ r.Fetches op path) (h : r.Loses (op.perform r).2 path) : r.Chapter op path := by
  obtain ⟨e, here⟩ := Option.isSome_iff_exists.mp h.here
  have was : r.session.synced? path = some e.synced := Session.look_of_element? here
  obtain ⟨⟨kind, p, payload⟩, news, rfl⟩ := h.news
  obtain ⟨new, trace, departs⟩ := op.perform_departs sound
  -- the one event that is news was shown at a moment, and tells what left
  have events := Run.news_of_events (Run.shown_append Effect.event? trace) path
  rw [news, List.append_right_inj] at events
  obtain ⟨mem, about⟩ := List.mem_filter.mp (events ▸ List.mem_singleton_self _)
  obtain ⟨m, mem, shown⟩ := List.mem_filterMap.mp mem
  obtain rfl : p = path := (Event.about_iff.mp about).1
  obtain ⟨before, after, split⟩ := List.append_of_mem mem
  obtain ⟨x, found, removal, _⟩ := departs before m after split p (Effect.removed?_of_event shown)
  obtain rfl : x = e := Option.some.inj (found.symm.trans here)
  have same := Option.some.inj (shown.symm.trans removal)
  have moment : m ∈ (op.perform r).2.trace := trace ▸ List.mem_append_right _ mem
  have holds := op.perform_faithful sound.routed faithful m moment _ removal
  refine .leaves x here unanswered (fun s instant fetched => ?_) h.fresh ⟨m, ?_, removal, holds⟩ ?_
  · have known := h.synced s instant fetched
    rw [was] at known
    exact Option.some.inj known
  · rw [trace, List.drop_left]
    exact mem
  · rw [news, same]

theorem chapter (sound : r.session.Sound) (faithful : r.Faithful) (op : Operation) (path : Path) :
    r.Chapter op path := by
  by_cases answered : r.Fetches op path
  · obtain ⟨again, was, refreshes⟩ := answered.refreshes sound
    exact .fetched again was answered refreshes.synced refreshes.news
  · rcases op.passes sound answered with keeps | loses
    · obtain ⟨notes, news, noted⟩ := keeps.news
      cases was : r.session.synced? path with
      | none =>
        have unregistered := Session.synced?_eq_none_iff.mp was
        refine .vacant unregistered (fun s instant fetched => ?_) ?_
        · have before := keeps.fetched_before instant fetched
          rw [was] at before
          cases before
        · -- only an element has notes
          have none : notes = [] := by
            rw [List.eq_nil_iff_forall_not_mem]
            intro e mem
            have here := (noted e mem).1
            rw [unregistered] at here
            cases here
          rw [news, none, List.append_nil]
      | some fetched =>
        exact .stays fetched was (fun s instant => keeps.still was instant) answered
          ⟨notes, news, fun e mem => (noted e mem).2⟩
    · exact chapter_of_loses sound faithful answered loses

end Operation

end BusCache
