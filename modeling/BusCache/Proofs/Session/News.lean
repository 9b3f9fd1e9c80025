import BusCache.Proofs.Session.Truth
import BusCache.Proofs.Session.WriteLog

/-!
# News — what is shown about one element

An element that is registered was fetched before, or it was not. Only the answer to a fetch makes
it a fetched one, and only its removal takes it away. All other acts leave that as it is, whatever
they do to other elements, and what they show about this one are at most notes of one property or
one signal.
-/

namespace BusCache

/-! ## 1. News -/

/-- Tells of one property of an element, or of a signal of it. -/
def Event.Notes (e : Event) : Prop :=
  match e.kind, e.payload with
  | .elementUpdated, .changed _ _ => True
  | .elementSignal, .signal _ _ => True
  | _, _ => False

/-- The event is about the element at a path. Events about the service name a path too. -/
def Event.about (path : Path) (e : Event) : Bool :=
  decide (e.path = path) && !e.kind.ofService

theorem Event.about_iff {path : Path} {e : Event} :
    e.about path = true ↔ e.path = path ∧ e.kind.ofService = false := by
  unfold about
  rw [Bool.and_eq_true, decide_eq_true_eq, Bool.not_eq_true']

/-- Whether the element at a path was fetched, if there is one. -/
def Session.synced? (s : Session) (path : Path) : Option Bool :=
  s.look path fun e => some e.synced

namespace Run

/-- The events about the element at a path. -/
def news (r : Run) (path : Path) : List Event := r.events.filter (Event.about path)

/-- A session at an instant after a run: when an effect was shown since, or at the end. -/
def Instant (r r' : Run) (s : Session) : Prop :=
  (∃ m ∈ r'.trace.drop r.trace.length, m.session = s) ∨ s = r'.session

variable {r q r' : Run} {path : Path} {s : Session}

theorem instant_iff {new : List Moment} (h : r'.trace = r.trace ++ new) (s : Session) :
    r.Instant r' s ↔ (∃ m ∈ new, m.session = s) ∨ s = r'.session := by
  unfold Instant
  rw [h, List.drop_left]

theorem instant_end (r r' : Run) : r.Instant r' r'.session := .inr rfl

/-- As long as nothing is shown there is no instant but the end. -/
theorem Instant.of_same (h : r.Instant r' s) (trace : r'.trace = r.trace) : s = r'.session := by
  rcases (instant_iff (trace.trans (List.append_nil _).symm) s).mp h with ⟨m, mem, _⟩ | last
  · cases mem
  · exact last

/-- An instant is before a run in between, or after it. -/
theorem Instant.split (first : r.trace <+: q.trace) (rest : q.trace <+: r'.trace)
    (h : r.Instant r' s) : r.Instant q s ∨ q.Instant r' s := by
  obtain ⟨new, trace⟩ := first
  obtain ⟨more, further⟩ := rest
  have whole : r'.trace = r.trace ++ (new ++ more) := by
    rw [← further, ← trace, List.append_assoc]
  rw [instant_iff whole] at h
  rw [instant_iff trace.symm, instant_iff further.symm]
  rcases h with ⟨m, hm, rfl⟩ | last
  · rcases List.mem_append.mp hm with old | fresh
    · exact .inl (.inl ⟨m, old, rfl⟩)
    · exact .inr (.inl ⟨m, fresh, rfl⟩)
  · exact .inr (.inr last)

theorem news_of_events {new : List Event} (h : r'.events = r.events ++ new) (path : Path) :
    r'.news path = r.news path ++ new.filter (Event.about path) := by
  unfold news
  rw [h, List.filter_append]

/-- The removal of an element is among the news about it. -/
theorem removed_iff_news {new : List Event} (later : r.trace <+: r'.trace)
    (h : r'.news path = r.news path ++ new) :
    r.Removed r' path ↔ ∃ e ∈ new, e.kind = .elementRemoved := by
  obtain ⟨more, trace⟩ := later
  have events : r'.events = r.events ++ _ := shown_append Effect.event? trace.symm
  have about := news_of_events events path
  rw [h, List.append_right_inj] at about
  have removals := shown_removed r'
  rw [events, List.filterMap_append, ← shown_removed] at removals
  rw [removed_iff removals, about, List.mem_filterMap]
  constructor
  · rintro ⟨e, mem, left⟩
    unfold Event.left? at left
    split at left
    · rename_i removed
      refine ⟨e, List.mem_filter.mpr ⟨mem, ?_⟩, removed⟩
      rw [Event.about_iff, removed]
      exact ⟨Option.some.inj left, rfl⟩
    · cases left
  · rintro ⟨e, mem, removed⟩
    obtain ⟨mem, about⟩ := List.mem_filter.mp mem
    refine ⟨e, mem, ?_⟩
    unfold Event.left?
    rw [if_pos removed, (Event.about_iff.mp about).1]

end Run

/-! ## 2. Acts -/

/-- The act does not decide whether the element at a path was fetched, and what it shows about it is
of a given sort. -/
def Act.Keeps (path : Path) (sort : Event → Prop) : Act → Prop
  | merge p _ => p ≠ path
  | release p => p ≠ path
  | emit kind p payload => Event.about path ⟨kind, p, payload⟩ → sort ⟨kind, p, payload⟩
  | _ => True

/-- From a run to a later one, the element at a path was fetched as before or is new and was not
fetched, and what was shown about it is of a given sort. -/
structure Run.Keeps (r r' : Run) (path : Path) (sort : Event → Prop) : Prop where
  trace : r.trace <+: r'.trace
  synced : ∀ s, r.Instant r' s → s.synced? path = r.session.synced? path
    ∨ r.session.synced? path = none ∧ s.synced? path = some false
  news : ∃ notes, r'.news path = r.news path ++ notes ∧ ∀ e ∈ notes, sort e

namespace Run.Keeps

variable {r q r' : Run} {path : Path} {sort : Event → Prop}

/-- Where neither an element nor what was shown changed. -/
theorem of_same (registry : r'.session.registry = r.session.registry) (trace : r'.trace = r.trace) :
    r.Keeps r' path sort := by
  refine ⟨trace ▸ List.prefix_refl _, fun s instant => ?_, [], ?_,
    fun _ h => absurd h List.not_mem_nil⟩
  · rw [instant.of_same trace]
    exact .inl (Session.look_of_registry_eq registry path)
  · unfold Run.news Run.events Run.shown
    rw [trace, List.append_nil]

theorem refl : r.Keeps r path sort := of_same rfl rfl

theorem trans (h : r.Keeps q path sort) (h' : q.Keeps r' path sort) : r.Keeps r' path sort := by
  refine ⟨h.trace.trans h'.trace, fun s instant => ?_, ?_⟩
  · rcases instant.split h.trace h'.trace with first | rest
    · exact h.synced s first
    · -- what is new in between is not fetched, and stays so
      rcases h.synced _ (instant_end r q) with same | ⟨none, fresh⟩
      · rw [← same]
        exact h'.synced s rest
      · rcases h'.synced s rest with same | ⟨gone, _⟩
        · exact .inr ⟨none, same.trans fresh⟩
        · rw [fresh] at gone
          cases gone
  · obtain ⟨notes, news, of⟩ := h.news
    obtain ⟨more, further, of'⟩ := h'.news
    refine ⟨notes ++ more, by rw [further, news, List.append_assoc], fun e mem => ?_⟩
    exact (List.mem_append.mp mem).elim (of e) (of' e)

/-- An element that is there stays fetched, or not. -/
theorem still (h : r.Keeps r' path sort) {fetched : Bool}
    (known : r.session.synced? path = some fetched) {s : Session} (instant : r.Instant r' s) :
    s.synced? path = some fetched := by
  rcases h.synced s instant with same | ⟨none, _⟩
  · exact same.trans known
  · rw [known] at none
    cases none

/-- Nothing becomes fetched. -/
theorem fetched_before (h : r.Keeps r' path sort) {s : Session} (instant : r.Instant r' s)
    (fetched : s.synced? path = some true) : r.session.synced? path = some true := by
  rcases h.synced s instant with same | ⟨_, fresh⟩
  · rwa [same] at fetched
  · rw [fresh] at fetched
    cases fetched

theorem mono {wide : Event → Prop} (wider : ∀ e, sort e → wide e) (h : r.Keeps r' path sort) :
    r.Keeps r' path wide := by
  obtain ⟨notes, news, of⟩ := h.news
  exact ⟨h.trace, h.synced, notes, news, fun e mem => wider e (of e mem)⟩

end Run.Keeps

/-- When an act shows something, the elements are those before the act or those after it. -/
theorem Act.perform_moments (a : Act) (r : Run) :
    ∃ new, (a.perform r).trace = r.trace ++ new ∧ ∀ m ∈ new,
      m.session.registry = r.session.registry
        ∨ m.session.registry = (a.perform r).session.registry := by
  have nothing : ∀ m ∈ ([] : List Moment), m.session.registry = r.session.registry
      ∨ m.session.registry = (a.perform r).session.registry := fun m h => absurd h List.not_mem_nil
  cases a with
  | release path =>
    show ∃ new, (r.releaseElement path).trace = r.trace ++ new ∧ _
    cases here : r.session.element? path with
    | none =>
      rw [Run.releaseElement_of_none here]
      exact ⟨[], (List.append_nil _).symm, nothing⟩
    | some e =>
      obtain ⟨between, erased, trace⟩ := Run.releaseElement_trace here
      rw [List.append_assoc] at trace
      refine ⟨_, trace, fun m mem => .inr ?_⟩
      show _ = (r.releaseElement path).session.registry
      rcases List.mem_append.mp mem with given | parting
      · obtain ⟨_, _, rfl⟩ := List.mem_map.mp given
        rw [Run.releaseElement_session here]
        exact erased
      · obtain ⟨_, _, rfl⟩ := List.mem_map.mp parting
        rfl
  | closeWatch =>
    show ∃ new, r.closeWatch.trace = r.trace ++ new ∧ _
    unfold Run.closeWatch
    cases r.session.ownership.watch with
    | none => exact ⟨[], (List.append_nil _).symm, nothing⟩
    | some id => exact ⟨[_], rfl, List.forall_mem_singleton.mpr (.inl rfl)⟩
  | closeQuery =>
    show ∃ new, r.closeQuery.trace = r.trace ++ new ∧ _
    unfold Run.closeQuery
    cases r.session.ownership.query with
    | none => exact ⟨[], (List.append_nil _).symm, nothing⟩
    | some id => exact ⟨[_], rfl, List.forall_mem_singleton.mpr (.inl rfl)⟩
  | send _ _ _ _ _ => exact ⟨[_], rfl, List.forall_mem_singleton.mpr (.inl rfl)⟩
  | subscribe _ _ _ => exact ⟨[_], rfl, List.forall_mem_singleton.mpr (.inl rfl)⟩
  | openWatch => exact ⟨[_], rfl, List.forall_mem_singleton.mpr (.inl rfl)⟩
  | openQuery => exact ⟨[_], rfl, List.forall_mem_singleton.mpr (.inl rfl)⟩
  | emit _ _ _ => exact ⟨[_], rfl, List.forall_mem_singleton.mpr (.inl rfl)⟩
  | tell _ _ => exact ⟨[_], rfl, List.forall_mem_singleton.mpr (.inl rfl)⟩
  | _ => exact ⟨[], (List.append_nil _).symm, nothing⟩

namespace Act

variable {a : Act} {r : Run} {path : Path} {sort : Event → Prop}

theorem Keeps.synced? (h : a.Keeps path sort) (enabled : a.Enabled r.session) :
    (a.perform r).session.synced? path = r.session.synced? path
      ∨ r.session.synced? path = none ∧ (a.perform r).session.synced? path = some false := by
  cases a with
  | register p interface parent depth =>
    have registry := r.register_registry p { interface, parent, depth }
    by_cases self : path = p
    · subst self
      refine .inr ⟨Session.look_of_element?_none enabled.1, ?_⟩
      exact Session.look_of_element? ((Session.element?_of_set registry path).trans (if_pos rfl))
    · left
      show ((r.register p _).session.element? path).bind _ = (r.session.element? path).bind _
      rw [Session.element?_of_set registry, if_neg self]
  | send p kind purpose completion call =>
    exact .inl (Session.look_of_modified_kept (r.sendCall_registry p kind purpose completion call)
      (fun _ => rfl) path)
  | subscribe p rule route =>
    exact .inl (Session.look_of_modified_kept (r.openSubscription_registry p rule route)
      (fun _ => rfl) path)
  | closeWatch => exact .inl (Session.look_of_registry_eq r.closeWatch_registry path)
  | closeQuery => exact .inl (Session.look_of_registry_eq r.closeQuery_registry path)
  | release p =>
    obtain ⟨e, here⟩ := Option.isSome_iff_exists.mp enabled
    left
    show (r.releaseElement p).session.look path _ = _
    rw [Session.look_of_erased (congrArg Session.registry (Run.releaseElement_session here)),
      if_neg (Ne.symm h)]
    rfl
  | merge p fetched =>
    left
    show Session.look _ path _ = _
    rw [Session.look_of_modified (merge_registry p fetched r), if_neg (Ne.symm h)]
    rfl
  | store p n value given =>
    exact .inl (Session.look_of_modified_kept (store_registry p n value given r) (fun _ => rfl)
      path)
  | drop p n =>
    exact .inl (Session.look_of_modified_kept (drop_registry p n r) (fun _ => rfl) path)
  | answer call p kind =>
    exact .inl (Session.look_of_modified_kept (answer_registry call p kind r) (fun _ => rfl) path)
  | _ => exact .inl rfl

theorem Keeps.noted (h : a.Keeps path sort) (enabled : a.Enabled r.session) :
    ∀ e ∈ ((a.shows r).filterMap Effect.event?).filter (Event.about path), sort e := by
  intro e mem
  obtain ⟨shown, about⟩ := List.mem_filter.mp mem
  cases a with
  | release p =>
    obtain ⟨x, here⟩ := Option.isSome_iff_exists.mp enabled
    rw [release_events here, List.mem_singleton] at shown
    subst shown
    exact absurd (Event.about_iff.mp about).1 h
  | emit kind p payload =>
    have same : e = ⟨kind, p, payload⟩ := List.mem_singleton.mp shown
    subst same
    exact h about
  | closeWatch =>
    rw [closeWatch_unseen fun _ => rfl] at shown
    cases shown
  | closeQuery =>
    rw [closeQuery_unseen fun _ => rfl] at shown
    cases shown
  | _ => cases shown

theorem Keeps.keeps (h : a.Keeps path sort) (enabled : a.Enabled r.session) :
    r.Keeps (a.perform r) path sort := by
  obtain ⟨new, trace, moments⟩ := a.perform_moments r
  refine ⟨⟨new, trace.symm⟩, fun s instant => ?_, _,
    Run.news_of_events (perform_shown Effect.event? a r) path, h.noted enabled⟩
  rw [Run.instant_iff trace] at instant
  rcases instant with ⟨m, mem, rfl⟩ | rfl
  · rcases moments m mem with before | after
    · exact .inl (Session.look_of_registry_eq before path)
    · have same : m.session.synced? path = (a.perform r).session.synced? path :=
        Session.look_of_registry_eq after path
      rw [same]
      exact h.synced? enabled
  · exact h.synced? enabled

theorem Grows.keeps (a : Act) (h : a.Grows) : a.Keeps path sort := by
  cases a <;> first | exact h.elim | trivial

end Act

theorem Steps.keeps {r r' : Run} {path : Path} {sort : Event → Prop}
    (h : Steps (Act.Keeps path sort) r r') : r.Keeps r' path sort :=
  h.preserves (I := fun q => r.Keeps q path sort)
    (fun _ _ keeps enabled before => before.trans (keeps.keeps enabled)) .refl

/-! ## 3. Coming and going -/

/-- No event at all. -/
def Event.None (_ : Event) : Prop := False

/-- From a run to a later one, the element at a path left, and this is all that was shown about it.
Nothing was fetched there meanwhile. -/
structure Run.Loses (r r' : Run) (path : Path) : Prop where
  trace : r.trace <+: r'.trace
  here : (r.session.element? path).isSome
  synced : ∀ s, r.Instant r' s → s.synced? path = some true → r.session.synced? path = some true
  fresh : r'.session.synced? path ≠ some true
  news : ∃ last, r'.news path = r.news path ++ [last] ∧ last.kind = .elementRemoved

/-- From a run to a later one, nothing was fetched at a path: what was there is as before, or it
left. -/
def Run.Passes (r r' : Run) (path : Path) (sort : Event → Prop) : Prop :=
  r.Keeps r' path sort ∨ r.Loses r' path

namespace Run

variable {r q r' : Run} {path : Path} {sort : Event → Prop}

theorem Keeps.news_eq (h : r.Keeps r' path Event.None) : r'.news path = r.news path := by
  obtain ⟨notes, news, none⟩ := h.news
  rw [news, List.eq_nil_iff_forall_not_mem.mpr none, List.append_nil]

theorem Keeps.of_none (h : r.Keeps r' path Event.None) : r.Keeps r' path sort :=
  h.mono fun _ => False.elim

/-- The element leaves that was kept so far. -/
theorem Keeps.release (h : r.Keeps q path Event.None) (was : (r.session.element? path).isSome)
    (here : (q.session.element? path).isSome) : r.Loses (q.releaseElement path) path := by
  obtain ⟨x, found⟩ := Option.isSome_iff_exists.mp here
  have gone : (q.releaseElement path).session.synced? path = none := by
    apply Session.look_of_element?_none
    rw [releaseElement_element?, if_pos rfl]
  have trace : q.trace <+: (q.releaseElement path).trace :=
    (releaseElement_steps q path).trace_extends
  constructor
  · exact h.trace.trans trace
  · exact was
  · intro s instant fetched
    rcases instant.split h.trace trace with before | leaving
    · exact h.fetched_before before fetched
    · -- when its removal shows, the element is gone already
      obtain ⟨new, shown, moments⟩ := releaseElement_moments found
      rw [instant_iff shown] at leaving
      rcases leaving with ⟨m, mem, rfl⟩ | rfl
      · have none : m.session.synced? path = Option.none :=
          Session.look_of_element?_none (((moments m mem).2 path).trans (if_pos rfl))
        rw [none] at fetched
        cases fetched
      · rw [gone] at fetched
        cases fetched
  · rw [gone]
    exact Option.some_ne_none true |>.symm
  · have events := Act.perform_shown Effect.event? (.release path) q
    rw [Act.release_events found] at events
    have about : Event.about path ⟨.elementRemoved, path, .snapshot x.properties⟩ = true :=
      Event.about_iff.mpr ⟨rfl, rfl⟩
    refine ⟨⟨.elementRemoved, path, .snapshot x.properties⟩, ?_, rfl⟩
    rw [← h.news_eq]
    exact (news_of_events events path).trans (by rw [List.filter_singleton, about]; rfl)

/-- After an element left, another one can come and is not fetched yet. -/
theorem Loses.then (h : r.Loses q path) (later : q.Keeps r' path Event.None) :
    r.Loses r' path := by
  have fresh : ∀ s, q.Instant r' s → s.synced? path ≠ some true :=
    fun _ instant fetched => h.fresh (later.fetched_before instant fetched)
  constructor
  · exact h.trace.trans later.trace
  · exact h.here
  · intro s instant fetched
    rcases instant.split h.trace later.trace with before | after
    · exact h.synced s before fetched
    · exact absurd fetched (fresh s after)
  · exact fresh _ (instant_end q r')
  · rw [later.news_eq]
    exact h.news

theorem Passes.then (h : r.Passes q path sort) (later : q.Keeps r' path Event.None) :
    r.Passes r' path sort :=
  h.imp (fun keeps => keeps.trans later.of_none) fun loses => loses.then later

theorem Passes.of_none (h : r.Passes r' path Event.None) : r.Passes r' path sort :=
  h.imp_left Keeps.of_none

/-- The elements and what was shown are all that counts. -/
theorem Passes.of_same (registry : q.session.registry = r.session.registry)
    (trace : q.trace = r.trace) (h : q.Passes r' path sort) : r.Passes r' path sort := by
  refine h.imp (Keeps.of_same registry trace).trans fun loses => ?_
  obtain ⟨later, here, synced, fresh, news⟩ := loses
  have look : q.session.synced? path = r.session.synced? path :=
    Session.look_of_registry_eq registry path
  rw [Session.element?_of_registry_eq registry] at here
  rw [look] at synced
  unfold Instant Run.news events shown at *
  rw [trace] at later synced news
  exact ⟨later, here, synced, fresh, news⟩

end Run

/-- Of removals, one at most is that of the element at a path, and the others are nothing to it. -/
theorem Steps.removes_passes {r r' : Run} (h : Steps Act.Removes r r') (path : Path) :
    r.Passes r' path Event.None := by
  have left : (r.session.element? path = none → r'.session.element? path = none)
      ∧ (r.Keeps r' path Event.None
        ∨ r.Loses r' path ∧ r'.session.element? path = none) := by
    apply h.preserves (I := fun q =>
      (r.session.element? path = none → q.session.element? path = none)
        ∧ (r.Keeps q path Event.None ∨ r.Loses q path ∧ q.session.element? path = none))
      _ ⟨id, .inl .refl⟩
    intro q a removes enabled ⟨nothing, before⟩
    refine ⟨fun new => (Steps.one removes enabled).element?_eq_none (nothing new), ?_⟩
    cases a with
    | release p =>
      by_cases self : p = path
      · subst self
        -- it is there to be removed, so it was not removed so far
        rcases before with keeps | ⟨_, gone⟩
        · refine .inr ⟨keeps.release ?_ enabled, ?_⟩
          · rw [Option.isSome_iff_ne_none]
            intro new
            have here : (q.session.element? p).isSome := enabled
            rw [nothing new] at here
            cases here
          · exact (Run.releaseElement_element? q p p).trans (if_pos rfl)
        · have here : (q.session.element? p).isSome := enabled
          rw [gone] at here
          cases here
      · have other : q.Keeps (q.releaseElement p) path Event.None :=
          Act.Keeps.keeps (a := .release p) self enabled
        rcases before with keeps | ⟨loses, gone⟩
        · exact .inl (keeps.trans other)
        · exact .inr ⟨loses.then other, (Steps.one removes enabled).element?_eq_none gone⟩
    | _ => exact removes.elim
  exact left.2.imp_right And.left

namespace Run

variable {r r' : Run} {path : Path} {sort : Event → Prop}

/-- Events about the service are not about elements, also where they name the root. -/
theorem emit_keeps {kind : EventKind} (service : kind.ofService = true) (root : Path)
    (payload : Payload) (r : Run) (path : Path) :
    r.Keeps (r.emit kind root payload) path Event.None := by
  apply Act.Keeps.keeps (a := .emit kind root payload)
  · intro about
    have element := (Event.about_iff.mp about).2
    rw [service] at element
    cases element
  · rintro rfl
    cases service

theorem exit_passes (r : Run) (path : Path) : r.Passes r.exit path Event.None := by
  have removed := (removeAll_steps r).removes_passes path
  have absent : r.removeAll.Keeps (r.removeAll.setState .absent) path Event.None :=
    .of_same rfl rfl
  exact removed.then (absent.trans (emit_keeps rfl r.session.config.rootPath .none _ path))

theorem enter_keeps (owner : String) (r : Run) (path : Path) :
    r.Keeps (r.enter owner) path Event.None := by
  obtain ⟨grown, grows, entered⟩ := enter_grows owner r
  have known : r.Keeps (r.setState (.present owner)) path Event.None := .of_same rfl rfl
  rw [entered]
  exact (known.trans (grows.mono Act.Grows.keeps).keeps).trans (emit_keeps rfl _ _ grown path)

theorem ownerChanged_passes (oldOwner newOwner : String) (r : Run) (path : Path) :
    r.Passes (r.ownerChanged oldOwner newOwner) path Event.None := by
  unfold ownerChanged
  split
  · exact .inl (enter_keeps _ r path)
  · exact exit_passes r path
  · exact (exit_passes r path).then (enter_keeps _ r.exit path)
  · exact .inl .refl

theorem init_keeps (idle : r.session.Idle) (path : Path) : r.Keeps r.init path sort := by
  have counted : r.Keeps (r.setUsers (r.session.users + 1)) path sort := .of_same rfl rfl
  unfold init
  dsimp only
  split
  · rename_i first
    obtain ⟨unwatched, unasked⟩ := idle (by omega)
    have watched : Run.Keeps _ (r.setUsers (r.session.users + 1)).openWatch path sort :=
      Act.Keeps.keeps (a := .openWatch) trivial unwatched
    have asked : Run.Keeps _ (r.setUsers (r.session.users + 1)).openWatch.openQuery path sort :=
      Act.Keeps.keeps (a := .openQuery) trivial unasked
    exact (counted.trans watched).trans asked
  · exact counted

theorem shutdown_passes (r : Run) (path : Path) : r.Passes r.shutdown path Event.None := by
  unfold shutdown
  split
  · exact .inl .refl
  · have left : (r.setUsers 0).Passes (if (r.setUsers 0).session.state.isPresent then
        (r.setUsers 0).exit else (r.setUsers 0).removeAll) path Event.None := by
      split
      · exact exit_passes (r.setUsers 0) path
      · exact (removeAll_steps (r.setUsers 0)).removes_passes path
    have unwatched : ∀ q : Run, q.Keeps q.closeWatch path Event.None :=
      fun q => Act.Keeps.keeps (a := .closeWatch) trivial trivial
    have unasked : ∀ q : Run, q.Keeps q.closeQuery path Event.None :=
      fun q => Act.Keeps.keeps (a := .closeQuery) trivial trivial
    refine Passes.of_same (q := r.setUsers 0) rfl rfl ?_
    exact left.then ((unwatched _).trans (unasked _))
  · exact .inl (.of_same rfl rfl)

end Run

end BusCache
