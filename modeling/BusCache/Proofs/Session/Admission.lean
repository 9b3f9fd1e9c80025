import BusCache.Proofs.Session.Refusals
import BusCache.Proofs.Session.Unasked

/-!
# Admission — one call of each kind at a time

A call of a kind is refused as long as another one of that kind is outstanding on the element: it
was sent since the element was registered, and no reply to it came. What is outstanding is read off
the history, from the operations, the replies among them and what the transport was asked for; the
slots of the elements hold it.
-/

namespace BusCache

/-! ## 1. Calls since the last removal -/

/-- What an effect is to the object at a path: a call that is sent to it, the removal of its
element, or nothing. -/
def Effect.visit? (path : Path) : Effect → Option (Option CallId)
  | call id sent => if sent.path = path then some (some id) else none
  | event ⟨.elementRemoved, p, _⟩ _ => if p = path then some none else none
  | _ => none

namespace Effect

variable {path : Path}

theorem visit?_call (id : CallId) (message : MethodCall) :
    visit? path (.call id message) = if message.path = path then some (some id) else none := rfl

theorem visit?_removed (p : Path) (payload : Payload) (handler : Option Handler) :
    visit? path (.event ⟨.elementRemoved, p, payload⟩ handler) =
      if p = path then some none else none := rfl

theorem visit?_event {e : Event} (other : e.kind ≠ .elementRemoved) (handler : Option Handler) :
    visit? path (.event e handler) = none := by
  obtain ⟨kind, p, payload⟩ := e
  cases kind with
  | elementRemoved => exact absurd rfl other
  | _ => rfl

theorem call_of_visit? {effect : Effect} {c : CallId} (h : effect.visit? path = some (some c)) :
    ∃ message, effect = .call c message ∧ message.path = path := by
  cases effect with
  | call id message =>
    rw [visit?_call] at h
    by_cases about : message.path = path
    · rw [if_pos about] at h
      cases h
      exact ⟨message, rfl, about⟩
    · rw [if_neg about] at h
      cases h
  | event e handler =>
    by_cases removal : e.kind = .elementRemoved
    · obtain ⟨kind, p, payload⟩ := e
      cases removal
      rw [visit?_removed] at h
      split at h <;> cases h
    · rw [visit?_event removal] at h
      cases h
  | _ => cases h

end Effect

/-- A call joins those before it, and a removal ends them. -/
def CallId.visit (calls : List CallId) : Option CallId → List CallId
  | some id => calls ++ [id]
  | none => []

/-- What is among the calls in the end was among them before, or came as one of the visits. -/
theorem CallId.mem_of_visits {c : CallId} {visits : List (Option CallId)} {calls : List CallId}
    (mem : c ∈ visits.foldl visit calls) : c ∈ calls ∨ some c ∈ visits := by
  induction visits generalizing calls with
  | nil => exact .inl mem
  | cons visit visits ih =>
    rcases ih mem with before | later
    · cases visit with
      | none => exact absurd before List.not_mem_nil
      | some id =>
        rcases List.mem_append.mp before with old | last
        · exact .inl old
        · rw [List.mem_singleton.mp last]
          exact .inr List.mem_cons_self
    · exact .inr (List.mem_cons_of_mem _ later)

/-- The calls that were sent to the object at a path from a run to a later one, since the last
removal of the element there. -/
def Run.callsSince (r r' : Run) (path : Path) : List CallId :=
  ((r'.shown (Effect.visit? path)).drop (r.shown (Effect.visit? path)).length).foldl CallId.visit []

namespace Act

variable {r : Run} {path : Path}

theorem send_visits {p : Path} {kind : CallKind} {purpose : CallPurpose}
    {completion : Option Completion} {call : MethodCall}
    (enabled : (send p kind purpose completion call).Enabled r.session) :
    ((send p kind purpose completion call).shows r).filterMap (Effect.visit? path) =
      if p = path then [some r.nextCall] else [] := by
  show List.filterMap _ [Effect.call r.nextCall call] = _
  rw [List.filterMap_cons, Effect.visit?_call, enabled.2.2.2.2.1]
  by_cases self : p = path
  · rw [if_pos self, if_pos self, List.filterMap_nil]
  · rw [if_neg self, if_neg self, List.filterMap_nil]

theorem release_visits {p : Path} {e : Element} (here : r.session.element? p = some e) :
    ((release p).shows r).filterMap (Effect.visit? path) = if p = path then [none] else [] := by
  rw [shows_release here, List.filterMap_append,
    Element.surrenders_unseen _ _ _ (fun _ => rfl) (fun _ => rfl), List.nil_append]
  unfold Element.partings
  have told : (((r.session.listing.slots p e).filterMap Slot.completion).map
      fun c => Effect.complete c (.error .canceled)).filterMap (Effect.visit? path) = [] :=
    Effect.filterMap_unseen (fun _ => rfl) _
  rw [List.filterMap_cons, Effect.visit?_removed, told]
  by_cases self : p = path
  · rw [if_pos self, if_pos self]
  · rw [if_neg self, if_neg self]

/-- What neither sends a call nor takes an element away is no visit. -/
theorem Enabled.unvisited {a : Act} (enabled : a.Enabled r.session)
    (quiet : ∀ p kind purpose completion call, a ≠ .send p kind purpose completion call)
    (kept : ∀ p, a ≠ .release p) : (a.shows r).filterMap (Effect.visit? path) = [] := by
  cases a with
  | send p kind purpose completion call => exact absurd rfl (quiet p kind purpose completion call)
  | release p => exact absurd rfl (kept p)
  | closeWatch => exact closeWatch_unseen (fun _ => rfl) r
  | closeQuery => exact closeQuery_unseen (fun _ => rfl) r
  | emit kind p payload =>
    have other : kind ≠ .elementRemoved := enabled
    exact List.filterMap_cons_none (Effect.visit?_event other _)
  | _ => rfl

end Act

namespace Run

variable {r q : Run} {path : Path}

theorem callsSince_of_shown {r' : Run}
    (same : r'.shown (Effect.visit? path) = r.shown (Effect.visit? path)) :
    r.callsSince r' path = [] := by
  unfold callsSince
  rw [same, List.drop_length, List.foldl_nil]

theorem callsSince_perform (before : r.trace <+: q.trace) (a : Act) (path : Path) :
    r.callsSince (a.perform q) path =
      ((a.shows q).filterMap (Effect.visit? path)).foldl CallId.visit (r.callsSince q path) := by
  obtain ⟨new, trace⟩ := before
  have first := shown_append (Effect.visit? path) trace.symm
  have next := Act.perform_shown (Effect.visit? path) a q
  unfold callsSince
  rw [next, first, List.append_assoc, List.drop_left, List.drop_left, List.foldl_append]

/-- A call since the last removal is a call. -/
theorem callsTo_of_callsSince {r' : Run} (more : r.trace <+: r'.trace) {c : CallId}
    (sent : c ∈ r.callsSince r' path) : r'.callsTo path ≠ r.callsTo path := by
  obtain ⟨new, trace⟩ := more
  have visits := shown_append (Effect.visit? path) trace.symm
  have calls := shown_append Effect.call? trace.symm
  unfold callsSince at sent
  rw [visits, List.drop_left] at sent
  have visited := (CallId.mem_of_visits sent).resolve_left List.not_mem_nil
  obtain ⟨m, mem, seen⟩ := List.mem_filterMap.mp visited
  obtain ⟨message, effect, about⟩ := Effect.call_of_visit? seen
  intro same
  unfold callsTo at same
  rw [calls, List.map_append, List.filter_append, List.append_right_eq_self,
    List.filter_eq_nil_iff] at same
  refine same message ?_ (decide_eq_true about)
  exact List.mem_map.mpr
    ⟨(c, message), List.mem_filterMap.mpr ⟨m, mem, by rw [effect]; rfl⟩, rfl⟩

end Run

/-! ## 2. Calls under way along acts -/

/-- Sends calls of one kind only, and takes no reply of an element. -/
def Act.Asks (kind : CallKind) : Act → Prop
  | send _ k _ _ _ => k = kind
  | answer _ _ _ => False
  | _ => True

namespace Run

/-- The call that is under way in a slot is one of a kind that was sent in between, or it was there
before, and its element was not removed. -/
def Awaits (r r' : Run) (asked : CallKind) (path : Path) (kind : CallKind) (c : CallId) : Prop :=
  (r'.session.slot? path kind).map Slot.call = some c ↔
    kind = asked ∧ c ∈ r.callsSince r' path
      ∨ (r.session.slot? path kind).map Slot.call = some c ∧ ¬ r.Removed r' path

variable {r q : Run} {asked : CallKind} {path : Path} {kind : CallKind} {c : CallId}

theorem Awaits.send (h : r.Awaits q asked path kind c) (before : r.trace <+: q.trace) {p : Path}
    {purpose : CallPurpose} {completion : Option Completion} {call : MethodCall}
    (enabled : (Act.send p asked purpose completion call).Enabled q.session) :
    r.Awaits (q.sendCall p asked purpose completion call) asked path kind c := by
  have slots := Session.slot?_of_tracked (q.sendCall_registry p asked purpose completion call)
    enabled.2.1 path kind
  have calls := callsSince_perform before (.send p asked purpose completion call) path
  have removed := (Removed.step before enabled path).trans (or_iff_left fun h => by cases h)
  have free := enabled.2.2.1
  rw [Act.send_visits enabled] at calls
  change r.callsSince (q.sendCall p asked purpose completion call) path = _ at calls
  change r.Removed (q.sendCall p asked purpose completion call) path ↔ _ at removed
  unfold Awaits at h ⊢
  rw [slots, calls, removed]
  by_cases self : path = p
  · subst self
    rw [if_pos rfl]
    by_cases same : kind = asked
    · -- the slot was free, so nothing that was sent before is under way in it
      subst same
      rw [free] at h
      have none := (not_congr h).mp (by simp)
      rw [not_or] at none
      rw [if_pos ⟨rfl, rfl⟩, or_iff_left none.2]
      simp only [Option.map_some, Option.some.injEq, List.foldl_cons, List.foldl_nil,
        CallId.visit, List.mem_append, List.mem_singleton, true_and]
      rw [or_iff_right fun mem => none.1 ⟨rfl, mem⟩]
      exact eq_comm
    · rw [if_neg fun h => same h.2, h]
      simp only [same, false_and]
  · rw [if_neg fun h => self h.1, if_neg (Ne.symm self), h, List.foldl_nil]

theorem Awaits.release (before : r.trace <+: q.trace) (h : r.Awaits q asked path kind c) {p : Path}
    (enabled : (Act.release p).Enabled q.session) :
    r.Awaits (q.releaseElement p) asked path kind c := by
  obtain ⟨e, here⟩ := Option.isSome_iff_exists.mp enabled
  have calls := callsSince_perform before (.release p) path
  have removed := Removed.step before enabled path
  rw [Act.release_visits here] at calls
  change r.callsSince (q.releaseElement p) path = _ at calls
  change r.Removed (q.releaseElement p) path ↔ _ at removed
  have slots : (q.releaseElement p).session.slot? path kind =
      if path = p then none else q.session.slot? path kind :=
    Session.look_of_erased (congrArg Session.registry (releaseElement_session here)) path
  unfold Awaits at h ⊢
  rw [slots, calls, removed]
  by_cases self : path = p
  · subst self
    simp [CallId.visit]
  · have other : Act.release p ≠ .release path := fun same => self (by cases same; rfl)
    rw [if_neg self, if_neg (Ne.symm self), h, List.foldl_nil, or_iff_left other]

/-- Every other act leaves the calls under way where they are. -/
theorem Awaits.still (before : r.trace <+: q.trace) (h : r.Awaits q asked path kind c) {a : Act}
    (enabled : a.Enabled q.session) (asks : a.Asks asked)
    (quiet : ∀ p kind purpose completion call, a ≠ .send p kind purpose completion call)
    (kept : ∀ p, a ≠ .release p) : r.Awaits (a.perform q) asked path kind c := by
  have calls := callsSince_perform before a path
  have removed := Removed.step before enabled path
  rw [enabled.unvisited quiet kept, List.foldl_nil] at calls
  have slots : (a.perform q).session.slot? path kind = q.session.slot? path kind := by
    by_cases moves : a.MovesCalls
    · cases a with
      | send p k purpose completion call => exact absurd rfl (quiet p k purpose completion call)
      | release p => exact absurd rfl (kept p)
      | answer call p kind => exact asks.elim
      | closeQuery => exact Session.look_of_registry_eq q.closeQuery_registry path
      | _ => first | exact moves.elim | rfl
    · exact (enabled.sameCalls moves).slot path kind
  unfold Awaits at h ⊢
  rw [slots, calls, removed, or_iff_left (kept path)]
  exact h

end Run

theorem Steps.awaits {asked : CallKind} {r r' : Run} (h : Steps (Act.Asks asked) r r') (path : Path)
    (kind : CallKind) (c : CallId) : r.Awaits r' asked path kind c := by
  have kept : r.trace <+: r'.trace ∧ r.Awaits r' asked path kind c := by
    apply h.preserves (I := fun q => r.trace <+: q.trace ∧ r.Awaits q asked path kind c)
    · intro q a asks enabled ⟨before, awaits⟩
      refine ⟨before.trans (Steps.one asks enabled).trace_extends, ?_⟩
      cases a with
      | send p k purpose completion call =>
        cases asks
        exact awaits.send before enabled
      | release p => exact awaits.release before enabled
      | answer call p k => exact asks.elim
      | _ =>
        exact awaits.still before enabled asks (fun _ _ _ _ _ h => by cases h)
          fun _ h => by cases h
    · refine ⟨List.prefix_refl _, ?_⟩
      unfold Run.Awaits
      rw [Run.callsSince_of_shown rfl]
      simp [r.not_removed_self path]
  exact kept.2

/-! ## 3. Operations -/

namespace Operation

/-- The kind of the calls that an operation sends; what it sends unasked are fetches. -/
def callKind (op : Operation) : CallKind :=
  match op.place? with
  | some (_, kind, _) => kind
  | none => .propertiesGet

/-- The element and the kind of the call that an operation asks for. -/
def request? (config : Config) : Operation → Option (Path × CallKind)
  | syncRoot => some (config.rootPath, .propertiesGet)
  | op => op.place?.map fun place => (place.1, place.2.1)

end Operation

/-- An operation has a call of a kind sent to the element at a path, where it is still registered in
the end. -/
def Run.Accepts (r : Run) (op : Operation) (path : Path) (kind : CallKind) (c : CallId) : Prop :=
  op.callKind = kind ∧ c ∈ r.callsSince (op.perform r).2 path

namespace Act

variable {op : Operation}

theorem Comes.asks (a : Act) (h : a.Comes) : a.Asks .propertiesGet := by
  cases a <;> first | exact h.elim | exact h.2 | trivial

theorem Changes.asks (a : Act) (h : a.Changes) : a.Asks .propertiesGet := by
  cases a <;> first | exact h.elim | exact h.2 | trivial

theorem Subscribes.asks {kind : CallKind} (a : Act) (h : a.Subscribes) : a.Asks kind := by
  cases a <;> first | exact h.elim | trivial

end Act

namespace Operation

variable {r : Run} {op : Operation} {path : Path} {kind : CallKind} {c : CallId}

/-- What an operation does on its own asks for calls of one kind. -/
theorem own_asks (steps : Steps op.Takes r (op.perform r).2) :
    Steps (Act.Asks op.callKind) r (op.perform r).2 := by
  cases place : op.place? with
  | some at_ =>
    obtain ⟨p, k, purpose⟩ := at_
    have same : op.callKind = k := by
      unfold callKind
      rw [place]
    rw [same]
    exact perform_place_steps place Act.Subscribes.asks (fun _ => rfl) r
  | none =>
    have same : op.callKind = .propertiesGet := by
      unfold callKind
      rw [place]
    rw [same]
    apply steps.mono
    intro a taken
    cases a with
    | send p k purpose completion call =>
      rcases taken with ⟨_, fetch⟩ | ⟨_, placed⟩
      · exact fetch
      · rw [place] at placed
        cases placed
    | answer call p k => exact taken
    | _ => trivial

theorem route_of_slot? (sound : r.session.Sound)
    (held : (r.session.slot? path kind).map Slot.call = some c) :
    ∃ purpose, Table.get? r.session.callRoutes c = some (.element path kind purpose) :=
  (sound.routed.calls.element c path kind).mpr (Option.map_eq_some_iff.mp held)

/-- Who asks for calls and takes no reply to the one that is under way leaves it there. -/
theorem asks_slot? (steps : Steps (Act.Asks op.callKind) r (op.perform r).2)
    (unanswered : (r.session.slot? path kind).map Slot.call = some c →
      ∀ result, op ≠ .dispatch (.reply c result)) :
    ((op.perform r).2.session.slot? path kind).map Slot.call = some c ↔
      r.Accepts op path kind c
        ∨ (r.session.slot? path kind).map Slot.call = some c ∧ ¬ r.Removed (op.perform r).2 path
          ∧ ∀ result, op ≠ .dispatch (.reply c result) := by
  have awaits := steps.awaits path kind c
  unfold Run.Awaits at awaits
  rw [awaits, eq_comm (a := kind)]
  exact or_congr Iff.rfl (and_congr_right fun held => (and_iff_left (unanswered held)).symm)

/-- The reply to a call frees its slot first, and then only fetches are sent. -/
theorem reply_slot? (sound : r.session.Sound) {call : CallId} {p : Path} {k : CallKind}
    {purpose : CallPurpose} {completion : Option Completion} {r₁ : Run}
    {result : Except BusError (List WireValue)}
    (routed : Table.get? r.session.callRoutes call = some (.element p k purpose))
    (held : r.session.slot? p k = some ⟨call, completion⟩)
    (steps : Steps Act.Changes ((Act.answer call p k).perform r) r₁)
    (after : ((dispatch (.reply call result)).perform r).2 =
      r₁.complete completion (purpose.outcome result)) :
    (((dispatch (.reply call result)).perform r).2.session.slot? path kind).map Slot.call = some c ↔
      r.Accepts (dispatch (.reply call result)) path kind c
        ∨ (r.session.slot? path kind).map Slot.call = some c
          ∧ ¬ r.Removed ((dispatch (.reply call result)).perform r).2 path
          ∧ ∀ result', dispatch (.reply call result) ≠ .dispatch (.reply c result') := by
  have told :
      Steps (Act.Asks .propertiesGet) r₁ ((dispatch (.reply call result)).perform r).2 := by
    rw [after]
    apply (r₁.complete_steps completion _).mono
    rintro a ⟨d, _, rfl⟩
    trivial
  have awaits := ((steps.mono Act.Changes.asks).trans told).awaits path kind c
  -- taking the reply shows nothing, and frees the slot of the call
  have slots := Session.slot?_of_freed (Act.answer_registry call p k r) path kind
  unfold Run.Awaits at awaits
  rw [slots] at awaits
  rw [awaits, eq_comm (a := kind)]
  apply or_congr Iff.rfl
  show _ ∧ ¬ r.Removed _ path ↔ _
  by_cases same : path = p ∧ kind = k
  · obtain ⟨rfl, rfl⟩ := same
    rw [if_pos ⟨rfl, rfl⟩, held]
    constructor
    · rintro ⟨none, _⟩
      cases none
    · rintro ⟨answered, _, other⟩
      cases answered
      exact absurd rfl (other result)
  · rw [if_neg same]
    refine and_congr_right fun under => (and_iff_left ?_).symm
    rintro result he
    cases he
    obtain ⟨purpose', routed'⟩ := route_of_slot? sound under
    rw [routed] at routed'
    cases routed'
    exact same ⟨rfl, rfl⟩

/-- The call that is under way in a slot after an operation was accepted by it, or it was there
before, its element was not removed, and the operation was not the reply to it. -/
theorem perform_slot? (sound : r.session.Sound) (op : Operation) (path : Path) (kind : CallKind)
    (c : CallId) :
    ((op.perform r).2.session.slot? path kind).map Slot.call = some c ↔
      r.Accepts op path kind c
        ∨ (r.session.slot? path kind).map Slot.call = some c ∧ ¬ r.Removed (op.perform r).2 path
          ∧ ∀ result, op ≠ .dispatch (.reply c result) := by
  cases op.course sound with
  | own steps unheard =>
    refine asks_slot? (own_asks steps) fun held => ?_
    -- a reply to the call would have been heard
    rintro result rfl
    obtain ⟨purpose, routed⟩ := route_of_slot? sound held
    rw [unheard c result rfl] at routed
    cases routed
  | query call result reply enabled steps =>
    subst reply
    have taken : Steps (Act.Asks .propertiesGet) r ((Act.answerQuery call).perform r) :=
      Steps.one trivial enabled
    refine asks_slot? (taken.trans (steps.mono Act.Comes.asks)) fun held => ?_
    rintro result he
    cases he
    obtain ⟨purpose, routed⟩ := route_of_slot? sound held
    rw [enabled.1] at routed
    cases routed
  | call call result p k purpose completion r₁ reply routed held steps after =>
    subst reply
    exact reply_slot? sound routed held steps after

/-- As long as its element stays, an operation that asks for no call has none of a kind accepted on
an element that is there. -/
theorem unasked_accepts (sound : r.session.Sound) (silent : r.session.Silent)
    (unasked : op.asks = false) (present : r.session.state.isPresent)
    (here : (r.session.element? path).isSome) (stays : ¬ r.Removed (op.perform r).2 path) :
    ¬ r.Accepts op path kind c := by
  intro ⟨_, sent⟩
  have more := (op.perform_acts sound).trace_extends
  rcases unasked_calls sound silent unasked path with none | fetches
  · exact Run.callsTo_of_callsSince more sent none
  · rcases fetches.cause with ⟨_, unregistered | removed⟩ | ⟨absent, _⟩
    · rw [unregistered] at here
      cases here
    · exact stays removed
    · rw [absent] at present
      cases present

end Operation

namespace Operation

variable {r : Run} {op : Operation} {path : Path} {kind : CallKind} {c : CallId}

/-- A reply to a call, whatever it brings, frees the slot of the call and nothing else takes it. -/
theorem reply_frees (sound : r.session.Sound) (silent : r.session.Silent)
    (held : (r.session.slot? path kind).map Slot.call = some c)
    (result : Except BusError (List WireValue)) :
    ((dispatch (.reply c result)).perform r).2.session.slot? path kind = none
      ∧ ((dispatch (.reply c result)).perform r).2.session.state = r.session.state
      ∧ (((dispatch (.reply c result)).perform r).2.session.element? path).isSome := by
  obtain ⟨purpose, routed⟩ := route_of_slot? sound held
  obtain ⟨⟨id, completion⟩, slot, rfl⟩ := Option.map_eq_some_iff.mp held
  have works := reply_works routed slot result
  have present := Run.present_of_reply sound silent routed CallRoute.noConfusion
  have here := Session.registered_of_look slot
  have stays : ¬ r.Removed ((dispatch (.reply id result)).perform r).2 path := by
    apply works.unremoved
    rintro _ works p rfl
    exact works
  refine ⟨?_, ?_, ?_⟩
  · cases after : ((dispatch (.reply id result)).perform r).2.session.slot? path kind with
    | none => rfl
    | some slot' =>
      have under := congrArg (Option.map Slot.call) after
      rcases (perform_slot? sound _ path kind slot'.call).mp under with accepted | ⟨same, _, other⟩
      · exact absurd accepted (unasked_accepts sound silent rfl present here stays)
      · rw [held] at same
        rw [← Option.some.inj same] at other
        exact absurd rfl (other result)
  · unfold Session.state
    rw [works.works_inside.inside_ownership]
  · exact works.preserves (I := fun q => (q.session.element? path).isSome)
      (fun _ _ works _ => works.element?_isSome) here

/-! ## 4. Requests -/

/-- An operation that asks for a call fails and changes nothing, or has its call sent. -/
theorem request_sends {path : Path} {kind : CallKind}
    (request : op.request? r.session.config = some (path, kind)) :
    ∃ (a : Attempt Unit) (purpose : CallPurpose) (completion : Option Completion),
      a.Sends path kind purpose completion r ∧ op.perform r = silent a r := by
  have placed : (op.place?.map fun place => (place.1, place.2.1)) = some (path, kind) →
      ∃ (a : Attempt Unit) (purpose : CallPurpose) (completion : Option Completion),
        a.Sends path kind purpose completion r ∧ op.perform r = silent a r := by
    intro h
    obtain ⟨⟨p, k, purpose⟩, place, same⟩ := Option.map_eq_some_iff.mp h
    cases same
    obtain ⟨a, sends, performs⟩ := perform_sends place r
    exact ⟨a, purpose, op.completion?, sends, performs⟩
  cases op with
  | syncRoot =>
    cases request
    exact ⟨Attempt.syncRoot, .sync, none, Attempt.syncRoot_sends, rfl⟩
  | _ => exact placed request

/-- Once what it was given passes, a request is admitted or not by the slot of its kind alone. -/
theorem request_check {e : Element} (request : op.request? r.session.config = some (path, kind))
    (passes : op.checkArguments r.session = .ok ()) (present : r.session.state.isPresent)
    (here : r.session.element? path = some e) :
    op.check r.session = Session.ensureAdmissible path e kind := by
  have owned : r.session.ensurePresent = .ok () := if_pos present
  have known : r.session.element path = .ok e := Session.element_eq here
  have admitted : ∀ k, r.session.admitCall path k = Session.ensureAdmissible path e k := by
    intro k
    unfold Session.admitCall
    rw [owned, known]
    rfl
  have fetch : r.session.admitFetch path = Session.ensureAdmissible path e .propertiesGet := by
    unfold Session.admitFetch
    rw [known, owned]
    change Session.ensureAdmissible path e .propertiesGet >>= _ = _
    cases Session.ensureAdmissible path e .propertiesGet <;> rfl
  cases op with
  | setProperty p name value completion =>
    cases request
    unfold check
    rw [passes]
    exact admitted _
  | setPropertyAs p name value given completion =>
    cases request
    unfold check
    rw [passes]
    exact admitted _
  | call p k method args completion =>
    cases request
    exact admitted _
  | callOn p interface k method args completion =>
    cases request
    exact admitted _
  | sync p completion =>
    cases request
    exact fetch
  | syncRoot =>
    cases request
    unfold check
    rw [owned]
    exact fetch
  | _ => cases request

/-- A request finds another call of its kind under way. -/
theorem request_refused {e : Element} (request : op.request? r.session.config = some (path, kind))
    (passes : op.checkArguments r.session = .ok ()) (present : r.session.state.isPresent)
    (here : r.session.element? path = some e) (pending : e.isPending kind = true) :
    op.perform r = (.error (.alreadyPending path kind), r) := by
  apply (op.perform_checks r).refused
  rw [request_check request passes present here]
  exact if_pos pending

/-- A request that finds no other call of its kind under way has its call sent, and asks the
transport for no other call. -/
theorem request_accepted (sound : r.session.Sound) {e : Element}
    (request : op.request? r.session.config = some (path, kind))
    (passes : op.checkArguments r.session = .ok ()) (present : r.session.state.isPresent)
    (here : r.session.element? path = some e) (free : r.session.slot? path kind = none) :
    (op.perform r).1 = .ok .done
      ∧ ∃ c, r.Accepts op path kind c
        ∧ (op.perform r).2.shown Effect.placed? = r.shown Effect.placed? ++ [c] := by
  have checked := request_check request passes present here
  rw [Session.ensureAdmissible_eq here free] at checked
  obtain ⟨answer, ok⟩ := (op.perform_checks r).admitted checked
  obtain ⟨a, purpose, completion, sends, performs⟩ := request_sends request
  rw [performs, silent_apply] at ok
  rcases sends with ⟨error, refused⟩ | ⟨r₁, call, steps, enabled, sent⟩
  · rw [refused] at ok
    cases ok
  · have after : op.perform r = (.ok .done, r₁.sendCall path kind purpose completion call) := by
      rw [performs, silent_apply, sent]
      rfl
    have subscribed : r₁.shown Effect.placed? = r.shown Effect.placed? := by
      apply steps.shown_eq
      intro q b subscribes _
      cases b <;> first | exact subscribes.elim | rfl
    have slots := Session.slot?_of_tracked (r₁.sendCall_registry path kind purpose completion call)
      enabled.2.1 path kind
    rw [if_pos ⟨rfl, rfl⟩] at slots
    have taken : ((op.perform r).2.session.slot? path kind).map Slot.call = some r₁.nextCall := by
      rw [after, slots]
      rfl
    refine ⟨congrArg Prod.fst after, r₁.nextCall, ?_, ?_⟩
    · refine ((perform_slot? sound op path kind _).mp taken).resolve_right ?_
      rintro ⟨held, _⟩
      rw [free] at held
      cases held
    · rw [after]
      have shown := Act.perform_shown Effect.placed? (.send path kind purpose completion call) r₁
      rw [subscribed] at shown
      exact shown

/-- What is accepted on an element was asked for there, as long as the element stays. -/
theorem accepted_requested (sound : r.session.Sound) (silent : r.session.Silent)
    (present : r.session.state.isPresent) (here : (r.session.element? path).isSome)
    (stays : ¬ r.Removed (op.perform r).2 path) (accepts : r.Accepts op path kind c) :
    op.request? r.session.config = some (path, kind) := by
  cases asks : op.asks with
  | false => exact absurd accepts (unasked_accepts sound silent asks present here stays)
  | true =>
    obtain ⟨same, sent⟩ := accepts
    have request : ∃ p, op.request? r.session.config = some (p, op.callKind) := by
      cases op <;> first | exact ⟨_, rfl⟩ | cases asks
    obtain ⟨p, request⟩ := request
    rw [same] at request
    obtain ⟨a, purpose, completion, sends, performs⟩ := request_sends request
    rw [performs, silent_apply] at sent
    rcases sends with ⟨error, refused⟩ | ⟨r₁, call, steps, enabled, ok⟩
    · rw [refused, Run.callsSince_of_shown rfl] at sent
      cases sent
    · -- the one call that the operation sends goes to the element that it names
      have subscribed : r₁.shown (Effect.visit? path) = r.shown (Effect.visit? path) := by
        apply steps.shown_eq
        intro q b subscribes _
        cases b <;> first | exact subscribes.elim | rfl
      have calls := Run.callsSince_perform steps.trace_extends
        (.send p kind purpose completion call) path
      rw [Act.send_visits enabled, Run.callsSince_of_shown subscribed] at calls
      change r.callsSince (r₁.sendCall p kind purpose completion call) path = _ at calls
      rw [ok, calls] at sent
      by_cases self : p = path
      · rw [request, self]
      · rw [if_neg self] at sent
        cases sent

end Operation

/-! ## 5. Histories -/

namespace Run

/-- A call of a kind is outstanding on the element at a path: an operation of the history had it
accepted, the element was not removed since, and no reply to it came. -/
def Outstanding (r : Run) (ops : List Operation) (path : Path) (kind : CallKind) (c : CallId) :
    Prop :=
  ∃ before op since, ops = before ++ op :: since
    ∧ (r.performAll before).Accepts op path kind c
    ∧ ¬ (r.performAll (before ++ [op])).Removed (r.performAll ops) path
    ∧ ∀ result, .dispatch (.reply c result) ∉ since

variable {r : Run} {path : Path} {kind : CallKind} {c : CallId}

theorem outstanding_concat (sound : r.session.Sound) (ops : List Operation) (op : Operation) :
    r.Outstanding (ops ++ [op]) path kind c ↔
      (r.performAll ops).Accepts op path kind c
        ∨ r.Outstanding ops path kind c
          ∧ ¬ (r.performAll ops).Removed (op.perform (r.performAll ops)).2 path
          ∧ ∀ result, op ≠ .dispatch (.reply c result) := by
  -- since an earlier operation, the element stayed so far and stays now
  have stays : ∀ before first rest, ops = before ++ first :: rest →
      ((r.performAll (before ++ [first])).Removed (r.performAll (ops ++ [op])) path ↔
        (r.performAll (before ++ [first])).Removed (r.performAll ops) path
          ∨ (r.performAll ops).Removed (op.perform (r.performAll ops)).2 path) := by
    rintro before first rest rfl
    have upto := performAll_extends sound (before ++ [first]) rest
    rw [List.append_assoc, List.singleton_append] at upto
    rw [removed_trans upto (performAll_extends sound _ [op]),
      performAll_concat (before ++ first :: rest)]
  constructor
  · intro ⟨before, first, since, split, accepts, kept, unanswered⟩
    rcases concat_eq_append_cons_iff.mp split with ⟨_, rfl, rfl⟩ | ⟨rest, rfl, earlier⟩
    · exact .inl accepts
    · right
      rw [stays before first rest earlier, not_or] at kept
      refine ⟨⟨before, first, rest, earlier, accepts, kept.1, fun result mem => ?_⟩, kept.2, ?_⟩
      · exact unanswered result (List.mem_append_left _ mem)
      · rintro result rfl
        exact unanswered result (List.mem_append_right _ List.mem_cons_self)
  · rintro (accepts | ⟨⟨before, first, rest, earlier, accepts, kept, unanswered⟩, now, other⟩)
    · exact ⟨ops, op, [], rfl, accepts, not_removed_self _ path, fun _ => List.not_mem_nil⟩
    · refine ⟨before, first, rest ++ [op], by rw [earlier]; simp, accepts, ?_, fun result mem => ?_⟩
      · rw [stays before first rest earlier]
        exact not_or.mpr ⟨kept, now⟩
      · rcases List.mem_append.mp mem with old | last
        · exact unanswered result old
        · exact other result (List.mem_singleton.mp last).symm

/-- The slots hold what is outstanding. -/
theorem slot?_iff_outstanding (config : Config) (numbering : Numbering) (listing : Listing)
    (ops : List Operation) (path : Path) (kind : CallKind) (c : CallId) :
    (((start config numbering listing).performAll ops).session.slot? path kind).map Slot.call =
        some c ↔
      (start config numbering listing).Outstanding ops path kind c := by
  have started : (start config numbering listing).session.Sound :=
    start_sound config numbering listing
  -- on the last operation
  induction ops using List.reverseRecOn with
  | nil =>
    constructor
    · intro held
      cases held
    · rintro ⟨before, op, since, split, _⟩
      cases before <;> cases split
  | append_singleton ops op ih =>
    rw [performAll_concat, outstanding_concat started]
    exact (op.perform_slot? (performAll_sound started ops) path kind c).trans
      (or_congr Iff.rfl (and_congr_left' ih))

end Run

theorem Session.isPending_iff (s : Session) (path : Path) (kind : CallKind) :
    s.isPending path kind = true ↔ ∃ c, (s.slot? path kind).map Slot.call = some c := by
  have same : s.isPending path kind = (s.slot? path kind).isSome := by
    unfold isPending slot? look
    cases s.element? path <;> rfl
  rw [same]
  cases s.slot? path kind <;> simp

/-- Admission is exact in every session that a history leads to. A call of a kind is pending on an
element exactly if one is outstanding. While the service has an owner, an operation that asks for a
call of a kind on a registered element, with arguments that pass, is refused for that exactly if
there is one outstanding, and otherwise it is accepted and places one call. A reply to the call that
is outstanding, be it a success, an error or undecodable, makes the kind admissible again. Nothing
else that leaves the element registered changes the answer: neither calls of other kinds nor
anything that concerns other elements. -/
theorem admission_is_exact (config : Config) (numbering : Numbering) (listing : Listing)
    (ops : List Operation) (path : Path) (kind : CallKind) :
    let start := Run.start config numbering listing
    let r := start.performAll ops
    let after (op : Operation) : Run := (op.perform r).2
    (r.session.isPending path kind = true ↔ ∃ c, start.Outstanding ops path kind c)
    ∧ (r.session.state.isPresent → r.session.isRegistered path →
      (∀ op, op.request? config = some (path, kind) → op.checkArguments r.session = .ok () →
        ((op.perform r).1 = .error (.alreadyPending path kind) ↔
          ∃ c, start.Outstanding ops path kind c)
        ∧ ((∀ c, ¬ start.Outstanding ops path kind c) →
          (op.perform r).1 = .ok .done
          ∧ ∃ c, r.Accepts op path kind c
            ∧ (after op).shown Effect.placed? = r.shown Effect.placed? ++ [c]))
      ∧ (∀ c result, start.Outstanding ops path kind c →
        (after (.dispatch (.reply c result))).session.isPending path kind = false
        ∧ (after (.dispatch (.reply c result))).session.state = r.session.state
        ∧ (after (.dispatch (.reply c result))).session.isRegistered path)
      ∧ ∀ op, op.request? config ≠ some (path, kind) →
        (∀ c result, start.Outstanding ops path kind c → op ≠ .dispatch (.reply c result)) →
        ¬ r.Removed (after op) path →
        (after op).session.isPending path kind = r.session.isPending path kind) := by
  intro start r after
  have sound : r.session.Sound :=
    Run.performAll_sound (Run.start_sound config numbering listing) ops
  have silent : r.session.Silent := (Run.performAll_heard config numbering listing ops).1
  have setup : r.session.config = config :=
    (Run.performAll_acts (Run.start_sound config numbering listing) ops).sameSetup.config
  have outstanding := Run.slot?_iff_outstanding config numbering listing ops path kind
  have pending : r.session.isPending path kind = true ↔ ∃ c, start.Outstanding ops path kind c := by
    rw [Session.isPending_iff]
    exact exists_congr outstanding
  refine ⟨pending, fun present registered => ⟨?_, ?_, ?_⟩⟩
  · intro op request passes
    rw [← setup] at request
    obtain ⟨e, here⟩ : ∃ e, r.session.element? path = some e :=
      Option.isSome_iff_exists.mp registered
    have accepted : (∀ c, ¬ start.Outstanding ops path kind c) → (op.perform r).1 = .ok .done
        ∧ ∃ c, r.Accepts op path kind c
          ∧ (after op).shown Effect.placed? = r.shown Effect.placed? ++ [c] := by
      intro none
      have free : r.session.slot? path kind = Option.none := by
        cases held : r.session.slot? path kind with
        | none => rfl
        | some slot => exact absurd ((outstanding slot.call).mp (congrArg _ held)) (none slot.call)
      exact Operation.request_accepted sound request passes present here free
    refine ⟨⟨fun refused => ?_, fun held => ?_⟩, accepted⟩
    · by_contra none
      rw [(accepted (not_exists.mp none)).1] at refused
      cases refused
    · have held := pending.mpr held
      unfold Session.isPending at held
      rw [here] at held
      exact congrArg Prod.fst (Operation.request_refused request passes present here held)
  · intro c result held
    obtain ⟨freed, state, still⟩ :=
      Operation.reply_frees sound silent ((outstanding c).mpr held) result
    refine ⟨?_, state, still⟩
    rw [← Bool.not_eq_true, Session.isPending_iff]
    rintro ⟨d, under⟩
    change (Session.slot? _ path kind).map Slot.call = some d at under
    rw [freed] at under
    cases under
  · intro op other unanswered stays
    rw [← setup] at other
    rw [Bool.eq_iff_iff, Session.isPending_iff, Session.isPending_iff]
    apply exists_congr
    intro c
    rw [Operation.perform_slot? sound op path kind c]
    constructor
    · rintro (accepts | ⟨held, _⟩)
      · exact absurd
          (Operation.accepted_requested sound silent present registered stays accepts) other
      · exact held
    · intro held
      exact .inr ⟨held, stays, fun result => unanswered c result ((outstanding c).mp held)⟩

/-- The root is being fetched when the application asks for a fetch of its own, and can ask again
once the first one has failed. -/
theorem fetch_refused_until_reply :
    let config : Config :=
      { service := "net.connman", rootPath := "/", rootInterface := "net.connman.Manager",
        protocol := .legacy }
    let ops : List Operation :=
      [.init, .dispatch (.ownerChanged ⟨1⟩ "net.connman" "" ":1.5")]
    let start := Run.start config .counting .ascending
    let r := start.performAll ops
    let failure : Operation := .dispatch (.reply ⟨4⟩ (.error (.bus "no answer")))
    start.Outstanding ops "/" .propertiesGet ⟨4⟩
    ∧ (Operation.syncRoot.perform r).1 = .error (.alreadyPending "/" .propertiesGet)
    ∧ (failure.perform r).2.session.isPending "/" .propertiesGet = false := by
  intro config ops start r failure
  have evaluated : (r.session.state, r.session.isRegistered "/",
      (r.session.slot? "/" .propertiesGet).map Slot.call) =
        (.present ":1.5", true, some ⟨4⟩) := by subst config ops start r; rfl
  obtain ⟨state, registered, held⟩ : _ ∧ _ ∧ _ := by
    simpa only [Prod.mk.injEq] using evaluated
  have outstanding : start.Outstanding ops "/" .propertiesGet ⟨4⟩ :=
    (Run.slot?_iff_outstanding config .counting .ascending ops "/" .propertiesGet ⟨4⟩).mp held
  obtain ⟨_, admission⟩ := admission_is_exact config .counting .ascending ops "/" .propertiesGet
  have present : r.session.state.isPresent := by
    rw [state]
    rfl
  obtain ⟨requests, replies, _⟩ := admission present registered
  exact ⟨outstanding, (requests .syncRoot rfl rfl).1.mpr ⟨_, outstanding⟩,
    (replies ⟨4⟩ _ outstanding).1⟩

end BusCache
