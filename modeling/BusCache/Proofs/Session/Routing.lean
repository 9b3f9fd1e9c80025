import BusCache.Proofs.Session.History
import BusCache.Proofs.Session.SignalRoutes

/-!
# Routing — the tables of routes mirror the elements

A route says what a reply to a call or a delivery of a subscription is for. In every session that a
history leads to, the routes of calls are the calls under way, and the routes of subscriptions are
the subscriptions held. So a reply that has a route always finds its slot, and the answer to the
question who owns the name always finds the question.
-/

namespace BusCache

/-! ## 1. The invariant along acts -/

structure Session.Routed (s : Session) : Prop where
  calls : s.CallsRouted
  signals : s.SignalsRouted
  tidy : ∀ path e, s.element? path = some e → e.Tidy

theorem Act.Enabled.routed {a : Act} {r : Run} (enabled : a.Enabled r.session)
    (h : r.session.Routed) : (a.perform r).session.Routed :=
  ⟨enabled.callsRouted h.calls, enabled.signalsRouted h.signals, enabled.tidy h.tidy⟩

theorem Steps.routed {P : Act → Prop} {r r' : Run} (h : Steps P r r') (start : r.session.Routed) :
    r'.session.Routed :=
  h.preserves (I := fun q => q.session.Routed) (fun _ _ _ enabled kept => enabled.routed kept) start

/-- Neither counts users nor starts to watch or to ask. -/
def Act.KeepsIdle : Act → Prop
  | openWatch => False
  | openQuery => False
  | setUsers _ => False
  | _ => True

theorem Run.closeWatch_ownership (r : Run) :
    r.closeWatch.session.ownership = { r.session.ownership with watch := none } := by
  rw [closeWatch_session]
  generalize r.session = s
  cases hs : s.ownership with
  | mk users state watch query =>
    cases watch with
    | none => exact hs
    | some id => rfl

theorem Run.closeQuery_ownership (r : Run) :
    r.closeQuery.session.ownership = { r.session.ownership with query := none } := by
  rw [closeQuery_session]
  generalize r.session = s
  cases hs : s.ownership with
  | mk users state watch query =>
    cases query with
    | none => exact hs
    | some id => rfl

theorem Steps.idle {r r' : Run} (h : Steps Act.KeepsIdle r r') (start : r.session.Idle) :
    r'.session.Idle := by
  apply h.preserves (I := fun q => q.session.Idle) _ start
  intro q a keeps enabled idle
  cases a with
  | closeWatch =>
    show q.closeWatch.session.Idle
    unfold Session.Idle Session.users
    rw [Run.closeWatch_ownership]
    exact fun none => ⟨rfl, (idle none).2⟩
  | closeQuery =>
    show q.closeQuery.session.Idle
    unfold Session.Idle Session.users
    rw [Run.closeQuery_ownership]
    exact fun none => ⟨(idle none).1, rfl⟩
  | release path =>
    obtain ⟨e, here⟩ := Option.isSome_iff_exists.mp enabled
    show (q.releaseElement path).session.Idle
    rw [Run.releaseElement_session here]
    exact idle
  | answerQuery call => exact fun none => ⟨(idle none).1, rfl⟩
  | openWatch => exact keeps.elim
  | openQuery => exact keeps.elim
  | setUsers users => exact keeps.elim
  | _ => exact idle

/-! ## 2. Courses of operations -/

/-- What holds of every session that a history leads to. -/
structure Session.Sound (s : Session) : Prop where
  routed : s.Routed
  idle : s.Idle

/-- How an operation goes: as a reply to the question who owns the name, as a reply to a call of an
element, or by acts of its own. -/
inductive Operation.Course (op : Operation) (r : Run) : Prop
  | own (steps : Steps op.Takes r (op.perform r).2)
      (unheard : ∀ call result, op = .dispatch (.reply call result) →
        Table.get? r.session.callRoutes call = none)
  | query (call : CallId) (result : Except BusError (List WireValue))
      (reply : op = .dispatch (.reply call result))
      (enabled : (Act.answerQuery call).Enabled r.session)
      (steps : Steps Act.Comes ((Act.answerQuery call).perform r) (op.perform r).2)
  | call (call : CallId) (result : Except BusError (List WireValue)) (path : Path)
      (kind : CallKind) (purpose : CallPurpose) (completion : Option Completion) (r₁ : Run)
      (reply : op = .dispatch (.reply call result))
      (routed : Table.get? r.session.callRoutes call = some (.element path kind purpose))
      (held : r.session.slot? path kind = some ⟨call, completion⟩)
      (steps : Steps Act.Changes ((Act.answer call path kind).perform r) r₁)
      (after : (op.perform r).2 = r₁.complete completion (purpose.outcome result))

theorem Operation.course {r : Run} (sound : r.session.Sound) (op : Operation) : op.Course r := by
  -- a reply that is heard has a route, and the route finds the question or the slot
  by_cases heard : ∃ call result, op = .dispatch (.reply call result)
      ∧ Table.get? r.session.callRoutes call ≠ none
  · obtain ⟨call, result, rfl, hroute⟩ := heard
    obtain ⟨route, hroute⟩ := Option.ne_none_iff_exists'.mp hroute
    cases route with
    | nameOwner =>
      have asked := (sound.routed.calls.owner call).mp hroute
      refine .query call result rfl ⟨hroute, asked⟩ ?_
      rw [perform_reply]
      exact Run.handleReply_query_steps hroute asked result
    | element path kind purpose =>
      obtain ⟨⟨held, completion⟩, hslot, hcall⟩ :=
        (sound.routed.calls.element call path kind).mp ⟨purpose, hroute⟩
      dsimp only at hcall
      subst hcall
      obtain ⟨r₁, steps, after⟩ := Run.handleReply_call_steps hroute hslot result
      rw [← perform_reply] at after
      exact .call held result path kind purpose completion r₁ rfl hroute hslot steps after
  · have unheard : ∀ call result, op = .dispatch (.reply call result) →
        Table.get? r.session.callRoutes call = none := by
      intro call result reply
      by_contra hroute
      exact heard ⟨call, result, reply, hroute⟩
    exact .own (perform_steps sound.idle op unheard) unheard

theorem Act.answer_enabled {r : Run} {call : CallId} {path : Path} {kind : CallKind}
    {purpose : CallPurpose} {completion : Option Completion}
    (routed : Table.get? r.session.callRoutes call = some (.element path kind purpose))
    (held : r.session.slot? path kind = some ⟨call, completion⟩) :
    (Act.answer call path kind).Enabled r.session :=
  ⟨⟨purpose, routed⟩, _, held, rfl⟩

theorem Run.init_idle (r : Run) : r.init.session.Idle := by
  intro none
  have users : r.init.session.users = r.session.users + 1 := by
    unfold init
    dsimp only
    split <;> rfl
  omega

theorem Run.shutdown_idle {r : Run} (idle : r.session.Idle) : r.shutdown.session.Idle := by
  unfold shutdown
  split
  · exact idle
  · intro _
    dsimp only
    rw [closeQuery_ownership, closeWatch_ownership]
    exact ⟨rfl, rfl⟩
  · rename_i users positive _
    intro none
    exact (positive none).elim

theorem Operation.perform_idle {r : Run} (sound : r.session.Sound) (op : Operation) :
    (op.perform r).2.session.Idle := by
  have idle := sound.idle
  cases op.course sound with
  | own steps unheard =>
    by_cases hinit : op = .init
    · rw [hinit]
      exact r.init_idle
    by_cases hshutdown : op = .shutdown
    · -- closing the watch and the question keeps a session idle, and counting down to none does it
      -- only together with both
      rw [hshutdown]
      exact Run.shutdown_idle idle
    apply (steps.mono _).idle idle
    intro a taken
    cases a with
    | openWatch => exact hinit taken
    | openQuery => exact hinit taken
    | setUsers users => exact taken.elim hinit hshutdown
    | _ => trivial
  | query call result reply enabled steps =>
    have settled : Steps Act.KeepsIdle r ((Act.answerQuery call).perform r) :=
      Steps.one trivial enabled
    -- the coming and going of the service does not touch the watch, the question or the count
    refine (settled.trans (steps.mono ?_)).idle idle
    intro a comes
    cases a <;> first | exact comes.elim | trivial
  | call call result path kind purpose completion r₁ reply hroute held steps after =>
    have answered : Steps Act.KeepsIdle r ((Act.answer call path kind).perform r) :=
      Steps.one trivial (Act.answer_enabled hroute held)
    rw [after]
    show (r₁.complete completion _).session.Idle
    rw [Run.complete_session]
    refine (answered.trans (steps.mono ?_)).idle idle
    intro a changes
    cases a <;> first | exact changes.elim | trivial

/-- An operation takes acts of a class to which its own acts belong, and what a reply leads to. -/
theorem Operation.perform_within {P : Act → Prop} {r : Run} (sound : r.session.Sound)
    (op : Operation) (own : ∀ a, op.Takes a → P a)
    (answer : ∀ call path kind, P (.answer call path kind)) (query : ∀ call, P (.answerQuery call))
    (tell : ∀ completion outcome, P (.tell completion outcome)) (comes : ∀ a, a.Comes → P a)
    (changes : ∀ a, a.Changes → P a) : Steps P r (op.perform r).2 := by
  cases op.course sound with
  | own steps unheard => exact steps.mono own
  | query call result reply enabled steps =>
    exact (Steps.one (query call) enabled).trans (steps.mono comes)
  | call call result path kind purpose completion r₁ reply hroute held steps after =>
    have answered : Steps P r ((Act.answer call path kind).perform r) :=
      Steps.one (answer call path kind) (Act.answer_enabled hroute held)
    rw [after]
    refine (answered.trans (steps.mono changes)).trans ((r₁.complete_steps completion _).mono ?_)
    rintro a ⟨c, _, rfl⟩
    exact tell c _

/-- Every operation is a sequence of acts. -/
theorem Operation.perform_acts {r : Run} (sound : r.session.Sound) (op : Operation) :
    Steps (fun _ => True) r (op.perform r).2 :=
  op.perform_within sound (fun _ _ => trivial) (fun _ _ _ => trivial) (fun _ => trivial)
    (fun _ _ => trivial) (fun _ _ => trivial) fun _ _ => trivial

theorem Operation.perform_routed {r : Run} (sound : r.session.Sound) (op : Operation) :
    (op.perform r).2.session.Routed :=
  (op.perform_acts sound).routed sound.routed

theorem Operation.perform_sound {r : Run} (sound : r.session.Sound) (op : Operation) :
    (op.perform r).2.session.Sound :=
  ⟨op.perform_routed sound, op.perform_idle sound⟩

/-! ## 3. Histories -/

theorem Session.new_routed (config : Config) (numbering : Numbering) (listing : Listing) :
    (Session.new config numbering listing).Routed where
  calls := by
    constructor
    · intro call path kind
      constructor
      · rintro ⟨_, routed⟩
        cases routed
      · rintro ⟨_, held, _⟩
        cases held
    · intro call
      constructor <;> intro h <;> cases h
    · exact fun _ _ => rfl
  signals := by
    constructor
    · intro id path
      constructor
      · rintro ⟨_, routed, _⟩
        cases routed
      · rintro ⟨_, held⟩
        cases held
    · intro id
      constructor <;> intro h <;> cases h
    · intro id path m n held
      cases held
    · exact fun _ _ => rfl
  tidy := by
    intro path e here
    cases here

namespace Run

theorem performAll_sound {r : Run} (sound : r.session.Sound) (ops : List Operation) :
    (r.performAll ops).session.Sound :=
  performAll_keeps (I := fun q => q.session.Sound) (fun _ op h => op.perform_sound h) ops sound

/-- What every operation keeps in sound sessions, a history keeps. -/
theorem performAll_sound_keeps {I : Run → Prop}
    (keeps : ∀ r op, r.session.Sound → I r → I (Operation.perform op r).2) {r : Run}
    (sound : r.session.Sound) (start : I r) (ops : List Operation) : I (r.performAll ops) := by
  have kept := performAll_keeps (I := fun q => q.session.Sound ∧ I q)
    (fun q op h => ⟨op.perform_sound h.1, keeps q op h.1 h.2⟩) ops ⟨sound, start⟩
  exact kept.2

theorem performAll_acts {r : Run} (sound : r.session.Sound) (ops : List Operation) :
    Steps (fun _ => True) r (r.performAll ops) :=
  performAll_sound_keeps (I := fun q => Steps (fun _ => True) r q)
    (fun _ op sound before => before.trans (op.perform_acts sound)) sound .refl ops

theorem start_sound (config : Config) (numbering : Numbering) (listing : Listing) :
    (start config numbering listing).session.Sound :=
  ⟨Session.new_routed config numbering listing, fun _ => ⟨rfl, rfl⟩⟩

end Run

/-- A subscription with a route to an element has one holder, and that is the element. -/
theorem Session.SignalsRouted.unique_holder {s : Session} (h : s.SignalsRouted)
    (id : SubscriptionId) :
    (∃ route, Table.get? s.signalRoutes id = some route ∧ route ≠ .nameOwner) ↔
      ∃! path, ∃ member, s.subscription? path member = some id := by
  constructor
  · rintro ⟨route, routed, element⟩
    obtain ⟨path, target⟩ := Option.ne_none_iff_exists'.mp
      (fun he => element ((route.target?_eq_none_iff s.config).mp he))
    refine ⟨path, (h.element id path).mp ⟨route, routed, target⟩, ?_⟩
    intro other ⟨member, held⟩
    obtain ⟨route', routed', target'⟩ := (h.element id other).mpr ⟨member, held⟩
    rw [routed] at routed'
    rw [← Option.some.inj routed', target] at target'
    exact (Option.some.inj target').symm
  · rintro ⟨path, ⟨member, held⟩, _⟩
    obtain ⟨route, routed, target⟩ := (h.element id path).mpr ⟨member, held⟩
    refine ⟨route, routed, ?_⟩
    rintro rfl
    cases target

namespace Session

variable {s : Session}

/-- No element awaits a call or holds a subscription. -/
structure Still (s : Session) : Prop where
  slot : ∀ path kind, s.slot? path kind = none
  subscription : ∀ path member, s.subscription? path member = none

theorem still_of_empty (empty : ∀ path, s.element? path = none) : s.Still where
  slot path _ := look_of_element?_none (empty path)
  subscription path _ := look_of_element?_none (empty path)

/-- The only call that a still session has a route for is the question who owns the name. -/
theorem CallsRouted.of_still (h : s.CallsRouted) (still : s.Still) {call : CallId}
    {route : CallRoute} (routed : Table.get? s.callRoutes call = some route) :
    route = .nameOwner := by
  cases route with
  | nameOwner => rfl
  | element path kind purpose =>
    obtain ⟨slot, held, _⟩ := (h.element call path kind).mp ⟨purpose, routed⟩
    rw [still.slot] at held
    cases held

/-- The only subscription that a still session has a route for is the watch. -/
theorem SignalsRouted.of_still (h : s.SignalsRouted) (still : s.Still) {id : SubscriptionId}
    {route : SignalRoute} (routed : Table.get? s.signalRoutes id = some route) :
    route = .nameOwner := by
  rw [← route.target?_eq_none_iff s.config, Option.eq_none_iff_forall_ne_some]
  intro path target
  obtain ⟨member, held⟩ := (h.element id path).mp ⟨route, routed, target⟩
  rw [still.subscription] at held
  cases held

/-- A still session that neither watches the name nor asks for its owner has no route at all. -/
theorem Routed.unrouted (h : s.Routed) (still : s.Still) (unwatched : s.ownership.watch = none)
    (unasked : s.ownership.query = none) : s.callRoutes = [] ∧ s.signalRoutes = [] := by
  constructor
  · refine (Table.eq_nil_iff _).mpr fun call => Option.eq_none_iff_forall_ne_some.mpr ?_
    intro route found
    rw [h.calls.of_still still found, h.calls.owner, unasked] at found
    cases found
  · refine (Table.eq_nil_iff _).mpr fun id => Option.eq_none_iff_forall_ne_some.mpr ?_
    intro route found
    rw [h.signals.of_still still found, h.signals.owner, unwatched] at found
    cases found

end Session

/-- A notification from the watch is a change of owners. -/
theorem Run.handleOwnerChanged_watched {r : Run} (routed : r.session.Routed)
    {subscription : SubscriptionId} (watched : r.session.ownership.watch = some subscription)
    (oldOwner newOwner : String) :
    r.handleOwnerChanged subscription r.session.config.service oldOwner newOwner =
      r.ownerChanged oldOwner newOwner := by
  unfold handleOwnerChanged
  rw [if_pos ⟨(routed.signals.owner subscription).mpr watched, rfl⟩]

/-- The routing tables mirror the elements in every session that a history leads to. A call has a
route to a slot exactly if the slot holds it, and to the owner's name exactly if it is the question
that is open. A subscription has the route of the watch exactly if it is the watch, and any other
route exactly if one element holds it, which is the one that the route leads to. So a reply with a
route is never stale. -/
theorem routes_mirror_elements (config : Config) (numbering : Numbering) (listing : Listing)
    (ops : List Operation) :
    let s := ((Run.start config numbering listing).performAll ops).session
    (∀ call path kind,
      (∃ purpose, Table.get? s.callRoutes call = some (.element path kind purpose)) ↔
        ∃ e slot, s.element? path = some e ∧ Table.get? e.pending kind = some slot
          ∧ slot.call = call)
    ∧ (∀ call, Table.get? s.callRoutes call = some .nameOwner ↔ s.ownership.query = some call)
    ∧ (∀ id, Table.get? s.signalRoutes id = some .nameOwner ↔ s.ownership.watch = some id)
    ∧ (∀ id, (∃ route, Table.get? s.signalRoutes id = some route ∧ route ≠ .nameOwner) ↔
        ∃! path, ∃ e member, s.element? path = some e
          ∧ Table.get? e.subscriptions member = some id)
    ∧ (∀ id route, Table.get? s.signalRoutes id = some route → route ≠ .nameOwner →
        ∃ path e member, route.target? s.config = some path ∧ s.element? path = some e
          ∧ Table.get? e.subscriptions member = some id)
    ∧ (∀ call path kind purpose,
        Table.get? s.callRoutes call = some (.element path kind purpose) →
          ((s.element? path).bind fun e => e.slot? kind call).isSome)
    ∧ (∀ call, Table.get? s.callRoutes call = some .nameOwner →
        s.ownership.query = some call) := by
  intro s
  have routed := (Run.performAll_sound (Run.start_sound config numbering listing) ops).routed
  have slots : ∀ call path kind, (∃ slot, s.slot? path kind = some slot ∧ slot.call = call) ↔
      ∃ e slot, s.element? path = some e ∧ Table.get? e.pending kind = some slot
        ∧ slot.call = call := by
    intro call path kind
    simp only [Session.slot?_eq_some]
    constructor
    · rintro ⟨slot, ⟨e, here, held⟩, hcall⟩
      exact ⟨e, slot, here, held, hcall⟩
    · rintro ⟨e, slot, here, held, hcall⟩
      exact ⟨slot, ⟨e, here, held⟩, hcall⟩
  have holders : ∀ id path, (∃ member, s.subscription? path member = some id) ↔
      ∃ e member, s.element? path = some e ∧ Table.get? e.subscriptions member = some id := by
    intro id path
    simp only [Session.subscription?_eq_some]
    exact exists_comm
  refine ⟨?_, routed.calls.owner, routed.signals.owner, ?_, ?_, ?_, ?_⟩
  · intro call path kind
    rw [← slots]
    exact routed.calls.element call path kind
  · intro id
    simp only [← holders]
    exact routed.signals.unique_holder id
  · intro id route hroute element
    obtain ⟨path, target⟩ := Option.ne_none_iff_exists'.mp
      (fun he => element ((route.target?_eq_none_iff s.config).mp he))
    obtain ⟨e, member, here, held⟩ :=
      (holders id path).mp ((routed.signals.element id path).mp ⟨route, hroute, target⟩)
    exact ⟨path, e, member, target, here, held⟩
  · -- the branch for a reply that finds another call in its slot, or none
    intro call path kind purpose hroute
    obtain ⟨e, slot, here, held, hcall⟩ :=
      (slots call path kind).mp ((routed.calls.element call path kind).mp ⟨purpose, hroute⟩)
    unfold Element.slot?
    rw [here, Option.bind_some, held, Option.filter_some, if_pos (by simpa using hcall)]
    rfl
  · -- the branch for an answer to a question that is not open
    exact fun call => (routed.calls.owner call).mp

end BusCache
