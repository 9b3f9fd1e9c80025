import BusCache.Proofs.Session.Alterations
import BusCache.Proofs.Session.Hearing

/-!
# Independence — writes that do not concern each other commute

Two deliveries that a session could take next are taken in either order. If they are for different
elements, or alter different properties of one, then each of them leads to the same before and after
the other, and both orders lead to the same elements and tell the application the same. What differs
is how calls and subscriptions are numbered, and where a path belongs that both deliveries list: it
belongs where the first one finds it. For the same reason it does not matter in which order a
session goes through the properties that one signal changes.
-/

namespace BusCache

/-! ## 1. Caches are in order -/

/-- The properties of every element are held in the order of their names. -/
def Session.InOrder (s : Session) : Prop :=
  ∀ path e, s.element? path = some e → Table.Ordered e.cache

theorem Act.inOrder {r : Run} (h : r.session.InOrder) (a : Act) :
    (a.perform r).session.InOrder := by
  intro p e here
  rcases element?_origin here with ⟨_, _, _, -, rfl⟩ | ⟨e₀, before, rfl | revised⟩
  · exact Table.ordered_nil
  · exact h p e before
  · have ordered := h p e₀ before
    cases a with
    | merge path fetched => exact revised.2 ▸ ordered.foldl_set fetched
    | store path name value given => exact revised.2 ▸ ordered.set name _
    | drop path name => exact revised.2 ▸ ordered.erase name
    | _ => first | exact revised.elim | exact revised.2 ▸ ordered

theorem Run.performAll_inOrder {r : Run} (sound : r.session.Sound) (h : r.session.InOrder)
    (ops : List Operation) : (r.performAll ops).session.InOrder :=
  (performAll_acts sound ops).preserves (I := fun q => q.session.InOrder)
    (fun _ a _ _ kept => a.inOrder kept) h

/-! ## 2. What is received stays to be received -/

/-- Belongs to a delivery for the element at a path. -/
def Act.Delivers (path : Path) : Act → Prop
  | answer _ p _ => p = path
  | tell _ _ => True
  | a => a.Changes

theorem Act.Changes.delivers {path : Path} (a : Act) (h : a.Changes) : a.Delivers path := by
  cases a <;> first | exact h.elim | exact h

section Served

variable {r r' : Run} {path p : Path}

/-- The calls of other elements keep their routes. -/
theorem Steps.call_route_kept (h : Steps (Act.Delivers path) r r') (routed : r.session.Routed)
    {call : CallId} {kind : CallKind} {purpose : CallPurpose} (other : p ≠ path)
    (found : Table.get? r.session.callRoutes call = some (.element p kind purpose)) :
    Table.get? r'.session.callRoutes call = some (.element p kind purpose) := by
  have kept : r'.session.Routed
      ∧ Table.get? r'.session.callRoutes call = some (.element p kind purpose) := by
    apply h.preserves (I := fun q => q.session.Routed
      ∧ Table.get? q.session.callRoutes call = some (.element p kind purpose)) _ ⟨routed, found⟩
    intro q a delivers enabled ⟨routed, found⟩
    refine ⟨enabled.routed routed, ?_⟩
    -- only two acts touch the routes of calls: a new call is numbered apart from all routed ones,
    -- and the one that is answered is a call to this element
    cases a with
    | send =>
      show Table.get? (Table.set q.session.callRoutes q.nextCall _) call = _
      rw [Table.get?_set, if_neg, found]
      rintro rfl
      rw [routed.calls.nextCall_unrouted] at found
      cases found
    | answer answered p' kind' =>
      show Table.get? (Table.erase q.session.callRoutes answered) call = _
      rw [Table.get?_erase, if_neg, found]
      rintro rfl
      obtain ⟨_, own⟩ := enabled.1
      rw [found] at own
      cases own
      exact other delivers
    | _ => first | exact delivers.elim | exact found
  exact kept.2

/-- The subscriptions of all elements keep their routes. -/
theorem Steps.signal_route_kept (h : Steps (Act.Delivers path) r r') (routed : r.session.Routed)
    {id : SubscriptionId} {route : SignalRoute}
    (found : Table.get? r.session.signalRoutes id = some route)
    (target : route.target? r.session.config = some p) :
    Table.get? r'.session.signalRoutes id = some route := by
  have kept : r'.session.Routed ∧ r'.session.config = r.session.config
      ∧ Table.get? r'.session.signalRoutes id = some route := by
    apply h.preserves (I := fun q => q.session.Routed ∧ q.session.config = r.session.config
      ∧ Table.get? q.session.signalRoutes id = some route) _ ⟨routed, rfl, found⟩
    intro q a delivers enabled ⟨routed, config, found⟩
    refine ⟨enabled.routed routed, (a.perform_sameSetup q).config.trans config, ?_⟩
    apply enabled.route_kept routed found (config ▸ target)
    rintro rfl
    exact delivers.elim
  exact kept.2.2

end Served

theorem Alteration.perform_steps (a : Alteration) (path : Path) (r : Run) :
    Steps (Act.Delivers path) r (a.perform path r) := by
  cases a with
  | write name value given =>
    exact (Run.change_steps path name value given r).mono Act.Changes.delivers
  | drop name =>
    exact ((Run.invalidate_edits path name r).mono Act.Edits.changes).mono Act.Changes.delivers

namespace Session.Receives

variable {r : Run} {op op' : Operation} {path path' : Path} {d d' : Delivery}

theorem steps (h : r.session.Receives op path d) (sound : r.session.Sound) :
    Steps (Act.Delivers path) r (op.perform r).2 := by
  cases d with
  | altered as =>
    rw [h.altered_perform]
    exact Steps.loop (fun q a => a.perform_steps path q) as r
  | fetched kind properties args =>
    cases h with
    | @fetched call _ _ result _ _ routed _ =>
      obtain ⟨⟨_, completion⟩, held, rfl⟩ :=
        (sound.routed.calls.element call path kind).mp ⟨.sync, routed⟩
      obtain ⟨r₁, merged, after⟩ := Run.handleReply_call_steps routed held result
      have answered : Steps (Act.Delivers path) r ((Act.answer _ path kind).perform r) :=
        Steps.one rfl (Act.answer_enabled routed held)
      rw [Operation.perform_reply, after]
      refine (answered.trans (merged.mono Act.Changes.delivers)).trans
        ((r₁.complete_steps completion _).mono ?_)
      rintro a ⟨c, _, rfl⟩
      trivial

/-- What could be received before an independent delivery can be received after it. -/
theorem later (h : r.session.Receives op path d) (h' : r.session.Receives op' path' d')
    (sound : r.session.Sound) (present : r.session.state.isPresent)
    (apart : path ≠ path' ∨ ∃ as, d = .altered as) :
    (op'.perform r).2.session.Receives op path d := by
  obtain ⟨e', here'⟩ := h'.registered sound
  have undergoes := h'.undergoes sound present here'
  have steps := h'.steps sound
  have interface : ∀ e, r.session.element? path = some e →
      ∃ e₁, (op'.perform r).2.session.element? path = some e₁ ∧ e₁.interface = e.interface := by
    intro e here
    by_cases self : path = path'
    · subst self
      rw [here'] at here
      cases here
      exact ⟨_, undergoes.after, undergoes.place.interface⟩
    · exact ⟨e, undergoes.kept path e self here, rfl⟩
  have listing := steps.listing_eq fun a delivers order same => by subst same; exact delivers
  cases h with
  | fetched routed read =>
    -- a second answer for one element could be to the same call, so the elements are different
    have other : path ≠ path' := apart.resolve_right fun ⟨_, altered⟩ => by cases altered
    exact .fetched (steps.call_route_kept sound.routed other routed) read
  | changed routed read =>
    exact .changed (steps.signal_route_kept sound.routed routed rfl) read
  | changedAll routed read here same =>
    obtain ⟨e₁, here₁, still⟩ := interface _ here
    rw [← listing]
    exact .changedAll (steps.signal_route_kept sound.routed routed rfl) read here₁
      (still.trans same)
  | passedOver routed read here different =>
    obtain ⟨e₁, here₁, still⟩ := interface _ here
    exact .passedOver (steps.signal_route_kept sound.routed routed rfl) read here₁
      (still ▸ different)
  | applied here => exact .applied (undergoes.develops.stays path here)

end Session.Receives

/-! ## 3. What two runs have in common -/

/-- Two elements are the same up to where they belong and how their calls and subscriptions are
numbered: they have the same properties under the same kinds, calls of the same kinds are under way
with the same completions waiting, and they are subscribed to signals of the same names. -/
structure Element.Alike (e e' : Element) : Prop where
  cache : e'.cache = e.cache
  synced : e'.synced = e.synced
  pending : Table.mapValues Slot.completion e'.pending = Table.mapValues Slot.completion e.pending
  subscriptions : Table.keys e'.subscriptions = Table.keys e.subscriptions

/-- Two runs agree on a path, and if it is not contested, also on where it belongs and on what was
asked of it. -/
structure Run.AgreesAt (contested : Prop) (p : Path) (r r' : Run) : Prop where
  registered : (r'.session.element? p).isSome = (r.session.element? p).isSome
  alike : ∀ e e', r.session.element? p = some e → r'.session.element? p = some e' → e.Alike e'
  belong : ¬ contested → ∀ e e', r.session.element? p = some e →
    r'.session.element? p = some e' →
    e'.interface = e.interface ∧ e'.parent = e.parent ∧ e'.depth = e.depth
  calls : ¬ contested → r'.callsTo p = r.callsTo p

/-- Two runs are the same up to the order of what they told, up to how calls and subscriptions are
numbered, and up to where contested paths belong. -/
structure Run.Agrees (contested : Path → Prop) (r r' : Run) : Prop where
  paths : ∀ p, r.AgreesAt (contested p) p r'
  events : r'.events.Perm r.events
  outcomes : ∀ completion,
    (r'.shown (Effect.told? completion)).Perm (r.shown (Effect.told? completion))
  service : r.session.SameService r'.session

theorem Element.Alike.refl (e : Element) : e.Alike e := ⟨rfl, rfl, rfl, rfl⟩

/-- Newly adopted elements are alike, wherever they belong. -/
theorem Element.Adopted.alike {e e' : Element} {protocol : PropertyProtocol}
    {interface interface' : String} {parent parent' : Path} {depth depth' : Nat}
    (h : e.Adopted protocol interface parent depth)
    (h' : e'.Adopted protocol interface' parent' depth') : e.Alike e' := by
  obtain ⟨_, pending⟩ := h.unawaited
  obtain ⟨_, pending'⟩ := h'.unawaited
  obtain ⟨_, _, _, subscriptions⟩ := h.subscribed
  obtain ⟨_, _, _, subscriptions'⟩ := h'.subscribed
  constructor
  · rw [h.discovered.cache, h'.discovered.cache]
  · rw [h.discovered.unsynced, h'.discovered.unsynced]
  · rw [pending, pending']
    rfl
  · rw [subscriptions, subscriptions', PropertyProtocol.changes_member,
      PropertyProtocol.changes_member]
    rfl

namespace Run

variable {r r' r'' : Run}

/-- A reading that sees only what the application is told. -/
theorem shown_of_heard {α : Type} {f : Effect → Option α} (sees : ∀ x, x.heard?.bind f = f x)
    (r : Run) : r.shown f = (r.shown Effect.heard?).filterMap f := by
  unfold shown
  rw [List.filterMap_filterMap]
  congr 1
  funext m
  exact (sees m.effect).symm

theorem AgreesAt.of_eq {p : Path}
    (elements : r''.session.element? p = r'.session.element? p)
    (calls : r''.callsTo p = r'.callsTo p) (contested : Prop) :
    r'.AgreesAt contested p r'' := by
  refine ⟨by rw [elements], fun e e' here here' => ?_, fun _ e e' here here' => ?_, fun _ => calls⟩
  · rw [elements, here] at here'
    cases here'
    exact .refl e
  · rw [elements, here] at here'
    cases here'
    exact ⟨rfl, rfl, rfl⟩

/-- What became of a path in one run became of it in the other, but that it may belong somewhere
else if it is contested. -/
theorem Bears.agreesAt {p : Path} {origin origin' : Option Origin} (h : r.Bears r' p origin)
    (h' : r.Bears r'' p origin') (found : origin'.isSome = origin.isSome) {contested : Prop}
    (settled : ¬ contested → origin' = origin) : r'.AgreesAt contested p r'' := by
  cases origin with
  | none =>
    rw [Option.isSome_none, Option.isSome_eq_false_iff, Option.isNone_iff_eq_none] at found
    rw [found] at h'
    exact .of_eq (h'.1.trans h.1.symm) (h'.2.trans h.2.symm) contested
  | some o =>
    obtain ⟨o', rfl⟩ := Option.isSome_iff_exists.mp (found.trans rfl)
    obtain ⟨⟨e, made, adopted⟩, sent⟩ := h
    obtain ⟨⟨e', made', adopted'⟩, sent'⟩ := h'
    refine ⟨by rw [made, made']; rfl, fun a b here here' => ?_, fun sure a b here here' => ?_,
      fun sure => ?_⟩
    · rw [made] at here
      rw [made'] at here'
      cases here
      cases here'
      exact adopted.alike adopted'
    · rw [made] at here
      rw [made'] at here'
      cases here
      cases here'
      cases settled sure
      have one := adopted.discovered
      have other := adopted'.discovered
      exact ⟨other.interface.trans one.interface.symm, other.parent.trans one.parent.symm,
        other.depth.trans one.depth.symm⟩
    · cases settled sure
      exact sent'.trans sent.symm

/-- Two runs that develop from one agree, if the same became of its elements, and the same paths
were found. -/
theorem Develops.agrees {origins origins' : Path → Option Origin} {told told' : List Effect}
    (h : r.Develops origins told r') (h' : r.Develops origins' told' r'')
    (old : ∀ p, (r.session.element? p).isSome → r''.session.element? p = r'.session.element? p)
    (found : ∀ p, (origins' p).isSome = (origins p).isSome) {contested : Path → Prop}
    (settled : ∀ p, r.session.element? p = none → ¬ contested p → origins' p = origins p)
    (perm : told'.Perm told) : r'.Agrees contested r'' := by
  have heard : (r''.shown Effect.heard?).Perm (r'.shown Effect.heard?) := by
    rw [h'.told, h.told]
    exact perm.append_left _
  constructor
  · intro p
    by_cases known : (r.session.element? p).isSome
    · exact .of_eq (old p known) ((h'.quiet p known).trans (h.quiet p known).symm) _
    · have new := Option.not_isSome_iff_eq_none.mp known
      exact (h.born p new).agreesAt (h'.born p new) (found p) (settled p new)
  · -- the events, like the outcomes below, are a selection of what the application is told
    unfold events
    rw [shown_of_heard (fun x => by cases x <;> rfl) r',
      shown_of_heard (fun x => by cases x <;> rfl) r'']
    exact heard.filterMap _
  · intro completion
    rw [shown_of_heard (fun x => by cases x <;> rfl) r',
      shown_of_heard (fun x => by cases x <;> rfl) r'']
    exact heard.filterMap _
  · have back : r'.session.SameService r.session :=
      ⟨h.service.config.symm, h.service.ownership.symm, h.service.handlers.symm⟩
    exact back.trans h'.service

/-- A path that two writes register, each on its own, is contested between them. -/
def Contested (r r₁ r₂ : Run) (p : Path) : Prop :=
  r.session.element? p = none ∧ (r₁.session.element? p).isSome ∧ (r₂.session.element? p).isSome

theorem Develops.registers {origins : Path → Option Origin} {told : List Effect}
    (h : r.Develops origins told r') {p : Path} (new : r.session.element? p = none)
    {origin : Origin} (found : origins p = some origin) : (r'.session.element? p).isSome := by
  have born := h.born p new
  rw [found] at born
  obtain ⟨⟨e, here, _⟩, _⟩ := born
  exact Option.isSome_of_eq_some here

/-- Two writes that lead to the same before and after each other. -/
theorem Undergoes.agrees {r₁ r₂ r₁₂ r₂₁ : Run} {path₁ path₂ : Path}
    {e₁ e₂ e₁' e₂' : Element} {c₁ c₂ c₁' c₂' : Consequence}
    (h₁ : r.Undergoes path₁ e₁ c₁ r₁) (h₁₂ : r₁.Undergoes path₂ e₂' c₂' r₁₂)
    (h₂ : r.Undergoes path₂ e₂ c₂ r₂) (h₂₁ : r₂.Undergoes path₁ e₁' c₁' r₂₁)
    (same₁ : c₁'.children = c₁.children ∧ c₁'.told = c₁.told)
    (same₂ : c₂'.children = c₂.children ∧ c₂'.told = c₂.told)
    (old : ∀ p, (r.session.element? p).isSome →
      r₂₁.session.element? p = r₁₂.session.element? p) :
    r₁₂.Agrees (Contested r r₁ r₂) r₂₁ := by
  have first := h₁.develops.andThen h₁₂ (Option.isSome_of_eq_some h₂.before)
  have second := h₂.develops.andThen h₂₁ (Option.isSome_of_eq_some h₁.before)
  rw [same₂.1, same₂.2] at first
  rw [same₁.1, same₁.2] at second
  refine first.agrees second old (fun p => ?_) (fun p new settled => ?_) List.perm_append_comm
  · rw [Option.isSome_or, Option.isSome_or, Bool.or_comm]
  · -- at most one of the two lists the path
    cases found₁ : c₁.children p with
    | none => rw [Option.none_or, Option.or_none]
    | some o₁ =>
      cases found₂ : c₂.children p with
      | none => rw [Option.none_or, Option.or_none]
      | some o₂ =>
        exact absurd ⟨new, h₁.develops.registers new found₁, h₂.develops.registers new found₂⟩
          settled

end Run

/-! ## 4. Independent deliveries -/

/-- Deliveries of changes that have no property in common. -/
def Delivery.Apart : Delivery → Delivery → Prop
  | altered as, altered bs => Alteration.Apart as bs
  | _, _ => False

theorem Delivery.Apart.altered {d d' : Delivery} (apart : d.Apart d') :
    ∃ as bs, d = .altered as ∧ d' = .altered bs ∧ Alteration.Apart as bs := by
  cases d with
  | fetched _ _ _ => exact apart.elim
  | altered as =>
    cases d' with
    | fetched _ _ _ => exact apart.elim
    | altered bs => exact ⟨as, bs, rfl, rfl, apart⟩

namespace Session.Receives

variable {r : Run} {op₁ op₂ : Operation} {path path₁ path₂ : Path} {d₁ d₂ : Delivery}

/-- Deliveries for different elements. -/
theorem agree_elsewhere (h₁ : r.session.Receives op₁ path₁ d₁)
    (h₂ : r.session.Receives op₂ path₂ d₂)
    (h₁₂ : (op₁.perform r).2.session.Receives op₂ path₂ d₂)
    (h₂₁ : (op₂.perform r).2.session.Receives op₁ path₁ d₁)
    (sound : r.session.Sound) (present : r.session.state.isPresent) (other : path₁ ≠ path₂) :
    (op₂.perform (op₁.perform r).2).2.Agrees
      (Run.Contested r (op₁.perform r).2 (op₂.perform r).2)
      (op₁.perform (op₂.perform r).2).2 := by
  obtain ⟨e₁, here₁⟩ := h₁.registered sound
  obtain ⟨e₂, here₂⟩ := h₂.registered sound
  -- each of the two elements is still as it was when the other delivery has been taken
  have u₁ := h₁.undergoes sound present here₁
  have u₂ := h₂.undergoes sound present here₂
  have u₁₂ := h₁₂.undergoes (op₁.perform_sound sound) (u₁.develops.service.present present)
    (u₁.kept path₂ e₂ other.symm here₂)
  have u₂₁ := h₂₁.undergoes (op₂.perform_sound sound) (u₂.develops.service.present present)
    (u₂.kept path₁ e₁ other here₁)
  rw [u₁.develops.service.config, u₁.develops.service.handlers] at u₁₂
  rw [u₂.develops.service.config, u₂.develops.service.handlers] at u₂₁
  refine u₁.agrees u₁₂ u₂ u₂₁ ⟨rfl, rfl⟩ ⟨rfl, rfl⟩ fun p known => ?_
  by_cases first : p = path₁
  · rw [first, u₂₁.after, u₁₂.kept path₁ _ other u₁.after]
  by_cases second : p = path₂
  · rw [second, u₁₂.after, u₂₁.kept path₂ _ other.symm u₂.after]
  · obtain ⟨e, here⟩ := Option.isSome_iff_exists.mp known
    rw [u₁₂.kept p e second (u₁.kept p e first here),
      u₂₁.kept p e first (u₂.kept p e second here)]

/-- Deliveries for one element that alter different properties. -/
theorem agree_apart {as bs : List Alteration} (h₁ : r.session.Receives op₁ path (.altered as))
    (h₂ : r.session.Receives op₂ path (.altered bs))
    (h₁₂ : (op₁.perform r).2.session.Receives op₂ path (.altered bs))
    (h₂₁ : (op₂.perform r).2.session.Receives op₁ path (.altered as))
    (sound : r.session.Sound) (present : r.session.state.isPresent)
    (ordered : r.session.InOrder) (apart : Alteration.Apart as bs) :
    (op₂.perform (op₁.perform r).2).2.Agrees
      (Run.Contested r (op₁.perform r).2 (op₂.perform r).2)
      (op₁.perform (op₂.perform r).2).2 := by
  obtain ⟨e, here⟩ := h₁.registered sound
  have u₁ := h₁.undergoes sound present here
  have u₂ := h₂.undergoes sound present here
  -- the second delivery finds the element altered, but not in what it reads of it
  have u₁₂ := h₁₂.undergoes (op₁.perform_sound sound) (u₁.develops.service.present present) u₁.after
  have u₂₁ := h₂₁.undergoes (op₂.perform_sound sound) (u₂.develops.service.present present) u₂.after
  rw [u₁.develops.service.config, u₁.develops.service.handlers] at u₁₂
  rw [u₂.develops.service.config, u₂.develops.service.handlers] at u₂₁
  refine u₁.agrees u₁₂ u₂ u₂₁ (Alteration.consequences_after _ _ path apart.symm e)
    (Alteration.consequences_after _ _ path apart e) fun p known => ?_
  by_cases self : p = path
  · rw [self, u₁₂.after, u₂₁.after]
    exact congrArg some (Alteration.consequences_comm _ _ path apart (ordered path e here)).symm
  · obtain ⟨old, known⟩ := Option.isSome_iff_exists.mp known
    rw [u₁₂.kept p old self (u₁.kept p old self known),
      u₂₁.kept p old self (u₂.kept p old self known)]

/-- The same is received by a session that goes through it in another order, up to the order. -/
theorem relist {op : Operation} {d : Delivery} (h : r.session.Receives op path d)
    (order : Listing) :
    ∃ d', (r.relist order).session.Receives op path d'
      ∧ ∀ e : Element, Table.Ordered e.cache →
        (d.consequence r.session.config r.session.handlers path e).Reordered
          (d'.consequence r.session.config r.session.handlers path e) := by
  cases h with
  | fetched routed read => exact ⟨_, .fetched routed read, fun _ _ => .refl _⟩
  | changed routed read => exact ⟨_, .changed routed read, fun _ _ => .refl _⟩
  | @changedAll _ _ _ _ _ changes _ routed read here interface =>
    exact ⟨_, .changedAll routed read here interface,
      fun _ ordered => changes.alterations_reordered r.session.listing order ordered⟩
  | passedOver routed read here interface =>
    exact ⟨_, .passedOver routed read here interface, fun _ _ => .refl _⟩
  | applied here => exact ⟨_, .applied here, fun _ _ => .refl _⟩

end Session.Receives

/-- How a session goes through its tables is not seen in what develops from it. -/
theorem Run.Develops.of_relist {r r' : Run} {order : Listing} {origins : Path → Option Origin}
    {told : List Effect} (h : (r.relist order).Develops origins told r') :
    r.Develops origins told r' where
  stays := h.stays
  quiet := h.quiet
  born p new := by
    have born := h.born p new
    cases found : origins p with
    | none =>
      rw [found] at born
      exact born
    | some origin =>
      rw [found] at born
      exact born
  told := h.told
  service := ⟨h.service.config, h.service.ownership, h.service.handlers⟩

theorem Delivery.consequence_origin {d : Delivery} {config : Config}
    {handlers : EventKind → Option Handler} {path p : Path} {e : Element} {origin : Origin}
    (found : (d.consequence config handlers path e).children p = some origin) :
    origin.parent = path ∧ origin.depth = e.depth + 1 := by
  cases d with
  | fetched kind properties args =>
    exact Element.follow_origin (e := (e.freeSlot kind).merge properties) found
  | altered as => exact Alteration.consequences_origin config handlers path found

namespace Session.Receives

variable {r : Run} {op : Operation} {path : Path} {d : Delivery}

/-- What a delivery registers belongs below the element that it is for. -/
theorem below (h : r.session.Receives op path d) (sound : r.session.Sound)
    (present : r.session.state.isPresent) {e child : Element} {p : Path}
    (here : r.session.element? path = some e) (new : r.session.element? p = none)
    (made : (op.perform r).2.session.element? p = some child) :
    child.parent = some path ∧ child.depth = e.depth + 1 := by
  have born := (h.undergoes sound present here).develops.born p new
  cases found : (d.consequence r.session.config r.session.handlers path e).children p with
  | none =>
    rw [found] at born
    rw [born.1] at made
    cases made
  | some origin =>
    rw [found] at born
    obtain ⟨⟨child', made', adopted⟩, _⟩ := born
    rw [made] at made'
    cases made'
    obtain ⟨parent, depth⟩ := Delivery.consequence_origin found
    rw [adopted.discovered.parent, adopted.discovered.depth, parent, depth]
    exact ⟨rfl, rfl⟩

/-- In which order a session goes through the names of a delivery does not matter for what it leads
to, but for the interfaces of new paths: a path may be listed twice. -/
theorem relist_agrees (h : r.session.Receives op path d) (sound : r.session.Sound)
    (present : r.session.state.isPresent) (ordered : r.session.InOrder) (order : Listing) :
    (op.perform r).2.Agrees (fun p => r.session.element? p = none)
        (op.perform (r.relist order)).2
      ∧ ∀ p child child', r.session.element? p = none →
        (op.perform r).2.session.element? p = some child →
        (op.perform (r.relist order)).2.session.element? p = some child' →
        child'.parent = child.parent ∧ child'.depth = child.depth := by
  obtain ⟨e, here⟩ := h.registered sound
  obtain ⟨d', received, reordered⟩ := h.relist order
  have same := reordered e (ordered path e here)
  have relisted : (r.relist order).session.Sound := (Operation.relist order).perform_sound sound
  constructor
  · have u := h.undergoes sound present here
    have u' := received.undergoes relisted present here
    refine u.develops.agrees u'.develops.of_relist (fun p known => ?_) same.children
      (fun p new listed => absurd new listed) same.told
    by_cases self : p = path
    · rw [self, u.after, u'.after]
      exact congrArg some same.element
    · obtain ⟨old, known⟩ := Option.isSome_iff_exists.mp known
      rw [u.kept p old self known, u'.kept p old self known]
  · intro p child child' new made made'
    have first := h.below sound present here new made
    have second := received.below relisted present (r := r.relist order) here new made'
    exact ⟨second.1.trans first.1.symm, second.2.trans first.2.symm⟩

end Session.Receives

/-- Independent writes commute in every session that a history leads to while the service is there.
Whatever two deliveries it could take next, answers to fetches or changes that are announced or
applied, if they are for different elements or alter different properties of one, each of them can
still be taken after the other, and both orders agree: the same paths are registered, with the same
properties under the same kinds, fetched or not, with the same kinds of calls under way, and the
same events are emitted and the same outcomes told, up to their order. Calls and subscriptions may
be numbered differently, and a new path that both deliveries list may belong somewhere else. In the
same way the order in which a session goes through the names of one delivery is not seen in any
cache. Where it leads to a new path, the path belongs below the same element, and only its interface
may be another one. -/
theorem independent_writes_commute (config : Config) (numbering : Numbering) (listing : Listing)
    (ops : List Operation) :
    let r := (Run.start config numbering listing).performAll ops
    r.session.state.isPresent →
    (∀ op₁ op₂ path₁ path₂ d₁ d₂,
      r.session.Receives op₁ path₁ d₁ → r.session.Receives op₂ path₂ d₂ →
      path₁ ≠ path₂ ∨ d₁.Apart d₂ →
      let r₁ := (op₁.perform r).2
      let r₂ := (op₂.perform r).2
      r₁.session.Receives op₂ path₂ d₂ ∧ r₂.session.Receives op₁ path₁ d₁
        ∧ (op₂.perform r₁).2.Agrees (Run.Contested r r₁ r₂) (op₁.perform r₂).2)
    ∧ ∀ op path d order, r.session.Receives op path d →
      let after := (op.perform r).2
      let relisted := (op.perform (r.relist order)).2
      after.Agrees (fun p => r.session.element? p = none) relisted
      ∧ ∀ p child child', r.session.element? p = none → after.session.element? p = some child →
        relisted.session.element? p = some child' →
        child'.parent = child.parent ∧ child'.depth = child.depth := by
  intro r present
  have started := Run.start_sound config numbering listing
  have sound : r.session.Sound := Run.performAll_sound started ops
  have ordered : r.session.InOrder := by
    -- no element is registered at the start
    apply Run.performAll_inOrder started
    intro _ _ none
    cases none
  refine ⟨?_, fun op path d order h => h.relist_agrees sound present ordered order⟩
  intro op₁ op₂ path₁ path₂ d₁ d₂ h₁ h₂ independent r₁ r₂
  by_cases other : path₁ = path₂
  · subst other
    obtain ⟨as, bs, rfl, rfl, apart⟩ := (independent.resolve_left fun h => h rfl).altered
    have h₁₂ := h₂.later h₁ sound present (.inr ⟨bs, rfl⟩)
    have h₂₁ := h₁.later h₂ sound present (.inr ⟨as, rfl⟩)
    exact ⟨h₁₂, h₂₁, h₁.agree_apart h₂ h₁₂ h₂₁ sound present ordered apart⟩
  · have h₁₂ := h₂.later h₁ sound present (.inl (Ne.symm other))
    have h₂₁ := h₁.later h₂ sound present (.inl other)
    exact ⟨h₁₂, h₂₁, h₁.agree_elsewhere h₂ h₁₂ h₂₁ sound present other⟩

/-- Two properties of the root are announced, each of which lists one new path, for an interface of
its own. -/
theorem lists_of_one_path_commute :
    let config : Config :=
      { service := "net.connman", rootPath := "/", rootInterface := "net.connman.Manager",
        protocol := .legacy,
        children := [⟨"net.connman.Manager", "Services", "net.connman.Service"⟩,
          ⟨"net.connman.Manager", "Technologies", "net.connman.Technology"⟩] }
    let ops : List Operation :=
      [.init, .dispatch (.ownerChanged ⟨1⟩ "net.connman" "" ":1.5")]
    let lists (name : String) : Operation := .dispatch (.signal ⟨3⟩ "/" "PropertyChanged"
      [.string name, .variant (.array (.basic .objectPath) [.objectPath "/wifi"])])
    let r := (Run.start config .counting .ascending).performAll ops
    let r₁ := ((lists "Services").perform r).2
    let r₂ := ((lists "Technologies").perform r).2
    r.session.state = .present ":1.5"
    ∧ (r₁.session.element? "/wifi").map Element.interface = some "net.connman.Service"
    ∧ (r₂.session.element? "/wifi").map Element.interface = some "net.connman.Technology"
    ∧ ((lists "Technologies").perform r₁).2.Agrees (Run.Contested r r₁ r₂)
      ((lists "Services").perform r₂).2 := by
  intro config ops lists
  have evaluated : let r := (Run.start config .counting .ascending).performAll ops
      (r.session.state, Table.get? r.session.signalRoutes ⟨3⟩,
        (((lists "Services").perform r).2.session.element? "/wifi").map Element.interface,
        (((lists "Technologies").perform r).2.session.element? "/wifi").map Element.interface) =
          (.present ":1.5", some (.propertyChanged "/"), some "net.connman.Service",
            some "net.connman.Technology") := by subst config ops lists; rfl
  have commute := independent_writes_commute config .counting .ascending ops
  dsimp only at evaluated commute ⊢
  generalize Run.start config .counting .ascending = start at evaluated commute ⊢
  obtain ⟨state, routed, service, technology⟩ : _ ∧ _ ∧ _ ∧ _ := by
    simpa only [Prod.mk.injEq] using evaluated
  have present : (start.performAll ops).session.state.isPresent := by
    rw [state]
    rfl
  have received : ∀ name, (start.performAll ops).session.Receives (lists name) "/"
      (.altered [.write name (.array [.objectPath "/wifi"])
        (some (.array (.basic .objectPath)))]) := by
    intro name
    have read : propertyChangeOf [.string name, .variant (.array (.basic .objectPath)
        [.objectPath "/wifi"])] =
          .ok (some (name, ⟨.array [.objectPath "/wifi"], .array (.basic .objectPath)⟩)) := rfl
    exact .changed routed read
  have apart : Delivery.Apart
      (.altered [.write "Services" (.array [.objectPath "/wifi"])
        (some (.array (.basic .objectPath)))])
      (.altered [.write "Technologies" (.array [.objectPath "/wifi"])
        (some (.array (.basic .objectPath)))]) := by
    intro a ha b hb
    rw [List.mem_singleton.1 ha, List.mem_singleton.1 hb]
    show "Services" ≠ "Technologies"
    decide
  exact ⟨state, service, technology,
    ((commute present).1 _ _ "/" "/" _ _ (received "Services") (received "Technologies")
      (.inr apart)).2.2⟩

end BusCache
