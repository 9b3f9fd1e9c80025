import BusCache.Proofs.Session.Children
import BusCache.Proofs.Session.WriteLog

/-!
# Consequences — what a write leads to, read off the element that is written

The answer to a fetch and the announcement of a change are deliveries for one element. What such a
delivery leads to is decided by the delivery and the element alone: what becomes of the element, the
children that it is found to list, and what the application is told. The rest of the session only
decides which of the children are new, and how the requests for them are numbered.
-/

namespace BusCache

/-! ## 1. Children by name -/

/-- Where a discovered element belongs. -/
structure Origin where
  interface : String
  parent : Path
  depth : Nat
deriving DecidableEq

namespace Element

/-- The interface that an element's lists give to a child, all of them or those of one property: the
interface of the first link that names the child. -/
def childInterface? (e : Element) (links : List ChildLink) (changed : Option String)
    (child : Path) : Option String :=
  (links.find? fun link => decide (link.parentInterface = e.interface)
    && (changed.all fun key => key = link.property)
    && (Table.get? e.cache link.property).any fun p => child ∈ p.value.objectPaths).map
      ChildLink.childInterface

/-- Where a path belongs as a child of the element at a path, if that lists it. -/
def follow (e : Element) (config : Config) (path : Path) (changed : Option String)
    (child : Path) : Option Origin :=
  if e.depth + 1 > config.maxDepth.toNat then none
  else
    (e.childInterface? config.children changed child).map fun interface =>
      ⟨interface, path, e.depth + 1⟩

end Element

namespace Session

variable {s : Session} {e : Element} {child : Path}

theorem find?_contributed_eq (link : ChildLink) (new : s.element? child = none) :
    (s.contributed e link).find? (fun found => found.1 = child) =
      if (Table.get? e.cache link.property).any fun p => child ∈ p.value.objectPaths then
        some (child, link.childInterface)
      else none := by
  have unlisted : (∀ p, Table.get? e.cache link.property = some p → child ∉ p.value.objectPaths) →
      (s.contributed e link).find? (fun found => found.1 = child) = none := by
    intro unlisted
    rw [List.find?_eq_none]
    intro found mem named
    obtain ⟨_, _, other, p, held, lists⟩ := mem_contributed.mp mem
    rw [of_decide_eq_true named] at other lists
    exact unlisted p held (Value.mem_objectPaths.mpr ⟨other, lists⟩)
  cases held : Table.get? e.cache link.property with
  | none => exact unlisted fun p other => by rw [held] at other; cases other
  | some p =>
    rw [Option.any_some]
    by_cases mem : child ∈ p.value.objectPaths
    · obtain ⟨other, lists⟩ := Value.mem_objectPaths.mp mem
      rw [if_pos (decide_eq_true mem)]
      exact find?_contributed new other ⟨p, held, lists⟩
    · rw [if_neg (by simpa using mem)]
      apply unlisted
      rintro _ other
      rw [held] at other
      cases other
      exact mem

/-- Which of the children that are to be discovered comes first for a path is decided by the lists
of the element, as long as the path is not registered. -/
theorem find?_unregisteredChildren (e : Element) (changed : Option String)
    (new : s.element? child = none) :
    (s.unregisteredChildren e changed).find? (fun found => found.1 = child) =
      (e.childInterface? s.config.children changed child).map fun interface =>
        (child, interface) := by
  have unfolded : s.unregisteredChildren e changed = ((s.config.children.filter fun link =>
      link.parentInterface = e.interface).filter fun link =>
        changed.all fun key => key = link.property).flatMap (s.contributed e) := rfl
  rw [unfolded, List.filter_filter]
  unfold Element.childInterface?
  generalize s.config.children = links
  -- on the links: one that does not count adds nothing, and one that does decides if it lists
  induction links with
  | nil => rfl
  | cons link links ih =>
    rw [List.filter_cons, List.find?_cons, Bool.and_comm]
    by_cases counts : (decide (link.parentInterface = e.interface)
        && changed.all fun key => key = link.property) = true
    · rw [if_pos counts, counts, Bool.true_and, List.flatMap_cons, List.find?_append, ih,
        find?_contributed_eq link new]
      cases (Table.get? e.cache link.property).any fun p => child ∈ p.value.objectPaths with
      | true => rfl
      | false => rfl
    · rw [if_neg counts, Bool.eq_false_iff.mpr counts, Bool.false_and, ih]

end Session

/-! ## 2. Consequences -/

/-- What a write to an element leads to: what becomes of the element, where the paths belong that it
is found to list, and what the application is told. -/
structure Consequence where
  element : Element
  children : Path → Option Origin := fun _ => none
  told : List Effect := []

/-- What comes of one write and then of another. What the first one finds is there for the second
one. -/
def Consequence.andThen (c c' : Consequence) : Consequence where
  element := c'.element
  children p := (c.children p).or (c'.children p)
  told := c.told ++ c'.told

theorem Consequence.andThen_of_childless (c : Consequence) (e : Element) (told : List Effect) :
    c.andThen { element := e, told } = { c with element := e, told := c.told ++ told } := by
  unfold andThen
  simp only [Option.or_none]

/-- What the application is told: events, and the outcomes of calls. -/
def Effect.heard? : Effect → Option Effect
  | event e handler => some (event e handler)
  | complete completion outcome => some (complete completion outcome)
  | _ => none

theorem Effect.call?_of_heard {effect : Effect} (heard : effect.heard? = some effect) :
    effect.call? = none := by
  cases effect <;> first | rfl | cases heard

/-- The sessions are for the same service with the same owner, and tell the same handlers. -/
structure Session.SameService (s t : Session) : Prop where
  config : t.config = s.config
  ownership : t.ownership = s.ownership
  handlers : t.handlers = s.handlers

namespace Session.SameService

variable {s t u : Session}

theorem refl (s : Session) : s.SameService s := ⟨rfl, rfl, rfl⟩

theorem trans (h : s.SameService t) (h' : t.SameService u) : s.SameService u where
  config := h'.config.trans h.config
  ownership := h'.ownership.trans h.ownership
  handlers := h'.handlers.trans h.handlers

theorem present (h : s.SameService t) (present : s.state.isPresent) : t.state.isPresent := by
  unfold state
  rw [h.ownership]
  exact present

theorem fetch (h : s.SameService t) (path : Path) (interface : String) :
    t.fetch path interface = s.fetch path interface := by
  unfold Session.fetch destination state
  rw [h.config, h.ownership]

end Session.SameService

namespace Act

theorem Changes.sameService {a : Act} (changes : a.Changes) (r : Run) :
    r.session.SameService (a.perform r).session := by
  cases a <;> first | exact changes.elim | exact ⟨rfl, rfl, rfl⟩

theorem Grows.unheard {a : Act} (grows : a.Grows) (r : Run) :
    (a.shows r).filterMap Effect.heard? = [] := by
  cases a <;> first | exact grows.elim | rfl

end Act

theorem Steps.sameService {r r' : Run} (h : Steps Act.Changes r r') :
    r.session.SameService r'.session := by
  apply h.preserves (I := fun q => r.session.SameService q.session) _ (.refl _)
  exact fun q a changes _ same => same.trans (changes.sameService q)

namespace Run

/-- From a run to a later one, an unregistered path was left alone, or it became an element with an
origin and is fetched. -/
def Bears (r r' : Run) (p : Path) : Option Origin → Prop
  | none => r'.session.element? p = none ∧ r'.callsTo p = r.callsTo p
  | some origin =>
      (∃ e, r'.session.element? p = some e
        ∧ e.Adopted r.session.config.protocol origin.interface origin.parent origin.depth)
      ∧ r'.callsTo p = r.callsTo p ++ [r.session.fetch p origin.interface]

/-- From a run to a later one, the unregistered paths went where they belong, the application was
told something, and what was registered stayed so and was not called. -/
structure Develops (r : Run) (origins : Path → Option Origin) (told : List Effect) (r' : Run) :
    Prop where
  stays : ∀ p, (r.session.element? p).isSome → (r'.session.element? p).isSome
  quiet : ∀ p, (r.session.element? p).isSome → r'.callsTo p = r.callsTo p
  born : ∀ p, r.session.element? p = none → r.Bears r' p (origins p)
  told : r'.shown Effect.heard? = r.shown Effect.heard? ++ told
  service : r.session.SameService r'.session

/-- From a run to a later one, a write to the element at a path had a consequence, and nothing else
happened. -/
structure Undergoes (r : Run) (path : Path) (e : Element) (c : Consequence) (r' : Run) : Prop where
  before : r.session.element? path = some e
  after : r'.session.element? path = some c.element
  place : e.SamePlace c.element
  kept : ∀ p old, p ≠ path → r.session.element? p = some old → r'.session.element? p = some old
  develops : r.Develops c.children c.told r'

variable {r r' r'' : Run} {path : Path} {e e' : Element} {c c' : Consequence}

theorem Bears.after {p : Path} {origin : Option Origin} (h : r'.Bears r'' p origin)
    (service : r.session.SameService r'.session) (calls : r'.callsTo p = r.callsTo p) :
    r.Bears r'' p origin := by
  unfold Bears at h ⊢
  rw [service.config] at h
  cases origin with
  | none => exact ⟨h.1, h.2.trans calls⟩
  | some origin => exact ⟨h.1, by rw [h.2, calls, service.fetch]⟩

/-- The next write may be to any element that was registered before. Where a path belongs is decided
by the first write that lists it. -/
theorem Develops.andThen {origins : Path → Option Origin} {told : List Effect}
    (h : r.Develops origins told r') (h' : r'.Undergoes path e' c' r'')
    (old : (r.session.element? path).isSome) :
    r.Develops (fun p => (origins p).or (c'.children p)) (told ++ c'.told) r'' where
  stays p here := h'.develops.stays p (h.stays p here)
  quiet p here := (h'.develops.quiet p (h.stays p here)).trans (h.quiet p here)
  born p new := by
    have first := h.born p new
    cases found : origins p with
    | none =>
      rw [found] at first
      rw [Option.none_or]
      exact (h'.develops.born p first.1).after h.service first.2
    | some origin =>
      rw [found] at first
      obtain ⟨⟨child, made, adopted⟩, sent⟩ := first
      -- the path was made by the first write, so it is not the element that the second one is to
      have other : p ≠ path := by
        rintro rfl
        rw [new] at old
        cases old
      have still := h'.develops.quiet p (Option.isSome_of_eq_some made)
      exact ⟨⟨child, h'.kept p child other made, adopted⟩, still.trans sent⟩
  told := by rw [h'.develops.told, h.told, List.append_assoc]
  service := h.service.trans h'.develops.service

namespace Undergoes

theorem andThen (h : r.Undergoes path e c r') (h' : r'.Undergoes path c.element c' r'') :
    r.Undergoes path e (c.andThen c') r'' where
  before := h.before
  after := h'.after
  place := h.place.trans h'.place
  kept p old other here := h'.kept p old other (h.kept p old other here)
  develops := h.develops.andThen h' (Option.isSome_of_eq_some h.before)

theorem nothing (here : r.session.element? path = some e) :
    r.Undergoes path e { element := e } r where
  before := here
  after := here
  place := .refl e
  kept _ _ _ here := here
  develops := {
    stays := fun _ here => here
    quiet := fun _ _ => rfl
    born := fun _ new => ⟨new, rfl⟩
    told := (List.append_nil _).symm
    service := .refl _ }

/-- An act that modifies the element and shows nothing. -/
theorem modify {a : Act} {f : Element → Element} (here : r.session.element? path = some e)
    (registry : (a.perform r).session.registry = Table.modify r.session.registry path f)
    (place : e.SamePlace (f e)) (shows : a.shows r = [])
    (service : r.session.SameService (a.perform r).session) :
    r.Undergoes path e { element := f e } (a.perform r) := by
  have unseen : ∀ {α : Type} (read : Effect → Option α),
      (a.perform r).shown read = r.shown read ++ [] := by
    intro α read
    rw [Act.perform_shown, shows, List.filterMap_nil]
  have calls := callsTo_of_calls ((unseen Effect.call?).trans (List.append_nil _))
  refine ⟨here, Session.element?_of_modified_self registry here, place, ?_, ?_, ?_, ?_, ?_, ?_⟩
  · intro p old other known
    rw [Session.element?_of_modified registry, if_neg other, known]
  · exact fun p => Session.isSome_of_modified registry
  · exact fun p _ => calls p
  · intro p new
    refine ⟨?_, calls p⟩
    rw [Session.element?_of_modified registry, new]
    split <;> rfl
  · exact unseen Effect.heard?
  · exact service

/-- An act that tells the application something, and no more. -/
theorem tell {a : Act} {effect : Effect} (here : r.session.element? path = some e)
    (session : (a.perform r).session = r.session) (shows : a.shows r = [effect])
    (heard : effect.heard? = some effect) :
    r.Undergoes path e { element := e, told := [effect] } (a.perform r) := by
  have calls : (a.perform r).shown Effect.call? = r.shown Effect.call? := by
    rw [Act.perform_shown, shows, List.filterMap_cons_none (Effect.call?_of_heard heard)]
    exact List.append_nil _
  have told : (a.perform r).shown Effect.heard? = r.shown Effect.heard? ++ [effect] := by
    rw [Act.perform_shown, shows, List.filterMap_cons_some heard]
    rfl
  constructor
  · exact here
  · rw [session]
    exact here
  · exact .refl e
  · intro p old _ known
    rw [session]
    exact known
  · constructor
    · rw [session]
      exact fun _ here => here
    · exact fun p _ => callsTo_of_calls calls p
    · intro p new
      refine ⟨?_, callsTo_of_calls calls p⟩
      rw [session]
      exact new
    · exact told
    · rw [session]
      exact .refl _

theorem complete (here : r.session.element? path = some e) (completion : Option Completion)
    (outcome : Except BusError (List Value)) :
    r.Undergoes path e
      { element := e, told := completion.toList.map fun c => .complete c outcome }
      (r.complete completion outcome) := by
  cases completion with
  | none => exact nothing here
  | some c => exact tell (a := .tell c outcome) here rfl rfl rfl

theorem emit (here : r.session.element? path = some e) (kind : EventKind) (payload : Payload) :
    r.Undergoes path e
      { element := e, told := [.event ⟨kind, path, payload⟩ (r.session.handlers kind)] }
      (r.emit kind path payload) :=
  tell (a := .emit kind path payload) here rfl rfl rfl

/-- Following the lists of the element. -/
theorem cascade (present : r.session.state.isPresent) (here : r.session.element? path = some e)
    (changed : Option String) :
    r.Undergoes path e
      { element := e, children := e.follow r.session.config path changed }
      (r.cascade path changed) := by
  have steps := cascade_steps r path changed
  have told : (r.cascade path changed).shown Effect.heard? = r.shown Effect.heard? ++ [] :=
    (steps.shown_eq fun q a grows _ => Act.Grows.unheard grows q).trans (List.append_nil _).symm
  have service := (steps.mono Act.Grows.changes).sameService
  -- the lists are followed down to the greatest depth, and not from there
  unfold Run.cascade at told service ⊢
  rw [here] at told service ⊢
  dsimp only at told service ⊢
  unfold Element.follow
  by_cases deep : e.depth + 1 > r.session.config.maxDepth.toNat
  · rw [if_pos deep] at told service ⊢
    simp only [if_pos deep]
    exact nothing here
  · rw [if_neg deep] at told service ⊢
    simp only [if_neg deep]
    have adopted := adopt_all present path (e.depth + 1)
      (r.session.unregisteredChildren e changed)
    generalize (r.session.unregisteredChildren e changed).foldl
      (fun q c => q.adopt c.1 c.2 path (e.depth + 1)) r = after at told service adopted ⊢
    have known : ∀ p, (r.session.element? p).isSome →
        after.session.element? p = r.session.element? p ∧ after.callsTo p = r.callsTo p := by
      intro p here
      obtain ⟨old, here⟩ := Option.isSome_iff_exists.mp here
      rw [here]
      exact (adopted p).1 old here
    refine ⟨here, ((adopted path).1 e here).1, .refl e, ?_, ?_, ?_, ?_, told, service⟩
    · exact fun p old _ here => ((adopted p).1 old here).1
    · intro p here
      rwa [(known p here).1]
    · exact fun p here => (known p here).2
    · intro p new
      have found := Session.find?_unregisteredChildren e changed new
      dsimp only
      cases listed : e.childInterface? r.session.config.children changed p with
      | none =>
        rw [listed, Option.map_none] at found
        exact (adopted p).2.1 new found
      | some interface =>
        rw [listed, Option.map_some] at found
        exact (adopted p).2.2 interface new found

end Undergoes

end Run

/-! ## 3. Deliveries -/

/-- What becomes of one property: a value, with the kind it comes with if any, or no value. -/
inductive Alteration where
  | write (name : String) (value : Value) (given : Option Kind)
  | drop (name : String)

/-- What a message or the application has for the properties of one element. -/
inductive Delivery where
  /-- The answer to a fetch, which takes the slot of a kind. -/
  | fetched (kind : CallKind) (properties : Cache) (args : List Value)
  | altered (alterations : List Alteration)

namespace Alteration

def name : Alteration → String
  | write name _ _ => name
  | drop name => name

def perform (path : Path) : Alteration → Run → Run
  | write name value given, r => (Attempt.change path name value given r).2
  | drop name, r => r.invalidate path name

def consequence (config : Config) (handlers : EventKind → Option Handler) (path : Path)
    (e : Element) : Alteration → Consequence
  | write name value given =>
      let changed := e.setProperty name value given
      { element := changed
        children := changed.follow config path (some name)
        told := [.event ⟨.elementUpdated, path, .changed name (some value)⟩
          (handlers .elementUpdated)] }
  | drop name =>
      { element := e.removeProperty name
        told := match Table.get? e.cache name with
          | none => []
          | some _ =>
              [.event ⟨.elementUpdated, path, .changed name none⟩ (handlers .elementUpdated)] }

/-- The consequence of alterations, one after the other. -/
def consequences (config : Config) (handlers : EventKind → Option Handler) (path : Path) :
    Element → List Alteration → Consequence
  | e, [] => { element := e }
  | e, a :: rest =>
      let first := a.consequence config handlers path e
      first.andThen (consequences config handlers path first.element rest)

end Alteration

/-- The alterations that changes of several properties come down to: first the new values, in the
order of a listing, then the names without one. -/
def PropertyChanges.alterations (changes : PropertyChanges) (listing : Listing) :
    List Alteration :=
  ((listing.entries changes.changed).map fun p => .write p.1 p.2.value (some p.2.kind))
    ++ changes.invalidated.map .drop

def Delivery.consequence (config : Config) (handlers : EventKind → Option Handler) (path : Path)
    (e : Element) : Delivery → Consequence
  | fetched kind properties args =>
      let merged := (e.freeSlot kind).merge properties
      let announced := if e.synced then EventKind.elementUpdated else .elementAdded
      { element := merged
        children := merged.follow config path none
        told := .event ⟨announced, path, .snapshot merged.properties⟩ (handlers announced)
          :: ((Table.get? e.pending kind).bind Slot.completion).toList.map
              fun c => .complete c (.ok args) }
  | altered alterations => Alteration.consequences config handlers path e alterations

theorem Element.removeProperty_of_none {e : Element} {name : String}
    (none : Table.get? e.cache name = none) : e.removeProperty name = e := by
  unfold removeProperty
  rw [Table.erase_of_get?_none none]

namespace Run.Undergoes

variable {r r' : Run} {path : Path} {e : Element}

theorem alteration (present : r.session.state.isPresent)
    (here : r.session.element? path = some e) (a : Alteration) :
    r.Undergoes path e (a.consequence r.session.config r.session.handlers path e)
      (a.perform path r) := by
  cases a with
  | write name value given =>
    show r.Undergoes path e _ (Attempt.change path name value given r).2
    rw [change_apply, here]
    have stored : r.Undergoes path e { element := e.setProperty name value given }
        ((Act.store path name value given).perform r) :=
      modify here (Act.store_registry path name value given r) ⟨rfl, rfl, rfl, rfl⟩ rfl
        ⟨rfl, rfl, rfl⟩
    have told := stored.andThen (emit stored.after .elementUpdated (.changed name (some value)))
    exact told.andThen (cascade (told.develops.service.present present) told.after (some name))
  | drop name =>
    show r.Undergoes path e _ (r.invalidate path name)
    unfold Run.invalidate
    rw [here, Option.bind_some]
    dsimp only [Alteration.consequence]
    cases held : Table.get? e.cache name with
    | none =>
      -- nothing is dropped or told, and erasing what is not there is nothing either
      dsimp only
      rw [Element.removeProperty_of_none held]
      exact nothing here
    | some p =>
      have dropped : r.Undergoes path e { element := e.removeProperty name }
          ((Act.drop path name).perform r) :=
        modify here (Act.drop_registry path name r) ⟨rfl, rfl, rfl, rfl⟩ rfl ⟨rfl, rfl, rfl⟩
      exact dropped.andThen (emit dropped.after .elementUpdated (.changed name none))

theorem alterations (present : r.session.state.isPresent)
    (here : r.session.element? path = some e) (as : List Alteration) :
    r.Undergoes path e
      (Alteration.consequences r.session.config r.session.handlers path e as)
      (as.foldl (fun q a => a.perform path q) r) := by
  -- on the alterations: each is done to what the one before made of the element
  induction as generalizing r e with
  | nil => exact nothing here
  | cons a rest ih =>
    have first := alteration present here a
    have next := ih (first.develops.service.present present) first.after
    rw [first.develops.service.config, first.develops.service.handlers] at next
    exact first.andThen next

theorem mergeFetched (present : r.session.state.isPresent)
    (here : r.session.element? path = some e) (fetched : Cache) :
    let announced := if e.synced then EventKind.elementUpdated else .elementAdded
    r.Undergoes path e
      { element := e.merge fetched
        children := (e.merge fetched).follow r.session.config path none
        told := [.event ⟨announced, path, .snapshot (e.merge fetched).properties⟩
          (r.session.handlers announced)] }
      (r.mergeFetched path fetched) := by
  intro announced
  have merged : r.Undergoes path e { element := e.merge fetched }
      ((Act.merge path fetched).perform r) :=
    modify here (Act.merge_registry path fetched r) ⟨rfl, rfl, rfl, rfl⟩ rfl ⟨rfl, rfl, rfl⟩
  have told := merged.andThen
    (emit merged.after announced (.snapshot (e.merge fetched).properties))
  unfold Run.mergeFetched
  rw [here]
  exact told.andThen (cascade (told.develops.service.present present) told.after none)

theorem reply (present : r.session.state.isPresent) (here : r.session.element? path = some e)
    {call : CallId} {kind : CallKind} {completion : Option Completion}
    {result : Except BusError (List WireValue)} {fetched : Cache} {args : List Value}
    (routed : Table.get? r.session.callRoutes call = some (.element path kind .sync))
    (held : Table.get? e.pending kind = some ⟨call, completion⟩)
    (read : fetchedOf result = .ok (fetched, args)) :
    r.Undergoes path e
      ((Delivery.fetched kind fetched args).consequence r.session.config r.session.handlers path e)
      (r.handleReply call result) := by
  have slot : r.session.slot? path kind = some ⟨call, completion⟩ := by
    unfold Session.slot?
    rw [Session.look_of_element? here, held]
  have answered : r.Undergoes path e { element := e.freeSlot kind }
      ((Act.answer call path kind).perform r) :=
    modify here (Act.answer_registry call path kind r) ⟨rfl, rfl, rfl, rfl⟩ rfl
      ⟨rfl, rfl, rfl⟩
  have merged := answered.andThen
    (mergeFetched (answered.develops.service.present present) answered.after fetched)
  have told := merged.andThen (complete merged.after completion (.ok args))
  rw [handleReply_call routed slot, read, CallPurpose.outcome_sync, read]
  rw [Consequence.andThen_of_childless] at told
  dsimp only [Delivery.consequence]
  rw [held]
  exact told

end Run.Undergoes

/-! ## 4. Receiving -/

/-- A session receives, by an operation, a delivery for the element at a path. -/
inductive Session.Receives (s : Session) : Operation → Path → Delivery → Prop
  /-- A fetch is answered, and the answer can be read. -/
  | fetched {call : CallId} {path : Path} {kind : CallKind}
      {result : Except BusError (List WireValue)} {properties : Cache} {args : List Value}
      (routed : Table.get? s.callRoutes call = some (.element path kind .sync))
      (read : fetchedOf result = .ok (properties, args)) :
      s.Receives (.dispatch (.reply call result)) path (.fetched kind properties args)
  /-- A change of one property is announced. -/
  | changed {subscription : SubscriptionId} {path sender : Path} {member : String}
      {args : List WireValue} {name : String} {p : Property}
      (routed : Table.get? s.signalRoutes subscription = some (.propertyChanged path))
      (read : propertyChangeOf args = .ok (some (name, p))) :
      s.Receives (.dispatch (.signal subscription sender member args)) path
        (.altered [.write name p.value (some p.kind)])
  /-- Changes of several properties are announced for the element's interface. -/
  | changedAll {subscription : SubscriptionId} {path sender : Path} {member : String}
      {args : List WireValue} {changes : PropertyChanges} {e : Element}
      (routed : Table.get? s.signalRoutes subscription = some (.propertiesChanged path))
      (read : propertyChangesOf args = .ok (some changes))
      (here : s.element? path = some e) (interface : e.interface = changes.interface) :
      s.Receives (.dispatch (.signal subscription sender member args)) path
        (.altered (changes.alterations s.listing))
  /-- Changes are announced for another interface of the object. -/
  | passedOver {subscription : SubscriptionId} {path sender : Path} {member : String}
      {args : List WireValue} {changes : PropertyChanges} {e : Element}
      (routed : Table.get? s.signalRoutes subscription = some (.propertiesChanged path))
      (read : propertyChangesOf args = .ok (some changes))
      (here : s.element? path = some e) (interface : e.interface ≠ changes.interface) :
      s.Receives (.dispatch (.signal subscription sender member args)) path (.altered [])
  /-- The application writes a property as if its change had been announced. -/
  | applied {path : Path} {name : String} {value : Value}
      (here : (s.element? path).isSome) :
      s.Receives (.change path name value) path (.altered [.write name value none])

namespace Session.Receives

variable {r : Run} {op : Operation} {path : Path} {d : Delivery}

/-- The element that a delivery is for is registered. -/
theorem registered (h : r.session.Receives op path d) (sound : r.session.Sound) :
    ∃ e, r.session.element? path = some e := by
  cases h with
  | @fetched call _ kind _ _ _ routed _ =>
    obtain ⟨_, held, _⟩ := (sound.routed.calls.element call path kind).mp ⟨.sync, routed⟩
    exact Option.isSome_iff_exists.mp (Session.registered_of_look held)
  | changed routed _ =>
    exact Option.isSome_iff_exists.mp (Operation.signalled_registered sound routed rfl)
  | changedAll _ _ here _ => exact ⟨_, here⟩
  | passedOver _ _ here _ => exact ⟨_, here⟩
  | applied here => exact Option.isSome_iff_exists.mp here

/-- Changes are the same to a session as their alterations, one after the other. -/
theorem altered_perform {as : List Alteration} (h : r.session.Receives op path (.altered as)) :
    (op.perform r).2 = as.foldl (fun q a => a.perform path q) r := by
  cases h with
  | changed routed read =>
    rw [Operation.perform_signal]
    unfold Run.handleSignal
    rw [routed]
    dsimp only
    rw [read]
    rfl
  | changedAll routed read here interface =>
    rw [Operation.perform_signal]
    unfold Run.handleSignal
    rw [routed]
    dsimp only
    rw [read]
    dsimp only
    unfold Run.applyChanges PropertyChanges.alterations
    rw [here]
    dsimp only
    rw [if_pos interface, List.foldl_append, List.foldl_map, List.foldl_map]
    rfl
  | passedOver routed read here interface =>
    rw [Operation.perform_signal]
    unfold Run.handleSignal
    rw [routed]
    dsimp only
    rw [read]
    dsimp only
    unfold Run.applyChanges
    rw [here]
    dsimp only
    rw [if_neg interface]
    rfl
  | applied _ => rw [Operation.perform_change]; rfl

/-- What a delivery leads to. -/
theorem undergoes (h : r.session.Receives op path d) (sound : r.session.Sound)
    (present : r.session.state.isPresent) {e : Element}
    (here : r.session.element? path = some e) :
    r.Undergoes path e (d.consequence r.session.config r.session.handlers path e)
      (op.perform r).2 := by
  cases d with
  | altered as =>
    rw [h.altered_perform]
    exact .alterations present here as
  | fetched kind properties args =>
    cases h with
    | @fetched call _ _ _ _ _ routed read =>
      obtain ⟨⟨_, completion⟩, held, rfl⟩ :=
        (sound.routed.calls.element call path kind).mp ⟨.sync, routed⟩
      unfold Session.slot? at held
      rw [Session.look_of_element? here] at held
      rw [Operation.perform_reply]
      exact .reply present here routed held read

end Session.Receives

end BusCache
