import BusCache.Proofs.Session.View
import BusCache.PropertyProtocol
import Mathlib.Logic.Relation

/-!
# Acts — the smallest steps of a run, and when they are taken

Every operation is a sequence of acts. An act is enabled in some sessions only, and the conditions
say all that the operations check before they take it. An invariant of sessions is proved once for
each act; from there it goes to every operation, whatever the order of its acts.
-/

namespace BusCache

inductive Act where
  | register (path : Path) (interface : String) (parent : Option Path) (depth : Nat)
  | send (path : Path) (kind : CallKind) (purpose : CallPurpose) (completion : Option Completion)
      (call : MethodCall)
  | subscribe (path : Path) (rule : SignalRule) (route : SignalRoute)
  | openWatch
  | openQuery
  | closeWatch
  | closeQuery
  | release (path : Path)
  | merge (path : Path) (fetched : Cache)
  | store (path : Path) (name : String) (value : Value) (given : Option Kind)
  | drop (path : Path) (name : String)
  | emit (kind : EventKind) (path : Path) (payload : Payload)
  /-- Takes the reply to a call of an element: its route and its slot are free. -/
  | answer (call : CallId) (path : Path) (kind : CallKind)
  | answerQuery (call : CallId)
  | tell (completion : Completion) (outcome : Except BusError (List Value))
  | setState (state : ServiceState)
  | setUsers (users : Nat)
  | setHandler (kind : EventKind) (handler : Option Handler)
  | relist (order : Listing)

/-- The path of the element that has to hold a subscription with a route. -/
def SignalRoute.target? (config : Config) : SignalRoute → Option Path
  | propertyChanged path => some path
  | propertiesChanged path => some path
  | lifecycle _ => some config.rootPath
  | forward path => some path
  | nameOwner => none

/-- The name of the signal that announces changes of properties. -/
def PropertyProtocol.changeSignal : PropertyProtocol → String
  | legacy => "PropertyChanged"
  | freedesktop => "PropertiesChanged"

theorem PropertyProtocol.changes_member (protocol : PropertyProtocol) (sender : String)
    (path : Path) (interface : String) :
    (protocol.changes sender path interface).member = protocol.changeSignal := by
  cases protocol <;> rfl

/-- A fetch is sent in the slot of its own kind, for an element that holds a subscription under the
name of the signal that announces changes. Any other call is sent in any slot. -/
def CallPurpose.Suits (s : Session) (path : Path) (kind : CallKind) : CallPurpose → Prop
  | sync => kind = .propertiesGet
      ∧ (s.subscription? path s.config.protocol.changeSignal).isSome
  | call => True

/-- A subscription of the element at a path is made for a rule to have a route: to the properties
for the signal that announces their changes, and to the tree of elements for one of the configured
signals. -/
def SignalRoute.Suits (s : Session) (path : Path) (rule : SignalRule) : SignalRoute → Prop
  | propertyChanged _ => ∃ e, s.element? path = some e
      ∧ rule = s.config.protocol.changes s.destination path e.interface
  | propertiesChanged _ => ∃ e, s.element? path = some e
      ∧ rule = s.config.protocol.changes s.destination path e.interface
  | lifecycle action => ⟨rule.interface, rule.member, action⟩ ∈ s.config.lifecycle
  | forward _ => True
  | nameOwner => False

namespace Session

/-- How far an element is from the top of the tree, as far as it knows. -/
def depth? (s : Session) (path : Path) : Option Nat := s.look path fun e => some e.depth

/-- The depth at which an element is registered. One that was discovered through no other is at the
top. Any other is one level below the one it was discovered through, or on the first level if that
is the root, and not deeper than the configuration allows. -/
def Level (s : Session) : Option Path → Nat → Prop
  | none, depth => depth = 0
  | some parent, depth => depth ≤ s.config.maxDepth.toNat
      ∧ ∃ above, s.depth? parent = some above
        ∧ (depth = above + 1 ∨ parent = s.config.rootPath ∧ depth = 1)

theorem Level.known {s : Session} {parent : Option Path} {depth : Nat}
    (level : s.Level parent depth) (q : Path) (below : parent = some q) :
    (s.element? q).isSome := by
  subst below
  obtain ⟨_, _, above, _⟩ := level
  exact registered_of_look above

theorem level_below_root {s : Session}
    (allowed : s.config.maxDepth ≠ 0 ∧ s.isRegistered s.config.rootPath) :
    s.Level (some s.config.rootPath) 1 := by
  obtain ⟨open_, registered⟩ := allowed
  obtain ⟨root, here⟩ := Option.isSome_iff_exists.mp
    (show (s.element? s.config.rootPath).isSome from registered)
  refine ⟨?_, root.depth, look_of_element? here, .inr ⟨rfl, rfl⟩⟩
  have positive : s.config.maxDepth.toNat ≠ 0 := fun zero => open_ (UInt8.toNat_inj.mp zero)
  omega

end Session

/-- An element at two instants, registered once: it is expected to have the same interface and was
discovered in the same place. -/
structure Element.SameOrigin (e e' : Element) : Prop where
  interface : e'.interface = e.interface
  parent : e'.parent = e.parent
  depth : e'.depth = e.depth

namespace Element.SameOrigin

variable {e e' e'' : Element}

theorem refl (e : Element) : e.SameOrigin e := ⟨rfl, rfl, rfl⟩

theorem trans (h : e.SameOrigin e') (h' : e'.SameOrigin e'') : e.SameOrigin e'' where
  interface := h'.interface.trans h.interface
  parent := h'.parent.trans h.parent
  depth := h'.depth.trans h.depth

end Element.SameOrigin

theorem SignalRoute.target?_eq_none_iff (config : Config) (route : SignalRoute) :
    route.target? config = none ↔ route = .nameOwner := by
  cases route <;> simp [target?]

namespace Act

def perform : Act → Run → Run
  | register path interface parent depth, r => r.register path { interface, parent, depth }
  | send path kind purpose completion call, r => r.sendCall path kind purpose completion call
  | subscribe path rule route, r => r.openSubscription path rule route
  | openWatch, r => r.openWatch
  | openQuery, r => r.openQuery
  | closeWatch, r => r.closeWatch
  | closeQuery, r => r.closeQuery
  | release path, r => r.releaseElement path
  | merge path fetched, r => r.update fun s => s.modifyElement path fun e => e.merge fetched
  | store path name value given, r =>
      r.update fun s => s.modifyElement path fun e => e.setProperty name value given
  | drop path name, r => r.update fun s => s.modifyElement path fun e => e.removeProperty name
  | emit kind path payload, r => r.emit kind path payload
  | answer call path kind, r => r.update fun s =>
      { s with
        callRoutes := Table.erase s.callRoutes call
        registry := Table.modify s.registry path fun e => e.freeSlot kind }
  | answerQuery call, r => r.update fun s =>
      { s with
        callRoutes := Table.erase s.callRoutes call
        ownership := { s.ownership with query := none } }
  | tell completion outcome, r => r.record (.complete completion outcome)
  | setState state, r => r.setState state
  | setUsers users, r => r.setUsers users
  | setHandler kind handler, r => r.update fun s =>
      { s with handlers := fun k => if k = kind then handler else s.handlers k }
  | relist order, r => r.update fun s => { s with listing := order }

/-- When an act is taken. -/
def Enabled (s : Session) : Act → Prop
  | register path _ parent depth => s.element? path = none ∧ s.Level parent depth
  | send path kind purpose _ call =>
      s.state.isPresent ∧ (s.element? path).isSome ∧ s.slot? path kind = none
        ∧ call.destination = s.destination ∧ call.path = path ∧ purpose.Suits s path kind
  | subscribe path rule route =>
      s.state.isPresent ∧ (s.element? path).isSome ∧ s.subscription? path rule.member = none
        ∧ rule.sender = s.destination ∧ rule.path = path ∧ route.target? s.config = some path
        ∧ route.Suits s path rule
  | openWatch => s.ownership.watch = none
  | openQuery => s.ownership.query = none
  | release path => (s.element? path).isSome
  | merge path _ => (s.element? path).isSome
  | store path _ _ _ => (s.element? path).isSome
  | drop path name => (s.cached? path name).isSome
  | emit kind _ _ => kind ≠ .elementRemoved
  | answer call path kind =>
      (∃ purpose, Table.get? s.callRoutes call = some (.element path kind purpose))
        ∧ ∃ slot, s.slot? path kind = some slot ∧ slot.call = call
  | answerQuery call =>
      Table.get? s.callRoutes call = some .nameOwner ∧ s.ownership.query = some call
  | _ => True

end Act

/-! ## 1. Taking acts -/

/-- One act of a class is taken. -/
def Step (P : Act → Prop) (r r' : Run) : Prop :=
  ∃ a, P a ∧ a.Enabled r.session ∧ r' = a.perform r

/-- Acts of a class are taken, one after the other. -/
def Steps (P : Act → Prop) : Run → Run → Prop := Relation.ReflTransGen (Step P)

namespace Steps

variable {P Q : Act → Prop} {r r' r'' : Run}

theorem refl : Steps P r r := Relation.ReflTransGen.refl

theorem one {a : Act} (mem : P a) (enabled : a.Enabled r.session) : Steps P r (a.perform r) :=
  Relation.ReflTransGen.single ⟨a, mem, enabled, rfl⟩

theorem trans (first : Steps P r r') (rest : Steps P r' r'') : Steps P r r'' :=
  Relation.ReflTransGen.trans first rest

theorem mono (wider : ∀ a, P a → Q a) (h : Steps P r r') : Steps Q r r' := by
  unfold Steps at h
  induction h with
  | refl => exact refl
  | tail _ step ih =>
    obtain ⟨a, mem, enabled, rfl⟩ := step
    exact ih.trans (one (wider a mem) enabled)

/-- What every act of a class keeps, a sequence of them keeps. -/
theorem preserves {I : Run → Prop}
    (keeps : ∀ r a, P a → a.Enabled r.session → I r → I (a.perform r))
    (h : Steps P r r') (start : I r) : I r' := by
  unfold Steps at h
  -- on the acts taken so far, the last one on top of what the others kept
  induction h with
  | refl => exact start
  | tail _ step ih =>
    obtain ⟨a, mem, enabled, rfl⟩ := step
    exact keeps _ a mem enabled ih

/-- A loop whose rounds take acts, where each round needs and keeps some condition. -/
theorem foldl {β : Type} {I : Run → Prop} {f : Run → β → Run} (xs : List β)
    (round : ∀ r x, x ∈ xs → I r → Steps P r (f r x) ∧ I (f r x)) (start : I r) :
    Steps P r (xs.foldl f r) ∧ I (xs.foldl f r) := by
  -- on the rounds: each hands its condition to the next
  induction xs generalizing r with
  | nil => exact ⟨.refl, start⟩
  | cons x xs ih =>
    obtain ⟨first, kept⟩ := round r x List.mem_cons_self start
    have rest := ih (fun r y hy => round r y (List.mem_cons_of_mem x hy)) kept
    exact ⟨first.trans rest.1, rest.2⟩

theorem loop {β : Type} {f : Run → β → Run} (round : ∀ r x, Steps P r (f r x)) (xs : List β)
    (r : Run) : Steps P r (xs.foldl f r) := by
  induction xs generalizing r with
  | nil => exact refl
  | cons x xs ih => exact (round r x).trans (ih (f r x))

end Steps

/-! ## 2. The session after the steps of a run -/

namespace Run

@[simp] theorem record_session (r : Run) (effect : Effect) :
    (r.record effect).session = r.session := rfl

@[simp] theorem emit_session (r : Run) (kind : EventKind) (path : Path) (payload : Payload) :
    (r.emit kind path payload).session = r.session := rfl

@[simp] theorem recordAll_session (r : Run) (effects : List Effect) :
    (r.recordAll effects).session = r.session := by
  induction effects generalizing r with
  | nil => rfl
  | cons effect rest ih => exact ih (r.record effect)

@[simp] theorem complete_session (r : Run) (completion : Option Completion)
    (outcome : Except BusError (List Value)) :
    (r.complete completion outcome).session = r.session := by
  cases completion <;> rfl

theorem register_registry (r : Run) (path : Path) (e : Element) :
    (r.register path e).session.registry = Table.set r.session.registry path e := rfl

theorem sendCall_registry (r : Run) (path : Path) (kind : CallKind) (purpose : CallPurpose)
    (completion : Option Completion) (call : MethodCall) :
    (r.sendCall path kind purpose completion call).session.registry =
      Table.modify r.session.registry path fun e => e.track kind ⟨r.nextCall, completion⟩ := rfl

theorem openSubscription_registry (r : Run) (path : Path) (rule : SignalRule)
    (route : SignalRoute) :
    (r.openSubscription path rule route).session.registry =
      Table.modify r.session.registry path
        fun e => e.addSubscription rule.member r.nextSubscription := rfl

theorem releaseElement_session {r : Run} {path : Path} {e : Element}
    (h : r.session.element? path = some e) :
    (r.releaseElement path).session =
      { r.session with
        registry := Table.erase r.session.registry path
        callRoutes := Table.eraseAll r.session.callRoutes
          ((r.session.listing.slots path e).map Slot.call)
        signalRoutes := Table.eraseAll r.session.signalRoutes
          (r.session.listing.subscriptions path e) } := by
  unfold releaseElement
  rw [h]
  simp only [recordAll_session, emit_session, update]

theorem closeWatch_session (r : Run) :
    r.closeWatch.session =
      match r.session.ownership.watch with
      | none => r.session
      | some id =>
          { r.session with
            signalRoutes := Table.erase r.session.signalRoutes id
            ownership := { r.session.ownership with watch := none } } := by
  unfold closeWatch
  cases r.session.ownership.watch <;> rfl

theorem closeQuery_session (r : Run) :
    r.closeQuery.session =
      match r.session.ownership.query with
      | none => r.session
      | some id =>
          { r.session with
            callRoutes := Table.erase r.session.callRoutes id
            ownership := { r.session.ownership with query := none } } := by
  unfold closeQuery
  cases r.session.ownership.query <;> rfl

theorem closeWatch_registry (r : Run) : r.closeWatch.session.registry = r.session.registry := by
  rw [closeWatch_session]
  split <;> rfl

theorem closeQuery_registry (r : Run) : r.closeQuery.session.registry = r.session.registry := by
  rw [closeQuery_session]
  split <;> rfl

end Run

namespace Act

theorem merge_registry (path : Path) (fetched : Cache) (r : Run) :
    ((merge path fetched).perform r).session.registry =
      Table.modify r.session.registry path fun e => e.merge fetched := rfl

theorem store_registry (path : Path) (name : String) (value : Value) (given : Option Kind)
    (r : Run) :
    ((store path name value given).perform r).session.registry =
      Table.modify r.session.registry path fun e => e.setProperty name value given := rfl

theorem drop_registry (path : Path) (name : String) (r : Run) :
    ((drop path name).perform r).session.registry =
      Table.modify r.session.registry path fun e => e.removeProperty name := rfl

theorem answer_registry (call : CallId) (path : Path) (kind : CallKind) (r : Run) :
    ((answer call path kind).perform r).session.registry =
      Table.modify r.session.registry path fun e => e.freeSlot kind := rfl

/-- What an act makes of the element at a path. -/
def Revises (r : Run) (p : Path) (e : Element) : Act → Element → Prop
  | send path kind _ completion _, e' => path = p ∧ e' = e.track kind ⟨r.nextCall, completion⟩
  | subscribe path rule _, e' => path = p ∧ e' = e.addSubscription rule.member r.nextSubscription
  | merge path fetched, e' => path = p ∧ e' = e.merge fetched
  | store path name value given, e' => path = p ∧ e' = e.setProperty name value given
  | drop path name, e' => path = p ∧ e' = e.removeProperty name
  | answer _ path kind, e' => path = p ∧ e' = e.freeSlot kind
  | _, _ => False

/-- Where an element comes from: it is new, or it was there, and the act left it or revised it. -/
theorem element?_origin {a : Act} {r : Run} {p : Path} {e : Element}
    (here : (a.perform r).session.element? p = some e) :
    (∃ interface parent depth, a = .register p interface parent depth
        ∧ e = { interface, parent, depth })
      ∨ ∃ e₀, r.session.element? p = some e₀ ∧ (e = e₀ ∨ a.Revises r p e₀ e) := by
  have kept : (a.perform r).session.registry = r.session.registry →
      ∃ e₀, r.session.element? p = some e₀ ∧ (e = e₀ ∨ a.Revises r p e₀ e) := by
    intro same
    rw [Session.element?_of_registry_eq same] at here
    exact ⟨e, here, .inl rfl⟩
  have modified : ∀ {path : Path} {f : Element → Element},
      (a.perform r).session.registry = Table.modify r.session.registry path f →
      (∀ e₀, a.Revises r path e₀ (f e₀)) →
      ∃ e₀, r.session.element? p = some e₀ ∧ (e = e₀ ∨ a.Revises r p e₀ e) := by
    intro path f change revised
    rw [Session.element?_of_modified change] at here
    by_cases hp : p = path
    · subst hp
      rw [if_pos rfl] at here
      obtain ⟨e₀, before, rfl⟩ := Option.map_eq_some_iff.mp here
      exact ⟨e₀, before, .inr (revised e₀)⟩
    · rw [if_neg hp] at here
      exact ⟨e, here, .inl rfl⟩
  cases a with
  | register path interface parent depth =>
    change (r.register path _).session.element? p = some e at here
    rw [Session.element?_of_set (r.register_registry path _)] at here
    split at here
    · subst p
      exact .inl ⟨interface, parent, depth, rfl, (Option.some.inj here).symm⟩
    · exact .inr ⟨e, here, .inl rfl⟩
  | release path =>
    change (r.releaseElement path).session.element? p = some e at here
    cases found : r.session.element? path with
    | none =>
      unfold Run.releaseElement at here
      rw [found] at here
      exact .inr ⟨e, here, .inl rfl⟩
    | some gone =>
      rw [Session.element?_of_erased (congrArg Session.registry (Run.releaseElement_session found))]
        at here
      split at here
      · cases here
      · exact .inr ⟨e, here, .inl rfl⟩
  | send path kind purpose completion call =>
    exact .inr (modified (r.sendCall_registry path kind purpose completion call)
      fun _ => ⟨rfl, rfl⟩)
  | subscribe path rule route =>
    exact .inr (modified (r.openSubscription_registry path rule route) fun _ => ⟨rfl, rfl⟩)
  | merge path fetched => exact .inr (modified (merge_registry path fetched r) fun _ => ⟨rfl, rfl⟩)
  | store path name value given =>
    exact .inr (modified (store_registry path name value given r) fun _ => ⟨rfl, rfl⟩)
  | drop path name => exact .inr (modified (drop_registry path name r) fun _ => ⟨rfl, rfl⟩)
  | answer call path kind =>
    exact .inr (modified (answer_registry call path kind r) fun _ => ⟨rfl, rfl⟩)
  | closeWatch => exact .inr (kept r.closeWatch_registry)
  | closeQuery => exact .inr (kept r.closeQuery_registry)
  | _ => exact .inr (kept rfl)

/-- What is registered stays registered as long as nothing is released. -/
theorem element?_isSome {a : Act} (kept : ∀ path, a ≠ .release path) {r : Run} {p : Path}
    (here : (r.session.element? p).isSome) : ((a.perform r).session.element? p).isSome := by
  cases a with
  | register path interface parent depth =>
    show ((r.register path _).session.element? p).isSome
    rw [Session.element?_of_set (r.register_registry path _)]
    split
    · rfl
    · exact here
  | send path kind purpose completion call =>
    exact Session.isSome_of_modified (r.sendCall_registry path kind purpose completion call) here
  | subscribe path rule route =>
    exact Session.isSome_of_modified (r.openSubscription_registry path rule route) here
  | merge path fetched => exact Session.isSome_of_modified (merge_registry path fetched r) here
  | store path name value given =>
    exact Session.isSome_of_modified (store_registry path name value given r) here
  | drop path name => exact Session.isSome_of_modified (drop_registry path name r) here
  | answer call path kind =>
    exact Session.isSome_of_modified (answer_registry call path kind r) here
  | closeWatch =>
    show (r.closeWatch.session.element? p).isSome
    rwa [Session.element?_of_registry_eq r.closeWatch_registry]
  | closeQuery =>
    show (r.closeQuery.session.element? p).isSome
    rwa [Session.element?_of_registry_eq r.closeQuery_registry]
  | release path => exact absurd rfl (kept path)
  | _ => exact here

/-- An element stays registered as long as it is not released, as it was or revised. -/
theorem Enabled.element?_kept {a : Act} {r : Run} (enabled : a.Enabled r.session) {p : Path}
    {e₀ : Element} (here : r.session.element? p = some e₀) (kept : a ≠ .release p) :
    ∃ e, (a.perform r).session.element? p = some e ∧ (e = e₀ ∨ a.Revises r p e₀ e) := by
  have still : ((a.perform r).session.element? p).isSome := by
    cases a with
    | release path =>
      obtain ⟨gone, found⟩ := Option.isSome_iff_exists.mp enabled
      have other : p ≠ path := fun same => kept (congrArg release same.symm)
      show ((r.releaseElement path).session.element? p).isSome
      rw [Session.element?_of_erased
        (congrArg Session.registry (Run.releaseElement_session found)), if_neg other, here]
      rfl
    | _ => exact element?_isSome (fun _ => Act.noConfusion) (Option.isSome_of_eq_some here)
  obtain ⟨e, after⟩ := Option.isSome_iff_exists.mp still
  refine ⟨e, after, ?_⟩
  rcases element?_origin after with ⟨_, _, _, rfl, _⟩ | ⟨before, found, same⟩
  · rw [enabled.1] at here
    cases here
  · rwa [Option.some.inj (found.symm.trans here)] at same

/-- What no act revises is read off an element as long as it is registered. -/
theorem Enabled.look_kept {α : Type} {a : Act} {r : Run} (enabled : a.Enabled r.session) {p : Path}
    (here : (r.session.element? p).isSome) (kept : a ≠ .release p) {read : Element → Option α}
    (fixed : ∀ e₀ e, a.Revises r p e₀ e → read e = read e₀) :
    (a.perform r).session.look p read = r.session.look p read := by
  obtain ⟨e₀, before⟩ := Option.isSome_iff_exists.mp here
  obtain ⟨e, after, same⟩ := enabled.element?_kept before kept
  rw [Session.look_of_element? after, Session.look_of_element? before]
  rcases same with rfl | revised
  · rfl
  · exact fixed e₀ e revised

/-- Where an element comes from is settled when it is registered. -/
theorem Revises.origin {a : Act} {r : Run} {p : Path} {e₀ e : Element}
    (revised : a.Revises r p e₀ e) : e₀.SameOrigin e := by
  cases a with
  | send path kind purpose completion call =>
    obtain ⟨_, rfl⟩ := revised
    exact ⟨rfl, rfl, rfl⟩
  | subscribe path rule route =>
    obtain ⟨_, rfl⟩ := revised
    exact ⟨rfl, rfl, rfl⟩
  | merge path fetched =>
    obtain ⟨_, rfl⟩ := revised
    exact ⟨rfl, rfl, rfl⟩
  | store path name value given =>
    obtain ⟨_, rfl⟩ := revised
    exact ⟨rfl, rfl, rfl⟩
  | drop path name =>
    obtain ⟨_, rfl⟩ := revised
    exact ⟨rfl, rfl, rfl⟩
  | answer call path kind =>
    obtain ⟨_, rfl⟩ := revised
    exact ⟨rfl, rfl, rfl⟩
  | _ => exact revised.elim

/-- As long as it is not released, an element stays registered where it was discovered. -/
theorem Enabled.origin_kept {a : Act} {r : Run} (enabled : a.Enabled r.session) {p : Path}
    {e₀ : Element} (here : r.session.element? p = some e₀) (kept : a ≠ .release p) :
    ∃ e, (a.perform r).session.element? p = some e ∧ e₀.SameOrigin e := by
  obtain ⟨e, after, same⟩ := enabled.element?_kept here kept
  refine ⟨e, after, ?_⟩
  rcases same with rfl | revised
  · exact .refl e
  · exact revised.origin

/-- How a session was set up: nothing changes it. -/
structure SameSetup (s t : Session) : Prop where
  config : t.config = s.config
  numbering : t.numbering = s.numbering

theorem perform_sameSetup (a : Act) (r : Run) : SameSetup r.session (a.perform r).session := by
  cases a with
  | release path =>
    show SameSetup _ (r.releaseElement path).session
    -- without an element nothing happens at all
    cases h : r.session.element? path with
    | none =>
      unfold Run.releaseElement
      rw [h]
      exact ⟨rfl, rfl⟩
    | some e =>
      rw [Run.releaseElement_session h]
      exact ⟨rfl, rfl⟩
  | closeWatch =>
    show SameSetup _ r.closeWatch.session
    rw [Run.closeWatch_session]
    split <;> exact ⟨rfl, rfl⟩
  | closeQuery =>
    show SameSetup _ r.closeQuery.session
    rw [Run.closeQuery_session]
    split <;> exact ⟨rfl, rfl⟩
  | _ => exact ⟨rfl, rfl⟩

theorem perform_listing {a : Act} (kept : ∀ order, a ≠ .relist order) (r : Run) :
    (a.perform r).session.listing = r.session.listing := by
  cases a with
  | relist order => exact absurd rfl (kept order)
  | release path =>
    show (r.releaseElement path).session.listing = _
    cases h : r.session.element? path with
    | none =>
      unfold Run.releaseElement
      rw [h]
    | some e => rw [Run.releaseElement_session h]
  | closeWatch =>
    show r.closeWatch.session.listing = _
    rw [Run.closeWatch_session]
    split <;> rfl
  | closeQuery =>
    show r.closeQuery.session.listing = _
    rw [Run.closeQuery_session]
    split <;> rfl
  | _ => rfl

/-- A level is open as long as what is above it is not released. -/
theorem Enabled.level_kept {a : Act} {r : Run} (enabled : a.Enabled r.session)
    {parent : Option Path} {depth : Nat} (kept : ∀ q, parent = some q → a ≠ .release q)
    (level : r.session.Level parent depth) : (a.perform r).session.Level parent depth := by
  cases parent with
  | none => exact level
  | some parent =>
    obtain ⟨allowed, above, known, below⟩ := level
    unfold Session.Level
    rw [(a.perform_sameSetup r).config]
    refine ⟨allowed, above, ?_, below⟩
    unfold Session.depth? at known ⊢
    rw [enabled.look_kept (Session.registered_of_look known) (kept parent rfl)
      fun _ _ revised => congrArg some revised.origin.depth]
    exact known

end Act

theorem Steps.sameSetup {P : Act → Prop} {r r' : Run} (h : Steps P r r') :
    Act.SameSetup r.session r'.session := by
  apply h.preserves (I := fun q => Act.SameSetup r.session q.session) _ ⟨rfl, rfl⟩
  intro q a _ _ same
  have next := a.perform_sameSetup q
  exact ⟨next.config.trans same.config, next.numbering.trans same.numbering⟩

/-- Tables are gone through in one order as long as no act changes it. -/
theorem Steps.listing_eq {P : Act → Prop} {r r' : Run} (h : Steps P r r')
    (kept : ∀ a, P a → ∀ order, a ≠ .relist order) : r'.session.listing = r.session.listing :=
  h.preserves (I := fun q => q.session.listing = r.session.listing)
    (fun q _ mem _ same => (Act.perform_listing (kept _ mem) q).trans same) rfl

/-- What is registered at a path where no act registers anything was so before. -/
theorem Steps.registered_before {P : Act → Prop} {r r' : Run} (h : Steps P r r') {p : Path}
    (nothing : ∀ a, P a → ∀ interface parent depth, a ≠ .register p interface parent depth)
    {e : Element} (here : r'.session.element? p = some e) :
    ∃ e₀, r.session.element? p = some e₀ ∧ e₀.SameOrigin e := by
  apply h.preserves (I := fun q => ∀ e, q.session.element? p = some e →
    ∃ e₀, r.session.element? p = some e₀ ∧ e₀.SameOrigin e) _ (fun e here => ⟨e, here, .refl e⟩)
    e here
  intro q a mem _ before e here
  rcases Act.element?_origin here with ⟨interface, parent, depth, registers, _⟩ | ⟨e₁, was, same⟩
  · exact absurd registers (nothing a mem interface parent depth)
  · obtain ⟨e₀, first, origin⟩ := before e₁ was
    refine ⟨e₀, first, origin.trans ?_⟩
    rcases same with rfl | revised
    · exact .refl e
    · exact revised.origin

theorem Steps.unregistered {P : Act → Prop} {r r' : Run} (h : Steps P r r') {p : Path}
    (nothing : ∀ a, P a → ∀ interface parent depth, a ≠ .register p interface parent depth)
    (new : r.session.element? p = none) : r'.session.element? p = none := by
  by_contra here
  obtain ⟨e, here⟩ := Option.ne_none_iff_exists'.mp here
  obtain ⟨_, was, _⟩ := h.registered_before nothing here
  rw [new] at was
  cases was

end BusCache
