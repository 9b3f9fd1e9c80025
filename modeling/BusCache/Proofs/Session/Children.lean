import BusCache.Proofs.Session.Caches
import BusCache.Proofs.Session.Routing

/-!
# Children — the elements that others list

A fetch of properties, or a change of one of them, is followed to the children that it lists. Each
of them that is not registered becomes an element below the one that lists it, with the interface of
the first link that names it, and is fetched once, however often it is listed. Nothing else comes or
goes, and nothing that was registered before is fetched. Below the deepest level nothing is
followed.
-/

namespace BusCache

/-! ## 1. What is listed -/

/-- A value lists a path: it is the path, or has it among its items. -/
def Value.Lists (child : Path) : Value → Prop
  | objectPath path => path = child
  | array items => objectPath child ∈ items
  | _ => False

theorem Value.mem_objectPaths {v : Value} {child : Path} :
    child ∈ v.objectPaths ↔ child ≠ "/" ∧ v.Lists child := by
  cases v with
  | objectPath path =>
    show child ∈ (if path = "/" then [] else [path]) ↔ child ≠ "/" ∧ path = child
    by_cases root : path = "/"
    · rw [if_pos root, root]
      exact ⟨fun h => absurd h List.not_mem_nil, fun h => absurd h.2.symm h.1⟩
    · rw [if_neg root, List.mem_singleton]
      exact ⟨fun h => ⟨h ▸ root, h.symm⟩, fun h => h.2.symm⟩
  | array items =>
    show child ∈ (items.filterMap asObjectPath?).filter (· ≠ "/") ↔
      child ≠ "/" ∧ objectPath child ∈ items
    have views : (∃ item ∈ items, item.asObjectPath? = some child) ↔
        objectPath child ∈ items := by
      constructor
      · rintro ⟨item, mem, view⟩
        cases item with
        | objectPath path =>
          cases view
          exact mem
        | _ => cases view
      · exact fun mem => ⟨_, mem, rfl⟩
    rw [List.mem_filter, List.mem_filterMap, views, decide_eq_true_eq, and_comm]
  | _ => exact ⟨fun h => absurd h List.not_mem_nil, fun h => h.2.elim⟩

namespace Element

/-- By a link an element names a child: the link is one of the element's interface, and of the
property that changed if only one did, and the value of its property lists the child. The path `/`
is nobody's child. -/
def Names (e : Element) (changed : Option String) (child : Path) (link : ChildLink) : Prop :=
  link.parentInterface = e.interface ∧ (∀ key, changed = some key → link.property = key)
    ∧ child ≠ "/" ∧ ∃ p, Table.get? e.cache link.property = some p ∧ p.value.Lists child

/-- The first of the links by which an element names a child. -/
def FirstNames (e : Element) (links : List ChildLink) (changed : Option String) (child : Path)
    (link : ChildLink) : Prop :=
  ∃ before after, links = before ++ link :: after ∧ e.Names changed child link
    ∧ ∀ earlier ∈ before, ¬ e.Names changed child earlier

variable {e : Element} {links : List ChildLink} {changed : Option String} {child : Path}

theorem FirstNames.names {link : ChildLink} (first : e.FirstNames links changed child link) :
    link ∈ links ∧ e.Names changed child link := by
  obtain ⟨before, after, rfl, names, _⟩ := first
  exact ⟨List.mem_append_right _ List.mem_cons_self, names⟩

end Element

namespace Session

variable {s : Session} {e : Element} {changed : Option String} {child : Path} {link : ChildLink}

/-- What one link adds to the children that are to be discovered. -/
def contributed (s : Session) (e : Element) (link : ChildLink) : List (Path × String) :=
  match Table.get? e.cache link.property with
  | none => []
  | some p =>
      (p.value.objectPaths.filter fun child => !s.isRegistered child).map fun child =>
        (child, link.childInterface)

theorem mem_contributed {found : Path × String} :
    found ∈ s.contributed e link ↔ found.2 = link.childInterface ∧ s.element? found.1 = none
      ∧ found.1 ≠ "/" ∧ ∃ p, Table.get? e.cache link.property = some p
        ∧ p.value.Lists found.1 := by
  unfold contributed
  cases Table.get? e.cache link.property with
  | none => simp
  | some p =>
    obtain ⟨path, interface⟩ := found
    simp only [List.mem_map, List.mem_filter, Value.mem_objectPaths, Bool.not_eq_true',
      isRegistered_eq_false_iff, Prod.mk.injEq, Option.some.injEq]
    constructor
    · rintro ⟨c, ⟨⟨other, lists⟩, new⟩, rfl, rfl⟩
      exact ⟨rfl, new, other, p, rfl, lists⟩
    · rintro ⟨rfl, new, other, _, rfl, lists⟩
      exact ⟨path, ⟨⟨other, lists⟩, new⟩, rfl, rfl⟩

theorem find?_contributed (new : s.element? child = none) (other : child ≠ "/")
    (lists : ∃ p, Table.get? e.cache link.property = some p ∧ p.value.Lists child) :
    (s.contributed e link).find? (fun found => found.1 = child) =
      some (child, link.childInterface) := by
  have mem : (child, link.childInterface) ∈ s.contributed e link :=
    mem_contributed.mpr ⟨rfl, new, other, lists⟩
  have listed : ((s.contributed e link).find? fun found => found.1 = child).isSome :=
    List.find?_isSome.mpr ⟨_, mem, decide_eq_true rfl⟩
  obtain ⟨found, hit⟩ := Option.isSome_iff_exists.mp listed
  have named : found.1 = child := by simpa using List.find?_some hit
  rw [hit, ← named, ← (mem_contributed.mp (List.mem_of_find?_eq_some hit)).1]

/-- Of the children that are to be discovered, the first entry of a path is the one of the first
link that names it. -/
theorem find?_unregistered (s : Session) (e : Element) (changed : Option String)
    (new : s.element? child = none) :
    ((s.unregisteredChildren e changed).find? (fun found => found.1 = child) = none
        ∧ ∀ link ∈ s.config.children, ¬ e.Names changed child link)
      ∨ ∃ link, e.FirstNames s.config.children changed child link
        ∧ (s.unregisteredChildren e changed).find? (fun found => found.1 = child) =
          some (child, link.childInterface) := by
  have unfolded : s.unregisteredChildren e changed = ((s.config.children.filter fun link =>
      link.parentInterface = e.interface).filter fun link =>
        changed.all fun key => key = link.property).flatMap (s.contributed e) := rfl
  rw [unfolded]
  generalize s.config.children = links
  induction links with
  | nil => exact .inl ⟨rfl, fun _ h => absurd h List.not_mem_nil⟩
  | cons link links ih =>
    rw [List.filter_filter, List.filter_cons]
    rw [List.filter_filter] at ih
    by_cases names : e.Names changed child link
    · -- the link counts, and its entry comes first
      obtain ⟨interface, property, other, lists⟩ := names
      right
      refine ⟨link, ⟨[], links, rfl, ⟨interface, property, other, lists⟩,
        fun _ h => absurd h List.not_mem_nil⟩, ?_⟩
      have counts : ((changed.all fun key => key = link.property)
          && decide (link.parentInterface = e.interface)) = true := by
        cases changed with
        | none => simpa using interface
        | some key => simpa [interface] using (property key rfl).symm
      rw [if_pos counts, List.flatMap_cons, List.find?_append,
        find?_contributed new other lists, Option.some_or]
    · have passed : ∀ rest : List ChildLink, ((if ((changed.all fun key => key = link.property)
          && decide (link.parentInterface = e.interface)) = true then link :: rest
            else rest).flatMap (s.contributed e)).find? (fun found => found.1 = child) =
          (rest.flatMap (s.contributed e)).find? fun found => found.1 = child := by
        intro rest
        split
        · rename_i counts
          rw [Bool.and_eq_true, decide_eq_true_eq] at counts
          have nothing : (s.contributed e link).find? (fun found => found.1 = child) = none := by
            rw [List.find?_eq_none]
            intro found mem named
            obtain ⟨_, _, other, lists⟩ := mem_contributed.mp mem
            rw [of_decide_eq_true named] at other lists
            refine names ⟨counts.2, fun key only => ?_, other, lists⟩
            rw [only] at counts
            exact (of_decide_eq_true counts.1).symm
          rw [List.flatMap_cons, List.find?_append, nothing, Option.none_or]
        · rfl
      rw [passed]
      rcases ih with ⟨nothing, none⟩ | ⟨first, ⟨before, after, rfl, found, none⟩, hit⟩
      · refine .inl ⟨nothing, fun other mem => ?_⟩
        rcases List.mem_cons.mp mem with rfl | later
        · exact names
        · exact none other later
      · refine .inr ⟨first, ⟨link :: before, after, rfl, found, fun earlier mem => ?_⟩, hit⟩
        rcases List.mem_cons.mp mem with rfl | later
        · exact names
        · exact none earlier later

end Session

/-! ## 2. Adoption -/

/-- The calls that were sent to the object at a path. -/
def Run.callsTo (r : Run) (path : Path) : List MethodCall :=
  ((r.shown Effect.call?).map Prod.snd).filter fun call => call.path = path

/-- The call that fetches the properties of an element. -/
def Session.fetch (s : Session) (path : Path) (interface : String) : MethodCall :=
  s.config.protocol.fetch s.destination path interface

theorem Session.fetch_path (s : Session) (path : Path) (interface : String) :
    (s.fetch path interface).path = path := by
  unfold fetch
  cases s.config.protocol <;> rfl

/-- An element as discovery leaves it: nothing is known of it but where it belongs, and one call is
under way on it, the fetch of its properties. -/
structure Element.Discovered (e : Element) (interface : String) (parent : Path) (depth : Nat) :
    Prop where
  interface : e.interface = interface
  parent : e.parent = some parent
  depth : e.depth = depth
  cache : e.cache = []
  unsynced : e.synced = false
  fetched : ∃ slot, e.pending = [(.propertiesGet, slot)]

/-- An element as its adoption leaves it: discovered, with nobody waiting for its fetch, and with a
subscription to its changes. -/
structure Element.Adopted (e : Element) (protocol : PropertyProtocol) (interface : String)
    (parent : Path) (depth : Nat) : Prop where
  discovered : e.Discovered interface parent depth
  unawaited : ∃ call, e.pending = [(.propertiesGet, ⟨call, none⟩)]
  subscribed : ∃ sender path id,
    e.subscriptions = [((protocol.changes sender path interface).member, id)]

namespace Run

variable {r r' : Run} {child : Path} {interface : String} {parent : Path} {depth : Nat}

theorem callsTo_of_calls (same : r'.shown Effect.call? = r.shown Effect.call?) (path : Path) :
    r'.callsTo path = r.callsTo path := by
  unfold callsTo
  rw [same]

theorem callsTo_of_sent {id : CallId} {call : MethodCall}
    (sent : r'.shown Effect.call? = r.shown Effect.call? ++ [(id, call)]) (path : Path) :
    r'.callsTo path = if path = call.path then r.callsTo path ++ [call] else r.callsTo path := by
  unfold callsTo
  rw [sent, List.map_append, List.filter_append]
  by_cases about : path = call.path
  · simp [about]
  · simp [about, Ne.symm about]

theorem adopt_of_registered (here : (r.session.element? child).isSome) :
    r.adopt child interface parent depth = r := by
  have registered : r.session.isRegistered child = true := here
  unfold adopt getOrCreate
  rw [if_pos registered]

/-- A new element is subscribed to and fetched at once. -/
theorem adopt_of_new (present : r.session.state.isPresent) (new : r.session.element? child = none)
    (interface : String) (parent : Path) (depth : Nat) :
    r.adopt child interface parent depth =
      (((r.register child { interface, parent := some parent, depth }).openSubscription child
        (r.session.config.protocol.changes r.session.destination child interface)
        (Attempt.changesRoute r.session.config child)).sendCall child .propertiesGet .sync none
          (r.session.fetch child interface)) := by
  have here : (r.register child { interface, parent := some parent, depth }).session.element? child
      = some { interface, parent := some parent, depth } := by
    rw [Session.element?_of_set (r.register_registry child _), if_pos rfl]
  have free : (r.register child { interface, parent := some parent, depth }).session.slot? child
      .propertiesGet = none := by
    unfold Session.slot?
    rw [Session.look_of_element? here]
    rfl
  have asked : Attempt.sync child none (r.register child
      { interface, parent := some parent, depth }) = _ := Attempt.sync_eq present here free
  have sync := congrArg Prod.snd asked
  rw [Attempt.subscribeChanges_apply, Attempt.openUnlessHeld_eq (by exact present) here] at sync
  refine Eq.trans ?_ sync
  unfold adopt getOrCreate
  rw [Session.isRegistered_eq_false_iff.mpr new]
  rfl

/-- What the adoption of a new element does: the element is there, it is fetched, and nothing else
is touched. -/
theorem adopt_new (present : r.session.state.isPresent) (new : r.session.element? child = none)
    (interface : String) (parent : Path) (depth : Nat) :
    (∃ e, (r.adopt child interface parent depth).session.element? child = some e
      ∧ e.Adopted r.session.config.protocol interface parent depth)
    ∧ (∀ p, p ≠ child →
      (r.adopt child interface parent depth).session.element? p = r.session.element? p)
    ∧ ∀ p, (r.adopt child interface parent depth).callsTo p =
      if p = child then r.callsTo p ++ [r.session.fetch child interface] else r.callsTo p := by
  have adopted := adopt_of_new present new interface parent depth
  generalize named : r.session.config.protocol.changes r.session.destination child interface = rule
    at adopted
  generalize Attempt.changesRoute r.session.config child = route at adopted
  have shown := Act.perform_shown Effect.call? (.send child .propertiesGet .sync none
    (r.session.fetch child interface)) ((r.register child
      { interface, parent := some parent, depth }).openSubscription child rule route)
  have opened : ((r.register child { interface, parent := some parent, depth }).openSubscription
      child rule route).shown Effect.call? = r.shown Effect.call? :=
    (Act.perform_shown Effect.call? (.subscribe child rule route) _).trans (List.append_nil _)
  have registered := r.register_registry child { interface, parent := some parent, depth }
  have subscribed := (r.register child
    { interface, parent := some parent, depth }).openSubscription_registry child rule route
  have sent := (((r.register child
    { interface, parent := some parent, depth }).openSubscription child rule
      route).sendCall_registry child .propertiesGet .sync none (r.session.fetch child interface))
  rw [opened] at shown
  rw [adopted]
  have here := Session.element?_of_modified_self sent (Session.element?_of_modified_self subscribed
    ((Session.element?_of_set registered child).trans (if_pos rfl)))
  refine ⟨⟨_, here, ⟨rfl, rfl, rfl, rfl, rfl, _, rfl⟩, ⟨_, rfl⟩, ?_⟩, ?_, ?_⟩
  · refine ⟨r.session.destination, child, ?_⟩
    rw [named]
    exact ⟨_, rfl⟩
  · intro p other
    rw [Session.element?_of_modified sent, if_neg other, Session.element?_of_modified subscribed,
      if_neg other, Session.element?_of_set registered, if_neg other]
  · intro p
    have calls := callsTo_of_sent (r := r) shown p
    rwa [Session.fetch_path] at calls

/-- Adoption does not change who is asked, and how. -/
theorem adopt_setup (present : r.session.state.isPresent) (child : Path) (interface : String)
    (parent : Path) (depth : Nat) :
    (r.adopt child interface parent depth).session.config = r.session.config
      ∧ (r.adopt child interface parent depth).session.ownership = r.session.ownership := by
  cases new : r.session.element? child with
  | none =>
    rw [adopt_of_new present new interface parent depth]
    exact ⟨rfl, rfl⟩
  | some e =>
    rw [adopt_of_registered (Option.isSome_of_eq_some new)]
    exact ⟨rfl, rfl⟩

/-- A loop that adopts paths one after the other. A path that was registered before is passed over,
and the first entry of any other decides. -/
theorem adopt_all (present : r.session.state.isPresent) (parent : Path) (depth : Nat)
    (found : List (Path × String)) (p : Path) :
    let after := found.foldl (fun q c => q.adopt c.1 c.2 parent depth) r
    (∀ e, r.session.element? p = some e →
      after.session.element? p = some e ∧ after.callsTo p = r.callsTo p)
    ∧ (r.session.element? p = none → found.find? (fun c => c.1 = p) = none →
      after.session.element? p = none ∧ after.callsTo p = r.callsTo p)
    ∧ ∀ interface, r.session.element? p = none →
      found.find? (fun c => c.1 = p) = some (p, interface) →
      (∃ e, after.session.element? p = some e
        ∧ e.Adopted r.session.config.protocol interface parent depth)
        ∧ after.callsTo p = r.callsTo p ++ [r.session.fetch p interface] := by
  -- on the paths: what the first of them does stays, and the others do the same from there on
  induction found generalizing r with
  | nil => exact ⟨fun e here => ⟨here, rfl⟩, fun new _ => ⟨new, rfl⟩, fun _ _ hit => by cases hit⟩
  | cons c rest ih =>
    obtain ⟨child, named⟩ := c
    intro after
    obtain ⟨config, ownership⟩ := adopt_setup present child named parent depth
    have fetch : ∀ p i, (r.adopt child named parent depth).session.fetch p i =
        r.session.fetch p i := by
      intro p i
      unfold Session.fetch Session.destination Session.state
      rw [config, ownership]
    have present₁ : (r.adopt child named parent depth).session.state.isPresent := by
      unfold Session.state
      rw [ownership]
      exact present
    obtain ⟨known, passed, taken⟩ := ih present₁
    have into : after = rest.foldl (fun q c => q.adopt c.1 c.2 parent depth)
        (r.adopt child named parent depth) := rfl
    rw [← into] at known passed taken
    cases new : r.session.element? child with
    | some e =>
      -- nothing is done for a registered path, be it listed or not
      rw [adopt_of_registered (Option.isSome_of_eq_some new)] at known passed taken
      have other : r.session.element? p = none → child ≠ p := by
        rintro none rfl
        rw [new] at none
        cases none
      refine ⟨known, fun none miss => passed none ?_, fun interface none hit => taken _ none ?_⟩
      · rwa [List.find?_cons_of_neg (by simpa using other none)] at miss
      · rwa [List.find?_cons_of_neg (by simpa using other none)] at hit
    | none =>
      obtain ⟨⟨e, here, adopted⟩, elsewhere, calls⟩ := adopt_new present new named parent depth
      by_cases self : p = child
      · subst self
        obtain ⟨still, quiet⟩ := known e here
        rw [calls p, if_pos rfl] at quiet
        have first : ((p, named) :: rest).find? (fun c => c.1 = p) = some (p, named) :=
          List.find?_cons_of_pos (by simp)
        refine ⟨fun _ here => ?_, fun _ miss => ?_, fun interface _ hit => ?_⟩
        · rw [new] at here
          cases here
        · rw [first] at miss
          cases miss
        · rw [first] at hit
          cases hit
          exact ⟨⟨e, still, adopted⟩, quiet⟩
      · have skip : ((child, named) :: rest).find? (fun c => c.1 = p) =
            rest.find? fun c => c.1 = p :=
          List.find?_cons_of_neg (by simpa using Ne.symm self)
        rw [skip]
        rw [elsewhere p self, calls p, if_neg self] at known passed taken
        refine ⟨known, passed, fun interface none hit => ?_⟩
        have done := taken interface none hit
        rwa [fetch, config] at done

end Run

/-! ## 3. Discovery -/

/-- Where an element belongs stays the same. -/
structure Element.SamePlace (e e' : Element) : Prop where
  interface : e'.interface = e.interface
  parent : e'.parent = e.parent
  depth : e'.depth = e.depth
  subscriptions : e'.subscriptions = e.subscriptions

/-- From a run to a later one, nothing was done but to the element at a path, which stayed in its
place, and no call was sent. -/
structure Run.Touches (r r' : Run) (path : Path) : Prop where
  elsewhere : ∀ p, p ≠ path → r'.session.element? p = r.session.element? p
  here : ∀ e, r.session.element? path = some e →
    ∃ e', r'.session.element? path = some e' ∧ e.SamePlace e'
  calls : r'.shown Effect.call? = r.shown Effect.call?
  removed : r'.shown Effect.removed? = r.shown Effect.removed?
  setup : r'.session.config = r.session.config ∧ r'.session.ownership = r.session.ownership

/-- From a run to a later one, the children that an element lists were discovered: all of them, or
those of the one property that changed. The element is given as it is afterwards. -/
structure Run.Discovers (r r' : Run) (path : Path) (e : Element) (changed : Option String) :
    Prop where
  /-- The element itself stayed in its place. -/
  lister : r'.session.element? path = some e
    ∧ ∃ old, r.session.element? path = some old ∧ old.SamePlace e
  /-- Down to the deepest level, every path that is listed is registered afterwards. -/
  listed : e.depth + 1 ≤ r.session.config.maxDepth.toNat →
    ∀ child link, link ∈ r.session.config.children → e.Names changed child link →
      (r'.session.element? child).isSome
  /-- One that was not registered became an element, with the interface of the first link that names
  it, and one call was sent to it, which fetches its properties. -/
  new : e.depth + 1 ≤ r.session.config.maxDepth.toNat →
    ∀ child link, link ∈ r.session.config.children → e.Names changed child link →
      r.session.element? child = none →
      ∃ first, e.FirstNames r.session.config.children changed child first
        ∧ (∃ e', r'.session.element? child = some e'
          ∧ e'.Discovered first.childInterface path (e.depth + 1))
        ∧ r'.callsTo child =
          r.callsTo child ++ [r.session.fetch child first.childInterface]
  /-- What was registered before stayed as it was, -/
  kept : ∀ p old, p ≠ path → r.session.element? p = some old → r'.session.element? p = some old
  /-- it was not removed, and no call was sent to it. -/
  known : ∀ p, (r.session.element? p).isSome → ¬ r.Removed r' p ∧ r'.callsTo p = r.callsTo p
  /-- Nothing else became an element, and below the deepest level nothing at all. -/
  nothing_else : ∀ p, r.session.element? p = none →
    (e.depth + 1 ≤ r.session.config.maxDepth.toNat →
      ∀ link ∈ r.session.config.children, ¬ e.Names changed p link) →
    r'.session.element? p = none ∧ r'.callsTo p = r.callsTo p
  /-- Who is asked, and how, stayed the same. -/
  setup : r'.session.config = r.session.config ∧ r'.session.ownership = r.session.ownership

namespace Element.SamePlace

variable {e e' e'' : Element}

theorem refl (e : Element) : e.SamePlace e := ⟨rfl, rfl, rfl, rfl⟩

theorem origin (h : e.SamePlace e') : e.SameOrigin e' := ⟨h.interface, h.parent, h.depth⟩

theorem trans (h : e.SamePlace e') (h' : e'.SamePlace e'') : e.SamePlace e'' where
  interface := h'.interface.trans h.interface
  parent := h'.parent.trans h.parent
  depth := h'.depth.trans h.depth
  subscriptions := h'.subscriptions.trans h.subscriptions

end Element.SamePlace

namespace Run

variable {r r' r'' : Run} {path : Path} {e : Element} {changed : Option String}

/-- Following an element's lists discovers its children. -/
theorem cascade_discovers (present : r.session.state.isPresent)
    (here : r.session.element? path = some e) :
    r.Discovers (r.cascade path changed) path e changed := by
  have removed : (r.cascade path changed).shown Effect.removed? = r.shown Effect.removed? :=
    ((cascade_steps r path changed).grows_logs path).announced
  have unremoved : ∀ p, ¬ r.Removed (r.cascade path changed) p := unremoved_of_shown removed
  have setup : (r.cascade path changed).session.config = r.session.config
      ∧ (r.cascade path changed).session.ownership = r.session.ownership :=
    ⟨(cascade_steps r path changed).sameSetup.config, (cascade_steps r path changed).ownership_eq⟩
  unfold cascade at unremoved setup ⊢
  rw [here] at unremoved setup ⊢
  dsimp only at unremoved setup ⊢
  by_cases deep : e.depth + 1 > r.session.config.maxDepth.toNat
  · rw [if_pos deep] at unremoved setup ⊢
    have beyond : ¬ e.depth + 1 ≤ r.session.config.maxDepth.toNat := Nat.not_le.mpr deep
    exact {
      lister := ⟨here, e, here, .refl e⟩
      listed := fun below => absurd below beyond
      new := fun below => absurd below beyond
      kept := fun _ _ _ known => known
      known := fun p _ => ⟨unremoved p, rfl⟩
      nothing_else := fun _ none _ => ⟨none, rfl⟩
      setup }
  · rw [if_neg deep] at unremoved setup ⊢
    have adopted := adopt_all present path (e.depth + 1)
      (r.session.unregisteredChildren e changed)
    generalize (r.session.unregisteredChildren e changed).foldl
      (fun q c => q.adopt c.1 c.2 path (e.depth + 1)) r = r' at unremoved setup adopted ⊢
    dsimp only at adopted
    have new : ∀ child link, link ∈ r.session.config.children → e.Names changed child link →
        r.session.element? child = none →
        ∃ first, e.FirstNames r.session.config.children changed child first
          ∧ (∃ e', r'.session.element? child = some e'
            ∧ e'.Discovered first.childInterface path (e.depth + 1))
          ∧ r'.callsTo child =
            r.callsTo child ++ [r.session.fetch child first.childInterface] := by
      intro child link mem names none
      rcases Session.find?_unregistered r.session e changed none with
        ⟨_, unnamed⟩ | ⟨first, names, hit⟩
      · exact absurd names (unnamed link mem)
      · obtain ⟨⟨e', made, adopted⟩, sent⟩ := (adopted child).2.2 _ none hit
        exact ⟨first, names, ⟨e', made, adopted.discovered⟩, sent⟩
    constructor
    · exact ⟨((adopted path).1 e here).1, e, here, .refl e⟩
    · intro _ child link mem names
      cases known : r.session.element? child with
      | some old => exact Option.isSome_of_eq_some ((adopted child).1 old known).1
      | none =>
        obtain ⟨_, _, ⟨e', made, _⟩, _⟩ := new child link mem names known
        exact Option.isSome_of_eq_some made
    · exact fun _ => new
    · exact fun p old _ known => ((adopted p).1 old known).1
    · intro p known
      obtain ⟨old, known⟩ := Option.isSome_iff_exists.mp known
      exact ⟨unremoved p, ((adopted p).1 old known).2⟩
    · intro p none unnamed
      apply (adopted p).2.1 none
      rcases Session.find?_unregistered r.session e changed none with ⟨miss, _⟩ | ⟨link, names, _⟩
      · exact miss
      · exact absurd names.names.2 (unnamed (Nat.not_lt.mp deep) link names.names.1)
    · exact setup

/-! ## 4. What leads to discovery -/

namespace Touches

theorem refl (r : Run) (path : Path) : r.Touches r path :=
  ⟨fun _ _ => rfl, fun e here => ⟨e, here, .refl e⟩, rfl, rfl, rfl, rfl⟩

theorem trans (h : r.Touches r' path) (h' : r'.Touches r'' path) : r.Touches r'' path where
  elsewhere p other := (h'.elsewhere p other).trans (h.elsewhere p other)
  here e known := by
    obtain ⟨e₁, known, same⟩ := h.here e known
    obtain ⟨e₂, known, same'⟩ := h'.here e₁ known
    exact ⟨e₂, known, same.trans same'⟩
  calls := h'.calls.trans h.calls
  removed := h'.removed.trans h.removed
  setup := ⟨h'.setup.1.trans h.setup.1, h'.setup.2.trans h.setup.2⟩

/-- An act that modifies one element and shows nothing. -/
theorem of_modified {a : Act} {f : Element → Element}
    (registry : (a.perform r).session.registry = Table.modify r.session.registry path f)
    (place : ∀ e : Element, e.SamePlace (f e)) (shows : a.shows r = [])
    (config : (a.perform r).session.config = r.session.config)
    (ownership : (a.perform r).session.ownership = r.session.ownership) :
    r.Touches (a.perform r) path where
  elsewhere p other := by rw [Session.element?_of_modified registry, if_neg other]
  here e known := ⟨f e, Session.element?_of_modified_self registry known, place e⟩
  calls := by rw [Act.perform_shown, shows, List.filterMap_nil, List.append_nil]
  removed := by rw [Act.perform_shown, shows, List.filterMap_nil, List.append_nil]
  setup := ⟨config, ownership⟩

theorem emit {kind : EventKind} (other : kind ≠ .elementRemoved) (r : Run) (p : Path)
    (payload : Payload) (path : Path) : r.Touches (r.emit kind p payload) path where
  elsewhere _ _ := rfl
  here e known := ⟨e, known, .refl e⟩
  calls := (Act.perform_shown Effect.call? (.emit kind p payload) r).trans (List.append_nil _)
  removed := (emit_logs kind other p payload path).announced
  setup := ⟨rfl, rfl⟩

theorem complete (r : Run) (completion : Option Completion)
    (outcome : Except BusError (List Value)) (path : Path) :
    r.Touches (r.complete completion outcome) path := by
  cases completion with
  | none => exact .refl r path
  | some c =>
    exact ⟨fun _ _ => rfl, fun e known => ⟨e, known, .refl e⟩,
      (Act.perform_shown Effect.call? (.tell c outcome) r).trans (List.append_nil _),
      (Act.perform_shown Effect.removed? (.tell c outcome) r).trans (List.append_nil _), rfl, rfl⟩

end Touches

/-- What was done before to the element that lists the children does not matter. -/
theorem Discovers.after (h : r'.Discovers r'' path e changed) (before : r.Touches r' path)
    (registered : (r.session.element? path).isSome) : r.Discovers r'' path e changed := by
  obtain ⟨e₀, was⟩ := Option.isSome_iff_exists.mp registered
  obtain ⟨e₁, now, place⟩ := before.here e₀ was
  have calls : ∀ p, r'.callsTo p = r.callsTo p := callsTo_of_calls before.calls
  have fetch : ∀ p interface, r'.session.fetch p interface = r.session.fetch p interface := by
    intro p interface
    unfold Session.fetch Session.destination Session.state
    rw [before.setup.1, before.setup.2]
  have none : ∀ p, r.session.element? p = none → r'.session.element? p = none := by
    intro p none
    rw [before.elsewhere p, none]
    rintro rfl
    rw [was] at none
    cases none
  constructor
  · obtain ⟨old, known, same⟩ := h.lister.2
    rw [now] at known
    cases known
    exact ⟨h.lister.1, e₀, was, place.trans same⟩
  · rw [← before.setup.1]
    exact h.listed
  · intro below child link mem names new
    rw [← before.setup.1] at below mem
    obtain ⟨first, found, made, sent⟩ := h.new below child link mem names (none child new)
    rw [before.setup.1] at found
    rw [fetch, calls] at sent
    exact ⟨first, found, made, sent⟩
  · intro p old other known
    exact h.kept p old other ((before.elsewhere p other).trans known)
  · intro p known
    have still : (r'.session.element? p).isSome := by
      by_cases self : p = path
      · rw [self, now]
        rfl
      · rwa [before.elsewhere p self]
    obtain ⟨stays, quiet⟩ := h.known p still
    unfold Removed at stays ⊢
    rw [before.removed] at stays
    exact ⟨stays, quiet.trans (calls p)⟩
  · intro p new unnamed
    rw [← before.setup.1] at unnamed
    obtain ⟨nothing, quiet⟩ := h.nothing_else p (none p new) unnamed
    exact ⟨nothing, quiet.trans (calls p)⟩
  · exact ⟨h.setup.1.trans before.setup.1, h.setup.2.trans before.setup.2⟩

/-- Telling a completion discovers nothing. -/
theorem Discovers.complete (h : r.Discovers r' path e changed) (completion : Option Completion)
    (outcome : Except BusError (List Value)) :
    r.Discovers (r'.complete completion outcome) path e changed := by
  have told := Touches.complete r' completion outcome path
  have session := complete_session r' completion outcome
  have calls : ∀ p, (r'.complete completion outcome).callsTo p = r'.callsTo p :=
    callsTo_of_calls told.calls
  constructor
  · rw [session]
    exact h.lister
  · rw [session]
    exact h.listed
  · simp only [session, calls]
    exact h.new
  · rw [session]
    exact h.kept
  · intro p known
    obtain ⟨stays, quiet⟩ := h.known p known
    unfold Removed at stays ⊢
    rw [told.removed]
    exact ⟨stays, (calls p).trans quiet⟩
  · simp only [session, calls]
    exact h.nothing_else
  · rw [session]
    exact h.setup

theorem mergeFetched_discovers (present : r.session.state.isPresent)
    (here : (r.session.element? path).isSome) (fetched : Cache) :
    ∃ e, r.Discovers (r.mergeFetched path fetched) path e none := by
  obtain ⟨e, known⟩ := Option.isSome_iff_exists.mp here
  have merged : r.Touches ((Act.merge path fetched).perform r) path :=
    .of_modified (Act.merge_registry path fetched r) (fun _ => ⟨rfl, rfl, rfl, rfl⟩) rfl rfl rfl
  have told : ∀ q : Run, q.Touches (q.emit (if e.synced then EventKind.elementUpdated
      else .elementAdded) path (.snapshot (e.merge fetched).properties)) path := by
    intro q
    split
    · exact .emit (by decide) q path _ path
    · exact .emit (by decide) q path _ path
  let q := ((Act.merge path fetched).perform r).emit (if e.synced then EventKind.elementUpdated
    else .elementAdded) path (.snapshot (e.merge fetched).properties)
  have followed : q.Discovers (q.cascade path none) path (e.merge fetched) none :=
    cascade_discovers present (Act.merge_element? known fetched)
  unfold mergeFetched
  rw [known]
  exact ⟨_, followed.after (merged.trans (told _)) here⟩

theorem storeChange_discovers (present : r.session.state.isPresent)
    (here : (r.session.element? path).isSome) (name : String) (value : Value)
    (given : Option Kind) :
    ∃ e, r.Discovers (r.storeChange path name value given) path e (some name) := by
  obtain ⟨e, known⟩ := Option.isSome_iff_exists.mp here
  have stored : r.Touches ((Act.store path name value given).perform r) path :=
    .of_modified (Act.store_registry path name value given r) (fun _ => ⟨rfl, rfl, rfl, rfl⟩) rfl
      rfl rfl
  let q := ((Act.store path name value given).perform r).emit .elementUpdated path
    (.changed name (some value))
  have told : ((Act.store path name value given).perform r).Touches q path :=
    .emit (by decide) _ path _ path
  have followed : q.Discovers (q.cascade path (some name)) path (e.setProperty name value given)
      (some name) := cascade_discovers present (Act.store_element? known name value given)
  exact ⟨_, followed.after (stored.trans told) here⟩

theorem change_discovers (present : r.session.state.isPresent)
    (here : (r.session.element? path).isSome) (name : String) (value : Value)
    (given : Option Kind) :
    ∃ e, r.Discovers (Attempt.change path name value given r).2 path e (some name) := by
  obtain ⟨e, known⟩ := Option.isSome_iff_exists.mp here
  rw [change_apply, known]
  exact storeChange_discovers present here name value given

/-- Changes of several properties are followed one after the other. -/
inductive DiscoversEach (path : Path) : Run → List String → Run → Prop
  | done (r : Run) : DiscoversEach path r [] r
  | change {r r₁ r' : Run} {e : Element} {name : String} {rest : List String}
      (first : r.Discovers r₁ path e (some name)) (next : DiscoversEach path r₁ rest r') :
      DiscoversEach path r (name :: rest) r'

theorem invalidate_touches (path : Path) (name : String) (r : Run) :
    r.Touches (r.invalidate path name) path := by
  unfold invalidate
  split
  · exact .refl r path
  · have dropped : r.Touches ((Act.drop path name).perform r) path :=
      .of_modified (Act.drop_registry path name r) (fun _ => ⟨rfl, rfl, rfl, rfl⟩) rfl rfl rfl
    exact dropped.trans (.emit (by decide) _ path _ path)

/-- Of the changes that a signal tells, the new values are followed in turn, and a value that is
lost leads to nothing. -/
theorem applyChanges_discovers (present : r.session.state.isPresent)
    (here : r.session.element? path = some e) {changes : PropertyChanges}
    (interface : e.interface = changes.interface) :
    ∃ r₁, DiscoversEach path r ((r.session.listing.entries changes.changed).map Prod.fst) r₁
      ∧ r₁.Touches (r.applyChanges path changes) path := by
  have stored : ∀ (xs : List (String × Property)) (q : Run), q.session.state.isPresent →
      (q.session.element? path).isSome → DiscoversEach path q (xs.map Prod.fst)
        (xs.foldl (fun q p => (Attempt.change path p.1 p.2.value (some p.2.kind) q).2) q) := by
    intro xs
    induction xs with
    | nil => exact fun q _ _ => .done q
    | cons p rest ih =>
      intro q present known
      obtain ⟨e', discovers⟩ := change_discovers present known p.1 p.2.value (some p.2.kind)
      refine .change discovers (ih _ ?_ (Option.isSome_of_eq_some discovers.lister.1))
      unfold Session.state
      rw [discovers.setup.2]
      exact present
  have dropped : ∀ (xs : List String) (q : Run),
      q.Touches (xs.foldl (fun q name => q.invalidate path name) q) path := by
    intro xs
    induction xs with
    | nil => exact fun q => .refl q path
    | cons name rest ih => exact fun q => (invalidate_touches path name q).trans (ih _)
  unfold applyChanges
  rw [here]
  dsimp only
  rw [if_pos interface]
  exact ⟨_, stored _ r present (Option.isSome_of_eq_some here), dropped _ _⟩

end Run

/-! ## 5. Operations -/

namespace Operation

variable {r : Run} {path : Path}

/-- A reply to a fetch that can be read is followed to all children. -/
theorem reply_discovers (sound : r.session.Sound) (present : r.session.state.isPresent)
    {call : CallId} {kind : CallKind} {result : Except BusError (List WireValue)} {fetched : Cache}
    {args : List Value}
    (routed : Table.get? r.session.callRoutes call = some (.element path kind .sync))
    (read : fetchedOf result = .ok (fetched, args)) :
    ∃ e, r.Discovers ((dispatch (.reply call result)).perform r).2 path e none := by
  obtain ⟨⟨id, completion⟩, held, rfl⟩ :=
    (sound.routed.calls.element call path kind).mp ⟨.sync, routed⟩
  have here := Session.registered_of_look held
  have taken : r.Touches ((Act.answer id path kind).perform r) path :=
    .of_modified (Act.answer_registry id path kind r) (fun _ => ⟨rfl, rfl, rfl, rfl⟩) rfl rfl rfl
  obtain ⟨e, followed⟩ := Run.mergeFetched_discovers (r := (Act.answer id path kind).perform r)
    present (Session.isSome_of_modified (Act.answer_registry id path kind r) here) fetched
  rw [perform_reply, Run.handleReply_call routed held, read]
  exact ⟨e, (followed.after taken here).complete completion _⟩

/-- A change of one property is followed to the children that it lists. -/
theorem change_discovers (present : r.session.state.isPresent)
    (here : (r.session.element? path).isSome) (name : String) (value : Value) :
    ∃ e, r.Discovers ((change path name value).perform r).2 path e (some name) := by
  rw [perform_change]
  exact Run.change_discovers present here name value none

variable {subscription : SubscriptionId}

theorem signalled_registered (sound : r.session.Sound) {route : SignalRoute}
    (routed : Table.get? r.session.signalRoutes subscription = some route)
    (target : route.target? r.session.config = some path) :
    (r.session.element? path).isSome := by
  obtain ⟨_, held⟩ := (sound.routed.signals.element subscription path).mp ⟨route, routed, target⟩
  exact Session.registered_of_look held

theorem signal_discovers (sound : r.session.Sound) (present : r.session.state.isPresent)
    {args : List WireValue} {name : String} {p : Property}
    (routed : Table.get? r.session.signalRoutes subscription = some (.propertyChanged path))
    (read : propertyChangeOf args = .ok (some (name, p))) (sender : Path) (member : String) :
    ∃ e, r.Discovers ((dispatch (.signal subscription sender member args)).perform r).2 path e
      (some name) := by
  rw [perform_dispatch]
  show ∃ e, r.Discovers (r.handleSignal subscription member args) path e (some name)
  unfold Run.handleSignal
  rw [routed]
  dsimp only
  rw [read]
  exact Run.change_discovers present (signalled_registered sound routed rfl) name _ _

theorem signal_discovers_each (present : r.session.state.isPresent) {args : List WireValue}
    {changes : PropertyChanges} {e : Element}
    (routed : Table.get? r.session.signalRoutes subscription = some (.propertiesChanged path))
    (read : propertyChangesOf args = .ok (some changes))
    (here : r.session.element? path = some e) (interface : e.interface = changes.interface)
    (sender : Path) (member : String) :
    ∃ r₁, Run.DiscoversEach path r ((r.session.listing.entries changes.changed).map Prod.fst) r₁
      ∧ r₁.Touches ((dispatch (.signal subscription sender member args)).perform r).2 path := by
  rw [perform_dispatch]
  show ∃ r₁ : Run, Run.DiscoversEach path r _ r₁
    ∧ r₁.Touches (r.handleSignal subscription member args) path
  unfold Run.handleSignal
  rw [routed]
  dsimp only
  rw [read]
  exact Run.applyChanges_discovers present here interface

end Operation

end BusCache
