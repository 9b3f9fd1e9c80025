import BusCache.Proofs.Session.Growth
import BusCache.Session.Operation

/-!
# Decomposition — operations as sequences of acts

Each part of an operation takes acts of a narrow class: removal releases elements, the coming and
going of the service grows, releases and announces, a signal writes and grows. Put together, an
operation that is no reply takes only such acts, and a reply that is heard takes one answer before
them and tells one completion after them.
-/

namespace BusCache

namespace Act

def Removes : Act → Prop
  | release _ => True
  | _ => False

/-- Belongs to the coming and going of the service. -/
def Comes : Act → Prop
  | release _ => True
  | setState _ => True
  | emit .serviceUp _ _ => True
  | emit .serviceDown _ _ => True
  | a => a.Grows

/-- Belongs to a change of an element's properties. -/
def Changes : Act → Prop
  | merge _ _ => True
  | store _ _ _ _ => True
  | drop _ _ => True
  | emit .elementAdded _ _ => True
  | emit .elementUpdated _ _ => True
  | a => a.Grows

/-- Belongs to a change of single properties of the element at a path. -/
def Edits (path : Path) : Act → Prop
  | store p _ _ _ => p = path
  | drop p _ => p = path
  | emit .elementUpdated p (.changed _ _) => p = path
  | a => a.Grows

end Act

namespace Operation

def completion? : Operation → Option Completion
  | setProperty _ _ _ completion => completion
  | setPropertyAs _ _ _ _ completion => completion
  | call _ _ _ _ completion => completion
  | callOn _ _ _ _ _ completion => completion
  | sync _ completion => completion
  | _ => none

/-- The place of the call that an operation sends, and what the call is for. -/
def place? : Operation → Option (Path × CallKind × CallPurpose)
  | setProperty path _ _ _ => some (path, .propertySet, .call)
  | setPropertyAs path _ _ _ _ => some (path, .propertySet, .call)
  | call path kind _ _ _ => some (path, kind, .call)
  | callOn path _ kind _ _ _ => some (path, kind, .call)
  | sync path _ => some (path, .propertiesGet, .sync)
  | _ => none

/-- Can write to the properties of an element without being a reply. -/
def Writes : Operation → Prop
  | change _ _ _ => True
  | dispatch (.signal _ _ _ _) => True
  | _ => False

/-- The acts of an operation that is no reply: it neither takes a reply nor tells a completion
itself, and sends fetches that nobody waits for, or a call for its place with the completion it was
given. -/
def Takes (op : Operation) : Act → Prop
  | .send path kind purpose completion _ => completion = none ∧ kind = .propertiesGet
      ∨ completion = op.completion? ∧ op.place? = some (path, kind, purpose)
  | .merge _ _ => op.Writes
  | .store _ _ _ _ => op.Writes
  | .drop _ _ => op.Writes
  | .openWatch => op = init
  | .openQuery => op = init
  | .closeWatch => op = shutdown
  | .closeQuery => op = shutdown
  | .setUsers _ => op = init ∨ op = shutdown
  | .relist order => op = relist order
  | .answer _ _ _ => False
  | .answerQuery _ => False
  | .tell _ _ => False
  | _ => True

end Operation

namespace Act

variable {op : Operation}

theorem Grows.comes (a : Act) (h : a.Grows) : a.Comes := by
  cases a <;> first | exact h.elim | exact h

theorem Grows.changes (a : Act) (h : a.Grows) : a.Changes := by
  cases a <;> first | exact h.elim | exact h

theorem Grows.edits {path : Path} (a : Act) (h : a.Grows) : a.Edits path := by
  cases a <;> first | exact h.elim | exact h

theorem Edits.changes {path : Path} (a : Act) (h : a.Edits path) : a.Changes := by
  cases a with
  | emit kind p payload => cases kind <;> cases payload <;> first | exact h.elim | trivial
  | _ => first | exact h.elim | trivial

theorem Removes.comes (a : Act) (h : a.Removes) : a.Comes := by
  cases a <;> first | exact h.elim | trivial

theorem Grows.taken (a : Act) (h : a.Grows) : op.Takes a := by
  cases a <;> first | exact h.elim | exact .inl h | trivial

theorem Comes.taken (a : Act) (h : a.Comes) : op.Takes a := by
  cases a <;> first | exact h.elim | exact .inl h | trivial

theorem Changes.taken (writes : op.Writes) (a : Act) (h : a.Changes) : op.Takes a := by
  cases a <;> first | exact h.elim | exact writes | exact .inl h | trivial

end Act

namespace Run

/-! ## 1. Removal -/

theorem releaseElement_of_none {r : Run} {path : Path} (h : r.session.element? path = none) :
    r.releaseElement path = r := by
  unfold releaseElement
  rw [h]

theorem releaseElement_steps (r : Run) (path : Path) :
    Steps Act.Removes r (r.releaseElement path) := by
  cases h : r.session.element? path with
  | none =>
    rw [releaseElement_of_none h]
    exact .refl
  | some e =>
    refine Steps.one (a := .release path) trivial ?_
    show (r.session.element? path).isSome
    rw [h]
    rfl

theorem removeLevels_steps (levels : Nat) (path : Path) (r : Run) :
    Steps Act.Removes r (removeLevels levels path r) := by
  -- on the levels: the children of an element are one level further down
  induction levels generalizing path r with
  | zero => exact .refl
  | succ levels ih =>
    unfold removeLevels
    split
    · have below : Steps Act.Removes r
          ((r.session.childrenOf path).foldl (fun q child => removeLevels levels child q) r) :=
        Steps.loop (fun q child => ih child q) _ r
      exact below.trans (releaseElement_steps _ path)
    · exact .refl

theorem removeTree_steps (path : Path) (r : Run) : Steps Act.Removes r (r.removeTree path) :=
  removeLevels_steps _ path r

theorem removeLevels_of_none {r : Run} {path : Path} (h : r.session.element? path = none)
    (levels : Nat) : removeLevels levels path r = r := by
  rw [← Session.isRegistered_eq_false_iff] at h
  cases levels with
  | zero => rfl
  | succ levels =>
    unfold removeLevels
    rw [if_neg (by rw [h]; exact Bool.false_ne_true)]

theorem removeLevels_of_some {r : Run} {path : Path} {e : Element}
    (h : r.session.element? path = some e) (levels : Nat) :
    removeLevels (levels + 1) path r =
      ((r.session.childrenOf path).foldl (fun q child => removeLevels levels child q)
        r).releaseElement path :=
  if_pos (Option.isSome_of_eq_some h)

/-- Where there is no element, removing one does nothing either way. -/
theorem remove_run (path : Path) (r : Run) : (r.remove path).2 = r.removeTree path := by
  unfold remove
  split
  · rfl
  · rename_i absent
    rw [Bool.not_eq_true, Session.isRegistered_eq_false_iff] at absent
    exact (removeLevels_of_none absent _).symm

theorem remove_steps (path : Path) (r : Run) : Steps Act.Removes r (r.remove path).2 := by
  rw [remove_run]
  exact removeTree_steps path r

theorem removeAll_steps (r : Run) : Steps Act.Removes r r.removeAll :=
  Steps.loop (fun q path => removeTree_steps path q) _ r

/-- A released path no longer resolves, and no other path starts to. -/
theorem releaseElement_element? (r : Run) (path p : Path) :
    (r.releaseElement path).session.element? p =
      if p = path then none else r.session.element? p := by
  cases h : r.session.element? path with
  | none =>
    rw [releaseElement_of_none h]
    split
    · subst p
      exact h
    · rfl
  | some e =>
    exact Session.element?_of_erased (congrArg Session.registry (releaseElement_session h)) p

end Run

/-- Removal registers nothing. -/
theorem Steps.element?_eq_none {r r' : Run} (h : Steps Act.Removes r r') {p : Path}
    (gone : r.session.element? p = none) : r'.session.element? p = none :=
  h.unregistered (fun _ removes _ _ _ he => by subst he; exact removes) gone

namespace Run

theorem removeTree_element? (path : Path) (r : Run) :
    (r.removeTree path).session.element? path = none := by
  unfold removeTree
  cases hl : r.session.registry.length with
  | zero =>
    have empty : r.session.registry = [] := List.length_eq_zero_iff.mp hl
    show Table.get? r.session.registry path = none
    rw [empty, Table.get?_nil]
  | succ levels =>
    -- whatever happened to the children, the element itself is released last
    unfold removeLevels
    split
    · rw [releaseElement_element?, if_pos rfl]
    · rename_i absent
      rwa [Bool.not_eq_true, Session.isRegistered_eq_false_iff] at absent

/-- Nothing is left of the elements. -/
theorem removeAll_element? (r : Run) (p : Path) : r.removeAll.session.element? p = none := by
  -- a path is gone when its turn came, and as removal registers nothing it stays gone
  have loop : ∀ (xs : List Path) (q : Run), (q.session.element? p = none ∨ p ∈ xs) →
      (xs.foldl (fun q path => q.removeTree path) q).session.element? p = none := by
    intro xs
    induction xs with
    | nil => exact fun q h => h.resolve_right List.not_mem_nil
    | cons x xs ih =>
      intro q h
      apply ih
      rcases h with gone | hmem
      · exact .inl ((removeTree_steps x q).element?_eq_none gone)
      · rcases List.mem_cons.mp hmem with rfl | later
        · exact .inl (removeTree_element? p q)
        · exact .inr later
  apply loop
  cases here : r.session.element? p with
  | none => exact .inl rfl
  | some e =>
    right
    rw [Session.mem_paths_iff, here]
    rfl

theorem emit_steps {P : Act → Prop} {kind : EventKind} {path : Path} {payload : Payload}
    (mem : P (.emit kind path payload)) (other : kind ≠ .elementRemoved) (r : Run) :
    Steps P r (r.emit kind path payload) :=
  Steps.one (a := .emit kind path payload) mem other

theorem complete_steps (r : Run) (completion : Option Completion)
    (outcome : Except BusError (List Value)) :
    Steps (fun a => ∃ c, completion = some c ∧ a = .tell c outcome) r
      (r.complete completion outcome) := by
  cases completion with
  | none => exact .refl
  | some c => exact Steps.one (a := .tell c outcome) ⟨c, rfl, rfl⟩ trivial

/-! ## 2. Coming and going of the service -/

theorem exit_steps (r : Run) : Steps Act.Comes r r.exit := by
  have removed : Steps Act.Comes r r.removeAll := (removeAll_steps r).mono Act.Removes.comes
  have absent : Steps Act.Comes r.removeAll (r.removeAll.setState .absent) :=
    Steps.one (a := .setState .absent) trivial trivial
  have told : Steps Act.Comes (r.removeAll.setState .absent) r.exit :=
    emit_steps trivial (by decide) _
  exact (removed.trans absent).trans told

/-- An owner that comes is known first. Then the root is registered and subscribed to, and when all
is ready it is fetched, and the service is announced up. -/
theorem enter_prepares (owner : String) (r : Run) :
    ∃ ready, Steps Act.Prepares (r.setState (.present owner)) ready
      ∧ (ready.session.element? r.session.config.rootPath).isSome
      ∧ r.enter owner = (Attempt.sync r.session.config.rootPath none ready).2.emit .serviceUp
          r.session.config.rootPath (.owner owner) := by
  let root := r.session.config.rootPath
  let r₁ := r.setState (.present owner)
  let r₂ := (r₁.getOrCreate root { interface := r₁.session.config.rootInterface }).2
  let r₃ := r₂.subscribeLifecycle root
  have registered : Steps Act.Prepares r₁ r₂ :=
    getOrCreate_prepares none 0 rfl
  have subscribed : Steps Act.Subscribes r₂ r₃ := by
    -- the configuration that named the root is still the one in force
    have hroot : root = r₂.session.config.rootPath :=
      congrArg Config.rootPath registered.sameSetup.config.symm
    show Steps Act.Subscribes r₂ (r₂.subscribeLifecycle root)
    rw [hroot]
    apply subscribeLifecycle_steps
    unfold Session.state
    rw [(registered.mono Act.Prepares.grows).ownership_eq]
    rfl
  have here : (r₃.session.element? root).isSome :=
    (subscribed.mono Act.Subscribes.grows).element?_isSome (getOrCreate_isSome r₁ root _)
  exact ⟨r₃, registered.trans (subscribed.mono Act.Subscribes.prepares), here, rfl⟩

/-- Between the owner that is known and the announcement the session only grows. -/
theorem enter_grows (owner : String) (r : Run) :
    ∃ grown, Steps Act.Grows (r.setState (.present owner)) grown
      ∧ r.enter owner = grown.emit .serviceUp r.session.config.rootPath (.owner owner) := by
  obtain ⟨ready, prepares, _, entered⟩ := enter_prepares owner r
  have fetched : Steps Act.Grows ready (Attempt.sync r.session.config.rootPath none ready).2 :=
    Attempt.sync_sends.steps
  exact ⟨_, (prepares.mono Act.Prepares.grows).trans fetched, entered⟩

/-- An owner that comes finds what it finds, and the root. -/
theorem enter_registers {owner : String} {r : Run} {p : Path} {e : Element}
    (here : (r.enter owner).session.element? p = some e) :
    (∃ e₀, r.session.element? p = some e₀ ∧ e₀.SameOrigin e)
      ∨ p = r.session.config.rootPath ∧ e.interface = r.session.config.rootInterface
        ∧ e.parent = none := by
  let root := r.session.config.rootPath
  let blank : Element := { interface := r.session.config.rootInterface }
  let r₁ := r.setState (.present owner)
  let r₂ := (r₁.getOrCreate root blank).2
  have registered : Steps Act.Prepares r₁ r₂ := getOrCreate_prepares none 0 rfl
  have subscribed : Steps Act.Subscribes r₂ (r₂.subscribeLifecycle r₂.session.config.rootPath) := by
    apply subscribeLifecycle_steps
    unfold Session.state
    rw [(registered.mono Act.Prepares.grows).ownership_eq]
    rfl
  rw [show r₂.session.config.rootPath = root from
    congrArg Config.rootPath registered.sameSetup.config] at subscribed
  obtain ⟨e₃, fetched, origin₃⟩ := Attempt.sync_sends.registered_before here
  obtain ⟨e₂, made, origin₂⟩ := subscribed.registered_before
    (fun _ subscribes _ _ _ he => by subst he; exact subscribes) fetched
  have origin := origin₂.trans origin₃
  change (r₁.getOrCreate root blank).2.session.element? p = some e₂ at made
  unfold getOrCreate at made
  split at made
  · exact .inl ⟨e₂, made, origin⟩
  · rw [Session.element?_of_set (r₁.register_registry root blank)] at made
    split at made
    · rename_i self
      cases made
      exact .inr ⟨self, origin.interface, origin.parent⟩
    · exact .inl ⟨e₂, made, origin⟩

theorem enter_steps (owner : String) (r : Run) : Steps Act.Comes r (r.enter owner) := by
  obtain ⟨grown, grows, entered⟩ := enter_grows owner r
  have known : Steps Act.Comes r (r.setState (.present owner)) :=
    Steps.one (a := .setState (.present owner)) trivial trivial
  rw [entered]
  exact (known.trans (grows.mono Act.Grows.comes)).trans (emit_steps trivial (by decide) grown)

theorem ownerChanged_steps (oldOwner newOwner : String) (r : Run) :
    Steps Act.Comes r (r.ownerChanged oldOwner newOwner) := by
  unfold ownerChanged
  split
  · exact enter_steps _ r
  · exact exit_steps r
  · -- a new owner takes over: the old one's elements go first
    exact (exit_steps r).trans (enter_steps _ r.exit)
  · exact .refl

end Run

/-- Nothing is watched or asked while there is no user. -/
def Session.Idle (s : Session) : Prop :=
  s.users = 0 → s.ownership.watch = none ∧ s.ownership.query = none

namespace Run

theorem init_steps {r : Run} (idle : r.session.Idle) : Steps Operation.init.Takes r r.init := by
  have counted : Steps Operation.init.Takes r (r.setUsers (r.session.users + 1)) :=
    Steps.one (a := .setUsers (r.session.users + 1)) (.inl rfl) trivial
  unfold init
  dsimp only
  split
  · -- the first user finds nothing watched and nothing asked
    rename_i first
    obtain ⟨unwatched, unasked⟩ := idle (by omega)
    have watched : Steps Operation.init.Takes _ (r.setUsers (r.session.users + 1)).openWatch :=
      Steps.one (a := .openWatch) rfl unwatched
    have asked :
        Steps Operation.init.Takes _ (r.setUsers (r.session.users + 1)).openWatch.openQuery :=
      Steps.one (a := .openQuery) rfl unasked
    exact (counted.trans watched).trans asked
  · exact counted

theorem shutdown_steps (r : Run) : Steps Operation.shutdown.Takes r r.shutdown := by
  unfold shutdown
  split
  · exact .refl
  · let r₁ := r.setUsers 0
    have counted : Steps Operation.shutdown.Takes r r₁ :=
      Steps.one (a := .setUsers 0) (.inr rfl) trivial
    -- with an owner the service goes down first, and either way no element is left
    have left :
        Steps Act.Comes r₁ (if r₁.session.state.isPresent then r₁.exit else r₁.removeAll) := by
      split
      · exact exit_steps r₁
      · exact (removeAll_steps r₁).mono Act.Removes.comes
    have unwatched : ∀ q : Run, Steps Operation.shutdown.Takes q q.closeWatch := fun q =>
      Steps.one (a := .closeWatch) rfl trivial
    have unasked : ∀ q : Run, Steps Operation.shutdown.Takes q q.closeQuery := fun q =>
      Steps.one (a := .closeQuery) rfl trivial
    exact ((counted.trans (left.mono Act.Comes.taken)).trans (unwatched _)).trans (unasked _)
  · rename_i users _
    exact Steps.one (a := .setUsers _) (.inr rfl) trivial

/-! ## 3. Changes of properties -/

theorem emit_edits (path : Path) (name : String) (value : Option Value) (r : Run) :
    Steps (Act.Edits path) r (r.emit .elementUpdated path (.changed name value)) :=
  Steps.one (a := .emit .elementUpdated path (.changed name value)) rfl EventKind.noConfusion

theorem storeChange_edits {r : Run} {path : Path} (name : String) (value : Value)
    (given : Option Kind) (here : (r.session.element? path).isSome) :
    Steps (Act.Edits path) r (r.storeChange path name value given) := by
  have stored : Steps (Act.Edits path) r ((Act.store path name value given).perform r) :=
    Steps.one rfl here
  have followed : ∀ q : Run, Steps (Act.Edits path) q (q.cascade path (some name)) :=
    fun q => (cascade_steps q path (some name)).mono Act.Grows.edits
  exact (stored.trans (emit_edits path name (some value) _)).trans (followed _)

theorem change_apply (path : Path) (name : String) (value : Value) (given : Option Kind) (r : Run) :
    Attempt.change path name value given r =
      match r.session.element? path with
      | some _ => (.ok (), r.storeChange path name value given)
      | none => (.error (.staleReference path), r) := by
  unfold Attempt.change
  rw [Attempt.bind_apply, Attempt.check_apply]
  unfold Session.element
  cases r.session.element? path <;> rfl

theorem change_edits (path : Path) (name : String) (value : Value) (given : Option Kind) (r : Run) :
    Steps (Act.Edits path) r (Attempt.change path name value given r).2 := by
  rw [change_apply]
  cases here : r.session.element? path with
  | none => exact .refl
  | some e =>
    apply storeChange_edits
    rw [here]
    rfl

theorem invalidate_edits (path : Path) (name : String) (r : Run) :
    Steps (Act.Edits path) r (r.invalidate path name) := by
  unfold invalidate
  cases held : (r.session.element? path).bind fun e => Table.get? e.cache name with
  | none => exact .refl
  | some p =>
    -- only a property that has a value can lose it
    have dropped : Steps (Act.Edits path) r ((Act.drop path name).perform r) := by
      refine Steps.one rfl ?_
      show ((r.session.element? path).bind fun e => Table.get? e.cache name).isSome
      rw [held]
      rfl
    exact dropped.trans (emit_edits path name none _)

theorem applyChanges_edits (path : Path) (changes : PropertyChanges) (r : Run) :
    Steps (Act.Edits path) r (r.applyChanges path changes) := by
  unfold applyChanges
  cases r.session.element? path with
  | none => exact .refl
  | some e =>
    dsimp only
    split
    · have stored : ∀ (xs : List (String × Property)) (q : Run), Steps (Act.Edits path) q
          (xs.foldl (fun q p => (Attempt.change path p.1 p.2.value (some p.2.kind) q).2) q) :=
        Steps.loop fun q p => change_edits path p.1 p.2.value (some p.2.kind) q
      have dropped : ∀ q : Run, Steps (Act.Edits path) q
          (changes.invalidated.foldl (fun q name => q.invalidate path name) q) :=
        Steps.loop (fun q name => invalidate_edits path name q) _
      exact (stored _ r).trans (dropped _)
    · exact .refl

theorem change_steps (path : Path) (name : String) (value : Value) (given : Option Kind) (r : Run) :
    Steps Act.Changes r (Attempt.change path name value given r).2 :=
  (change_edits path name value given r).mono Act.Edits.changes

theorem applyChanges_steps (path : Path) (changes : PropertyChanges) (r : Run) :
    Steps Act.Changes r (r.applyChanges path changes) :=
  (applyChanges_edits path changes r).mono Act.Edits.changes

/-- A merge is followed by the event of the element and by what its properties name. -/
theorem mergeFetched_follows {P : Act → Prop} {r : Run} {path : Path} {e : Element}
    (here : r.session.element? path = some e) (fetched : Cache)
    (added : ∀ payload, P (.emit .elementAdded path payload))
    (updated : ∀ payload, P (.emit .elementUpdated path payload))
    (grows : ∀ a : Act, a.Grows → P a) :
    Steps P ((Act.merge path fetched).perform r) (r.mergeFetched path fetched) := by
  -- the first fetch of an element announces it, and a later one its update
  have told : ∀ q : Run, Steps P q
      (q.emit (if e.synced then EventKind.elementUpdated else .elementAdded) path
        (.snapshot (e.merge fetched).properties)) := by
    intro q
    split
    · exact emit_steps (updated _) (by decide) q
    · exact emit_steps (added _) (by decide) q
  unfold mergeFetched
  rw [here]
  exact (told _).trans ((cascade_steps _ path none).mono grows)

theorem mergeFetched_steps (path : Path) (fetched : Cache) (r : Run) :
    Steps Act.Changes r (r.mergeFetched path fetched) := by
  cases here : r.session.element? path with
  | none =>
    unfold mergeFetched
    rw [here]
    exact .refl
  | some e =>
    have merged : Steps Act.Changes r ((Act.merge path fetched).perform r) := by
      refine Steps.one trivial ?_
      show (r.session.element? path).isSome
      rw [here]
      rfl
    exact merged.trans (mergeFetched_follows here fetched (fun _ => trivial) (fun _ => trivial)
      Act.Grows.changes)

theorem applyLifecycle_steps (action : LifecycleAction) (target : Path) (r : Run) :
    Steps Act.Comes r (r.applyLifecycle action target) := by
  unfold applyLifecycle
  cases action with
  | added interface =>
    dsimp only
    split
    · rename_i open_
      exact (adopt_steps (Session.level_below_root open_)).mono Act.Grows.comes
    · exact .refl
  | removed => exact (remove_steps target r).mono Act.Removes.comes

/-! ## 4. Signals and replies -/

theorem handleSignal_steps {op : Operation} (writes : op.Writes) (subscription : SubscriptionId)
    (member : String) (args : List WireValue) (r : Run) :
    Steps op.Takes r (r.handleSignal subscription member args) := by
  unfold handleSignal
  split
  · exact .refl
  · exact .refl
  · split
    · exact (change_steps _ _ _ _ r).mono (Act.Changes.taken writes)
    · exact .refl
  · split
    · exact (applyChanges_steps _ _ r).mono (Act.Changes.taken writes)
    · exact .refl
  · split
    · exact (applyLifecycle_steps _ _ r).mono Act.Comes.taken
    · exact .refl
  · split
    · split
      · exact emit_steps trivial (by decide) r
      · exact .refl
    · exact .refl

theorem handleOwnerChanged_steps (subscription : SubscriptionId) (name oldOwner newOwner : String)
    (r : Run) : Steps Act.Comes r (r.handleOwnerChanged subscription name oldOwner newOwner) := by
  unfold handleOwnerChanged
  split
  · exact ownerChanged_steps oldOwner newOwner r
  · exact .refl

end Run

/-- What a completion is told of a reply: the decoded arguments, or why there are none. A fetched
set of properties has to be readable as such. -/
def CallPurpose.outcome (result : Except BusError (List WireValue)) :
    CallPurpose → Except BusError (List Value)
  | sync => do
      let wires ← result
      let _ ← WireValue.propertiesOfReply wires
      WireValue.decodeAll wires
  | call => do WireValue.decodeAll (← result)

theorem CallPurpose.outcome_sync (result : Except BusError (List WireValue)) :
    CallPurpose.sync.outcome result = (fetchedOf result).map Prod.snd := by
  cases result with
  | error e => rfl
  | ok wires =>
    show (WireValue.propertiesOfReply wires >>= fun _ => WireValue.decodeAll wires) =
      Except.map Prod.snd (WireValue.propertiesOfReply wires >>= fun fetched =>
        WireValue.decodeAll wires >>= fun args => pure (fetched, args))
    cases WireValue.propertiesOfReply wires with
    | error e => rfl
    | ok fetched =>
      show WireValue.decodeAll wires = Except.map Prod.snd
        (WireValue.decodeAll wires >>= fun args => pure (fetched, args))
      cases WireValue.decodeAll wires <;> rfl

namespace Run

theorem handleReply_of_none {r : Run} {call : CallId}
    (unrouted : Table.get? r.session.callRoutes call = none)
    (result : Except BusError (List WireValue)) : r.handleReply call result = r := by
  unfold handleReply
  rw [unrouted]

/-- The answer to the question who owns the name: the question is settled, then the service may
come. -/
theorem handleReply_query {r : Run} {call : CallId}
    (routed : Table.get? r.session.callRoutes call = some .nameOwner)
    (asked : r.session.ownership.query = some call) (result : Except BusError (List WireValue)) :
    r.handleReply call result =
      match result >>= WireValue.decodeAll with
      | .ok (.string owner :: _) =>
          if owner.isEmpty then (Act.answerQuery call).perform r
          else ((Act.answerQuery call).perform r).ownerChanged "" owner
      | _ => (Act.answerQuery call).perform r := by
  unfold handleReply
  rw [routed]
  dsimp only
  unfold finishQuery
  split
  · rfl
  · rename_i other
    exact absurd asked other

theorem handleReply_query_steps {r : Run} {call : CallId}
    (routed : Table.get? r.session.callRoutes call = some .nameOwner)
    (asked : r.session.ownership.query = some call) (result : Except BusError (List WireValue)) :
    Steps Act.Comes ((Act.answerQuery call).perform r) (r.handleReply call result) := by
  rw [handleReply_query routed asked]
  split
  · split
    · exact .refl
    · exact ownerChanged_steps "" _ _
  · exact .refl

/-- The reply to a call of an element: the slot is freed, a fetch is merged, and the completion is
told the outcome. -/
theorem handleReply_call {r : Run} {call : CallId} {path : Path} {kind : CallKind}
    {purpose : CallPurpose} {completion : Option Completion}
    (routed : Table.get? r.session.callRoutes call = some (.element path kind purpose))
    (held : r.session.slot? path kind = some ⟨call, completion⟩)
    (result : Except BusError (List WireValue)) :
    r.handleReply call result =
      (match purpose, fetchedOf result with
        | .sync, .ok (fetched, _) =>
            ((Act.answer call path kind).perform r).mergeFetched path fetched
        | _, _ => (Act.answer call path kind).perform r).complete completion
          (purpose.outcome result) := by
  -- the route is taken away first, which the slot does not depend on
  obtain ⟨e, here, hslot⟩ := Session.look_eq_some.mp held
  have found : (((r.update fun s => { s with
      callRoutes := Table.erase s.callRoutes call }).session.element? path).bind
        fun e => e.slot? kind call) = some ⟨call, completion⟩ := by
    show ((r.session.element? path).bind fun e => e.slot? kind call) = _
    rw [here, Option.bind_some]
    unfold Element.slot?
    rw [hslot, Option.filter_some, if_pos (by simp)]
  unfold handleReply
  rw [routed]
  dsimp only
  unfold finishCall
  rw [found]
  dsimp only
  cases purpose with
  | call => rfl
  | sync =>
    dsimp only
    unfold finishSync
    cases hf : fetchedOf result with
    | error error =>
      rw [CallPurpose.outcome_sync, hf]
      rfl
    | ok both =>
      rw [CallPurpose.outcome_sync, hf]
      rfl

/-- A reply that is heard takes an answer first and tells its completion last. -/
theorem handleReply_call_steps {r : Run} {call : CallId} {path : Path} {kind : CallKind}
    {purpose : CallPurpose} {completion : Option Completion}
    (routed : Table.get? r.session.callRoutes call = some (.element path kind purpose))
    (held : r.session.slot? path kind = some ⟨call, completion⟩)
    (result : Except BusError (List WireValue)) :
    ∃ r₁, Steps Act.Changes ((Act.answer call path kind).perform r) r₁
      ∧ r.handleReply call result = r₁.complete completion (purpose.outcome result) := by
  refine ⟨_, ?_, handleReply_call routed held result⟩
  split
  · exact mergeFetched_steps path _ _
  · exact .refl

end Run

/-! ## 5. Operations -/

namespace Operation

theorem place?_isSome {op : Operation} {c : Completion} (h : op.completion? = some c) :
    ∃ path kind purpose, op.place? = some (path, kind, purpose) := by
  cases op <;> first | exact ⟨_, _, _, rfl⟩ | cases h

/-- An operation with a place fails and changes nothing, or sends its call there. -/
theorem perform_sends {op : Operation} {path : Path} {kind : CallKind} {purpose : CallPurpose}
    (h : op.place? = some (path, kind, purpose)) (r : Run) :
    ∃ a : Attempt Unit, a.Sends path kind purpose op.completion? r
      ∧ op.perform r = silent a r := by
  cases op <;> cases h
  · exact ⟨_, Attempt.setProperty_sends _ _, rfl⟩
  · exact ⟨_, Attempt.setPropertyAs_sends _ _ _, rfl⟩
  · exact ⟨_, Attempt.call_sends _ _, rfl⟩
  · exact ⟨_, Attempt.callOn_sends _ _ _, rfl⟩
  · exact ⟨_, Attempt.sync_sends, rfl⟩

theorem perform_place_steps {op : Operation} {path : Path} {kind : CallKind}
    {purpose : CallPurpose} (h : op.place? = some (path, kind, purpose)) {P : Act → Prop}
    (subscribes : ∀ a, Act.Subscribes a → P a)
    (sends : ∀ call, P (.send path kind purpose op.completion? call)) (r : Run) :
    Steps P r (op.perform r).2 := by
  obtain ⟨a, hs, heq⟩ := perform_sends h r
  rw [heq, silent_apply]
  rcases hs with ⟨error, he⟩ | ⟨r₁, call, steps, enabled, ho⟩
  · rw [he]
    exact .refl
  · rw [ho]
    exact (steps.mono subscribes).trans
      (Steps.one (a := .send path kind purpose op.completion? call) (sends call) enabled)

theorem perform_dispatch (event : BusEvent) (r : Run) :
    (dispatch event).perform r = (.ok .done, r.dispatch event) := by
  show silent (Attempt.perform fun r => r.dispatch event) r = _
  rw [silent_apply]
  rfl

theorem perform_reply (r : Run) (call : CallId) (result : Except BusError (List WireValue)) :
    ((dispatch (.reply call result)).perform r).2 = r.handleReply call result := by
  rw [perform_dispatch]
  rfl

/-- The answer is read off the registered element and changes nothing. -/
theorem perform_create (path : Path) (interface : String) (r : Run) :
    ((create path interface).perform r).2 = (r.getOrCreate path { interface }).2 := by
  show ((Attempt.perform _ >>= _ : Attempt Answer) r).2 = _
  rw [Attempt.bind_apply, Attempt.perform_apply]
  dsimp only
  rw [Attempt.bind_apply, Attempt.check_apply]
  cases (r.getOrCreate path { interface }).2.session.element path <;> rfl

theorem perform_change (path : Path) (name : String) (value : Value) (r : Run) :
    ((change path name value).perform r).2 = (Attempt.change path name value none r).2 := by
  show (silent (Attempt.change path name value none) r).2 = _
  rw [silent_apply]

/-- The operation registers an element, asks for a call or subscribes, and that is all. -/
def Extends : Operation → Prop
  | create _ _ => True
  | setProperty _ _ _ _ => True
  | setPropertyAs _ _ _ _ _ => True
  | call _ _ _ _ _ => True
  | callOn _ _ _ _ _ _ => True
  | sync _ _ => True
  | syncRoot => True
  | subscribeSignal _ _ _ => True
  | _ => False

/-- Such an operation grows the session, but that it can send a call for its place. -/
theorem perform_extends {op : Operation} (h : op.Extends) {P : Act → Prop}
    (grows : ∀ a, Act.Grows a → P a)
    (sends : ∀ path kind purpose call, op.place? = some (path, kind, purpose) →
      P (.send path kind purpose op.completion? call)) (r : Run) :
    Steps P r (op.perform r).2 := by
  have placed : ∀ {path kind purpose}, op.place? = some (path, kind, purpose) →
      Steps P r (op.perform r).2 := fun h =>
    perform_place_steps h (fun a ha => grows a (Act.Subscribes.grows a ha))
      (fun call => sends _ _ _ call h) r
  cases op with
  | create path interface =>
    rw [perform_create]
    exact (Run.getOrCreate_steps none 0 rfl).mono grows
  | setProperty _ _ _ _ => exact placed rfl
  | setPropertyAs _ _ _ _ _ => exact placed rfl
  | call _ _ _ _ _ => exact placed rfl
  | callOn _ _ _ _ _ _ => exact placed rfl
  | sync _ _ => exact placed rfl
  | syncRoot =>
    show Steps P r (silent Attempt.syncRoot r).2
    rw [silent_apply]
    exact Attempt.syncRoot_sends.steps.mono grows
  | subscribeSignal path interface member =>
    show Steps P r (silent (Attempt.subscribeSignal path interface member) r).2
    rw [silent_apply]
    exact (Attempt.subscribeSignal_steps path interface member r).mono
      fun a ha => grows a (Act.Subscribes.grows a ha)
  | _ => exact h.elim

theorem perform_steps {r : Run} (idle : r.session.Idle) (op : Operation)
    (unheard : ∀ call result, op = .dispatch (.reply call result) →
      Table.get? r.session.callRoutes call = none) :
    Steps op.Takes r (op.perform r).2 := by
  by_cases extending : op.Extends
  · exact perform_extends extending Act.Grows.taken (fun _ _ _ _ place => .inr ⟨rfl, place⟩) r
  cases op with
  | init => exact Run.init_steps idle
  | shutdown => exact Run.shutdown_steps r
  | remove path =>
    exact ((Run.remove_steps path r).mono Act.Removes.comes).mono Act.Comes.taken
  | change path name value =>
    rw [perform_change]
    exact (Run.change_steps path name value none r).mono (Act.Changes.taken trivial)
  | setHandler kind handler => exact Steps.one (a := .setHandler kind handler) trivial trivial
  | relist order => exact Steps.one (a := .relist order) rfl trivial
  | dispatch event =>
    rw [perform_dispatch]
    cases event with
    | reply call result =>
      show Steps _ r (r.handleReply call result)
      rw [Run.handleReply_of_none (unheard call result rfl)]
      exact .refl
    | signal subscription path member args =>
      have writes : (dispatch (.signal subscription path member args)).Writes := trivial
      exact Run.handleSignal_steps writes subscription member args r
    | ownerChanged subscription name oldOwner newOwner =>
      exact (Run.handleOwnerChanged_steps subscription name oldOwner newOwner r).mono
        Act.Comes.taken
  | _ => exact absurd trivial extending

end Operation

end BusCache
