import BusCache.Proofs.Session.Independence
import BusCache.Proofs.Session.Signatures

/-!
# Held kinds — how long a property is held under the kind it was received with

A message brings a property together with a kind, and from then on whatever is cached for the
property is of this kind, until something writes to it. An operation either receives a delivery for
one element or writes to none, so what an operation writes can be read off the delivery.
-/

namespace BusCache

/-! ## 1. Acts -/

/-- Whatever is cached for a property of the element at a path is of a kind. -/
def Session.HeldUnder (s : Session) (path : Path) (name : String) (kind : Kind) : Prop :=
  ∀ e p, s.element? path = some e → Table.get? e.cache name = some p → p.kind = kind

namespace Act

variable {path : Path} {name : String} {kind : Kind} {a : Act} {r : Run}

/-- Writes to a property under a kind only, if at all. -/
def Under (path : Path) (name : String) (kind : Kind) : Act → Prop
  | merge p fetched => p = path → ∀ entry ∈ fetched, entry.1 = name → entry.2.kind = kind
  | store p n _ given => p = path → n = name → given = some kind
  | _ => True

/-- Writes a property. -/
def Settles (path : Path) (name : String) : Act → Prop
  | merge p fetched => p = path ∧ ∃ entry ∈ fetched, entry.1 = name
  | store p n _ _ => p = path ∧ n = name
  | _ => False

theorem Quiet.under (quiet : a.Quiet) : a.Under path name kind := by
  cases a <;> first | exact quiet.elim | trivial

/-- A property stays under its kind. -/
theorem Under.kept (under : a.Under path name kind) (held : r.session.HeldUnder path name kind) :
    (a.perform r).session.HeldUnder path name kind := by
  intro e p here cached
  rcases element?_origin here with ⟨_, _, _, -, rfl⟩ | ⟨e₀, before, rfl | revised⟩
  · cases cached
  · exact held e p before cached
  · have was := held e₀ p before
    cases a with
    | merge q fetched =>
      obtain ⟨rfl, rfl⟩ := revised
      rcases Table.get?_foldl_set_cases cached with new | ⟨_, old⟩
      · exact under rfl _ new rfl
      · exact was old
    | store q n value given =>
      obtain ⟨rfl, rfl⟩ := revised
      unfold Element.setProperty at cached
      rw [Table.get?_set] at cached
      split at cached
      · rename_i same
        cases cached
        rw [under rfl same.symm]
        rfl
      · exact was cached
    | drop q n =>
      obtain ⟨rfl, rfl⟩ := revised
      unfold Element.removeProperty at cached
      rw [Table.get?_erase] at cached
      split at cached
      · cases cached
      · exact was cached
    | _ =>
      first
      | exact revised.elim
      | obtain ⟨_, rfl⟩ := revised
        exact was cached

/-- A property comes under the kind that it is written under, whatever there was before. -/
theorem Settles.held (settles : a.Settles path name) (under : a.Under path name kind) :
    (a.perform r).session.HeldUnder path name kind := by
  intro e p here cached
  cases a with
  | merge q fetched =>
    obtain ⟨rfl, entry, mem, same⟩ := settles
    rw [Session.element?_of_modified (merge_registry q fetched r), if_pos rfl] at here
    obtain ⟨e₀, -, rfl⟩ := Option.map_eq_some_iff.mp here
    rcases Table.get?_foldl_set_cases cached with new | ⟨others, _⟩
    · exact under rfl _ new rfl
    · exact absurd same (others entry mem)
  | store q n value given =>
    obtain ⟨rfl, rfl⟩ := settles
    rw [Session.element?_of_modified (store_registry q n value given r), if_pos rfl] at here
    obtain ⟨e₀, -, rfl⟩ := Option.map_eq_some_iff.mp here
    unfold Element.setProperty at cached
    rw [Table.get?_set_self] at cached
    cases cached
    rw [under rfl rfl]
    rfl
  | _ => exact settles.elim

end Act

theorem Steps.heldUnder {path : Path} {name : String} {kind : Kind} {r r' : Run}
    (h : Steps (Act.Under path name kind) r r') (held : r.session.HeldUnder path name kind) :
    r'.session.HeldUnder path name kind :=
  h.preserves (I := fun q => q.session.HeldUnder path name kind)
    (fun _ _ under _ held => under.kept held) held

/-! ## 2. Deliveries -/

namespace Run

/-- What follows a write to a property writes to no other. -/
theorem storeChange_quiet (path : Path) (name : String) (value : Value) (given : Option Kind)
    (r : Run) :
    Steps Act.Quiet ((Act.store path name value given).perform r)
      (r.storeChange path name value given) := by
  have told : ∀ q : Run, Steps Act.Quiet q
      (q.emit .elementUpdated path (.changed name (some value))) :=
    fun q => emit_steps trivial (by decide) q
  exact (told _).trans ((cascade_steps _ path (some name)).mono fun _ => Act.Grows.quiet)

end Run

namespace Alteration

variable {path target : Path} {name : String} {kind : Kind}

/-- Writes to a property under a kind only, if at all. -/
def Under (name : String) (kind : Kind) : Alteration → Prop
  | write n _ given => n = name → given = some kind
  | drop _ => True

theorem Under.of_other {a : Alteration} (other : a.name ≠ name) : a.Under name kind := by
  cases a with
  | write n _ _ => exact fun same => absurd same other
  | drop _ => trivial

theorem perform_under (a : Alteration) (under : target = path → a.Under name kind) (r : Run) :
    Steps (Act.Under path name kind) r (a.perform target r) := by
  cases a with
  | write n value given =>
    show Steps _ r (Attempt.change target n value given r).2
    rw [Run.change_apply]
    cases here : r.session.element? target with
    | none => exact .refl
    | some e =>
      have stored : Steps (Act.Under path name kind) r
          ((Act.store target n value given).perform r) :=
        Steps.one under (Option.isSome_of_eq_some here)
      exact stored.trans ((r.storeChange_quiet target n value given).mono fun _ => Act.Quiet.under)
  | drop n =>
    show Steps _ r (r.invalidate target n)
    unfold Run.invalidate
    cases held : (r.session.element? target).bind fun e => Table.get? e.cache n with
    | none => exact .refl
    | some p =>
      have dropped : Steps (Act.Under path name kind) r ((Act.drop target n).perform r) :=
        Steps.one trivial (Option.isSome_of_eq_some held)
      exact dropped.trans (Run.emit_steps trivial (by decide) _)

theorem performAll_under {as : List Alteration}
    (under : target = path → ∀ a ∈ as, a.Under name kind) (r : Run) :
    Steps (Act.Under path name kind) r (as.foldl (fun q a => a.perform target q) r) := by
  induction as generalizing r with
  | nil => exact .refl
  | cons a rest ih =>
    have first := a.perform_under (fun same => under same a List.mem_cons_self) r
    exact first.trans (ih (fun same b mem => under same b (List.mem_cons_of_mem a mem)) _)

/-- A property comes under the kind that one of the alterations writes it under. -/
theorem performAll_held {as : List Alteration} (under : ∀ a ∈ as, a.Under name kind)
    {value : Value} (written : write name value (some kind) ∈ as) (r : Run) :
    (as.foldl (fun q a => a.perform path q) r).session.HeldUnder path name kind := by
  -- on the alterations: those before the write do not matter, and those after it keep the kind
  induction as generalizing r with
  | nil => cases written
  | cons a rest ih =>
    have later : ∀ b ∈ rest, b.Under name kind := fun b mem => under b (List.mem_cons_of_mem a mem)
    rcases List.mem_cons.mp written with rfl | written
    · apply (performAll_under (fun _ => later) _).heldUnder
      show (Attempt.change path name value (some kind) r).2.session.HeldUnder path name kind
      rw [Run.change_apply]
      cases here : r.session.element? path with
      | none =>
        intro e p registered _
        rw [here] at registered
        cases registered
      | some e =>
        have stored : ((Act.store path name value (some kind)).perform r).session.HeldUnder path
            name kind := Act.Settles.held ⟨rfl, rfl⟩ fun _ _ => rfl
        exact ((r.storeChange_quiet path name value (some kind)).mono
          fun _ => Act.Quiet.under).heldUnder stored
    · exact ih later written _

end Alteration

/-! ## 3. Operations -/

def Alteration.asWrite : Alteration → Write
  | write name value _ => ⟨name, some value⟩
  | drop name => ⟨name, none⟩

theorem Alteration.asWrite_name (a : Alteration) : a.asWrite.name = a.name := by
  cases a <;> rfl

/-- The writes that a delivery comes down to. -/
def Delivery.writes : Delivery → List Write
  | fetched _ properties _ => Write.values properties
  | altered as => as.map Alteration.asWrite

namespace Session.Receives

variable {r : Run} {op : Operation} {target path : Path} {d : Delivery} {name : String}
  {kind : Kind}

/-- An operation is accepted for the writes of the delivery that it brings. -/
theorem writes (h : r.session.Receives op path d) (sound : r.session.Sound) :
    r.session.writes path op = d.writes := by
  obtain ⟨e, here⟩ := h.registered sound
  rw [Session.writes_of_some here]
  cases h with
  | fetched routed read =>
    simp only [writesTo, routed, if_pos, Write.ofFetch_eq, read, Delivery.writes]
  | changed routed read =>
    simp only [writesTo, routed, if_pos, Write.ofChange_eq, read]
    rfl
  | changedAll routed read found interface =>
    rw [here] at found
    cases found
    simp only [writesTo, routed, if_pos, Write.ofChanges_eq, read, interface, Delivery.writes,
      PropertyChanges.alterations, List.map_append, List.map_map]
    rfl
  | passedOver routed read found interface =>
    rw [here] at found
    cases found
    simp only [writesTo, routed, if_pos, Write.ofChanges_eq, read, if_neg interface]
    rfl
  | applied _ =>
    simp only [writesTo, if_pos]
    rfl

/-- The reply to a fetch merges the properties, and does nothing to them before or after that. -/
theorem reply_steps {call : CallId} {slot : CallKind} {result : Except BusError (List WireValue)}
    {properties : Cache} {args : List Value} (sound : r.session.Sound)
    (routed : Table.get? r.session.callRoutes call = some (.element target slot .sync))
    (read : fetchedOf result = .ok (properties, args)) :
    ∃ q, Steps Act.Quiet r q ∧ (q.session.element? target).isSome
      ∧ Steps Act.Quiet ((Act.merge target properties).perform q) (r.handleReply call result) := by
  obtain ⟨⟨asked, completion⟩, held, same⟩ :=
    (sound.routed.calls.element call target slot).mp ⟨.sync, routed⟩
  dsimp only at same
  subst same
  have answered : Steps Act.Quiet r ((Act.answer asked target slot).perform r) :=
    Steps.one trivial (Act.answer_enabled routed held)
  have registered := Session.isSome_of_modified (Act.answer_registry asked target slot r)
    (Session.registered_of_look held)
  obtain ⟨e, here⟩ := Option.isSome_iff_exists.mp registered
  refine ⟨_, answered, registered, ?_⟩
  rw [Run.handleReply_call routed held, read]
  have followed := Run.mergeFetched_follows here properties (P := Act.Quiet) (fun _ => trivial)
    (fun _ => trivial) fun _ => Act.Grows.quiet
  refine followed.trans ((Run.complete_steps _ completion _).mono ?_)
  rintro a ⟨c, _, rfl⟩
  trivial

end Session.Receives

/-- Brings properties under a kind only, as far as one name is concerned. -/
def Delivery.Under (name : String) (kind : Kind) : Delivery → Prop
  | fetched _ properties _ => ∀ entry ∈ properties, entry.1 = name → entry.2.kind = kind
  | altered as => ∀ a ∈ as, a.Under name kind

/-- Brings a property under a kind. -/
def Delivery.Settles (name : String) (kind : Kind) : Delivery → Prop
  | fetched _ properties _ => ∃ entry ∈ properties, entry.1 = name
  | altered as => ∃ value, .write name value (some kind) ∈ as

theorem Delivery.under_of_unwritten {d : Delivery} {name : String}
    (unwritten : ∀ w ∈ d.writes, w.name ≠ name) (kind : Kind) : d.Under name kind := by
  cases d with
  | fetched _ properties _ =>
    intro entry mem same
    exact absurd same (unwritten _ (List.mem_map_of_mem mem))
  | altered as =>
    intro a mem
    apply Alteration.Under.of_other
    rw [← a.asWrite_name]
    exact unwritten _ (List.mem_map_of_mem mem)

namespace Session.Receives

variable {r : Run} {op : Operation} {target path : Path} {d : Delivery} {name : String}
  {kind : Kind}

theorem perform_under (h : r.session.Receives op target d) (sound : r.session.Sound)
    (under : target = path → d.Under name kind) :
    Steps (Act.Under path name kind) r (op.perform r).2 := by
  cases d with
  | altered as =>
    rw [h.altered_perform]
    exact Alteration.performAll_under under r
  | fetched slot properties args =>
    cases h with
    | fetched routed read =>
      obtain ⟨q, before, registered, after⟩ := reply_steps sound routed read
      rw [Operation.perform_reply]
      have merged : Steps (Act.Under path name kind) q
          ((Act.merge target properties).perform q) := Steps.one under registered
      exact ((before.mono fun _ => Act.Quiet.under).trans merged).trans
        (after.mono fun _ => Act.Quiet.under)

/-- A property comes under the kind that it is received with. -/
theorem perform_held (h : r.session.Receives op path d) (sound : r.session.Sound)
    (under : d.Under name kind) (settles : d.Settles name kind) :
    (op.perform r).2.session.HeldUnder path name kind := by
  cases d with
  | altered as =>
    obtain ⟨value, written⟩ := settles
    rw [h.altered_perform]
    exact Alteration.performAll_held under written r
  | fetched slot properties args =>
    cases h with
    | fetched routed read =>
      obtain ⟨q, -, -, after⟩ := reply_steps sound routed read
      rw [Operation.perform_reply]
      have merged : ((Act.merge path properties).perform q).session.HeldUnder path name kind :=
        Act.Settles.held ⟨rfl, settles⟩ fun _ => under
      exact (after.mono fun _ => Act.Quiet.under).heldUnder merged

end Session.Receives

namespace Operation

variable {r : Run}

/-- A signal that is no delivery writes nothing. -/
theorem signal_receives_or_quiet (sound : r.session.Sound) (subscription : SubscriptionId)
    (sender : Path) (member : String) (args : List WireValue) :
    (∃ path d, r.session.Receives (.dispatch (.signal subscription sender member args)) path d)
      ∨ Steps Act.Quiet r (r.handleSignal subscription member args) := by
  unfold Run.handleSignal
  split
  · exact .inr .refl
  · exact .inr .refl
  · rename_i path routed
    split
    · rename_i name p read
      exact .inl ⟨path, _, .changed routed read⟩
    · exact .inr .refl
  · rename_i path routed
    split
    · rename_i changes read
      obtain ⟨e, here⟩ := Option.isSome_iff_exists.mp (signalled_registered sound routed rfl)
      by_cases interface : e.interface = changes.interface
      · exact .inl ⟨path, _, .changedAll routed read here interface⟩
      · exact .inl ⟨path, _, .passedOver routed read here interface⟩
    · exact .inr .refl
  · split
    · exact .inr ((Run.applyLifecycle_steps _ _ r).mono fun _ => Act.Comes.quiet)
    · exact .inr .refl
  · split
    · split
      · exact .inr (Run.emit_steps trivial (by decide) r)
      · exact .inr .refl
    · exact .inr .refl

/-- An operation receives a delivery for an element, or writes to none. -/
theorem receives_or_quiet (sound : r.session.Sound) (op : Operation) :
    (∃ path d, r.session.Receives op path d) ∨ Steps Act.Quiet r (op.perform r).2 := by
  cases op.course sound with
  | own steps _ =>
    by_cases writes : op.Writes
    · cases op with
      | change path name value =>
        cases here : r.session.element? path with
        | some e => exact .inl ⟨path, _, .applied (Option.isSome_of_eq_some here)⟩
        | none =>
          rw [perform_change, Run.change_apply, here]
          exact .inr .refl
      | dispatch event =>
        cases event with
        | signal subscription sender member args =>
          rw [perform_signal]
          exact signal_receives_or_quiet sound subscription sender member args
        | _ => exact writes.elim
      | _ => exact writes.elim
    · exact .inr (steps.mono (Takes.quiet writes))
  | query call _ _ enabled steps =>
    have settled : Steps Act.Quiet r ((Act.answerQuery call).perform r) :=
      Steps.one trivial enabled
    exact .inr (settled.trans (steps.mono fun _ => Act.Comes.quiet))
  | call call result path kind purpose completion _ reply routed held _ _ =>
    subst reply
    have answered : Steps Act.Quiet r ((Act.answer call path kind).perform r) :=
      Steps.one trivial (Act.answer_enabled routed held)
    have told : ∀ q : Run, Steps Act.Quiet q
        (q.complete completion (purpose.outcome result)) := by
      refine fun q => (q.complete_steps completion _).mono ?_
      rintro a ⟨c, _, rfl⟩
      trivial
    rw [perform_reply]
    cases purpose with
    | call =>
      rw [Run.handleReply_call routed held]
      exact .inr (answered.trans (told _))
    | sync =>
      cases read : fetchedOf result with
      | ok both => exact .inl ⟨path, _, .fetched routed read⟩
      | error error =>
        rw [Run.handleReply_call routed held, read]
        exact .inr (answered.trans (told _))

/-- A property keeps its kind through an operation that does not write to it. -/
theorem perform_heldUnder (sound : r.session.Sound) {op : Operation} {path : Path} {name : String}
    {kind : Kind} (unwritten : ∀ w ∈ r.session.writes path op, w.name ≠ name)
    (held : r.session.HeldUnder path name kind) :
    (op.perform r).2.session.HeldUnder path name kind := by
  rcases op.receives_or_quiet sound with ⟨target, d, receives⟩ | quiet
  · apply (receives.perform_under sound _).heldUnder held
    rintro rfl
    apply Delivery.under_of_unwritten
    rwa [← receives.writes sound]
  · exact (quiet.mono fun _ => Act.Quiet.under).heldUnder held

end Operation

/-- A property keeps its kind as long as nothing writes to it. -/
theorem Run.performAll_heldUnder {r : Run} (sound : r.session.Sound) {ops : List Operation}
    {path : Path} {name : String} {kind : Kind}
    (unwritten : ∀ w ∈ r.writesSince path ops, w.name ≠ name)
    (held : r.session.HeldUnder path name kind) :
    (r.performAll ops).session.HeldUnder path name kind := by
  induction ops generalizing r with
  | nil => exact held
  | cons op rest ih =>
    rw [writesSince, List.forall_mem_append] at unwritten
    exact ih (op.perform_sound sound) unwritten.2 (op.perform_heldUnder sound unwritten.1 held)

end BusCache
