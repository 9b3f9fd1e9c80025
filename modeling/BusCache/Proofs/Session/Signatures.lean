import BusCache.Proofs.Decoding
import BusCache.Proofs.Session.Caches
import BusCache.Proofs.Session.Refusals
import BusCache.Proofs.Session.Routing

/-!
# Signatures — every cached property fits the kind it is held under

A property is received with a kind that accepts it, in a fetch or a change, or it is written by the
application without one. Then the kind before is kept as long as it accepts the new value, and the
natural kind of the value takes its place otherwise. So a value and its kind always fit each other,
and writing a value back is never refused for the signature that it is written under.
-/

namespace BusCache

/-! ## 1. What messages bring -/

/-- Whether the containers that an event carries hold what they declare. -/
def BusEvent.isTyped : BusEvent → Bool
  | reply _ (.ok args) => WireValue.allTyped args
  | reply _ (.error _) => true
  | signal _ _ _ args => WireValue.allTyped args
  | ownerChanged _ _ _ _ => true

def Operation.isTyped : Operation → Bool
  | dispatch event => event.isTyped
  | _ => true

theorem fetchedOf_fits {call : CallId} {result : Except BusError (List WireValue)}
    (typed : (BusEvent.reply call result).isTyped = true) :
    Yields (fun both => both.1.Fits) (fetchedOf result) := by
  cases result with
  | error e => exact .error e
  | ok args =>
    exact (WireValue.propertiesOfReply_fits typed).bind fun fetched fits =>
      .after fun _ => .ok fits

theorem propertyChangeOf_fits {args : List WireValue} (typed : WireValue.allTyped args = true) :
    Yields (fun change => ∀ name p, change = some (name, p) → p.Fits)
      (propertyChangeOf args) := by
  unfold propertyChangeOf
  split
  · rename_i name value
    simp only [WireValue.allTyped, Bool.and_true, Bool.and_eq_true] at typed
    refine .after fun name => (WireValue.decodeTyped_fits value typed.2).bind fun p fits => ?_
    split
    · apply Yields.ok
      rintro _ _ ⟨⟩
      exact fits
    · apply Yields.ok
      rintro _ _ ⟨⟩
  · apply Yields.ok
    rintro _ _ ⟨⟩

theorem propertyChangesOf_fits {args : List WireValue} (typed : WireValue.allTyped args = true) :
    Yields (fun changes => ∀ c, changes = some c → c.changed.Fits) (propertyChangesOf args) := by
  unfold propertyChangesOf
  split
  · rename_i interface changed rest
    simp only [WireValue.allTyped, Bool.and_eq_true] at typed
    refine .after fun interface => ?_
    refine (WireValue.decodeProperties_fits typed.2.1).bind fun changed fits => ?_
    -- what is invalidated has no values, whether it is told or missing
    cases rest <;>
    · refine .after fun invalidated => ?_
      dsimp only
      split
      · apply Yields.ok
        rintro _ ⟨⟩
        exact fits
      · apply Yields.ok
        rintro _ ⟨⟩
  · apply Yields.ok
    rintro _ ⟨⟩

theorem Listing.entries_fit (l : Listing) {c : Cache} (fits : c.Fits) :
    Cache.Fits (l.entries c) := by
  intro entry mem
  obtain ⟨name, _, found⟩ := List.mem_filterMap.mp mem
  obtain ⟨p, held, rfl⟩ := Option.map_eq_some_iff.mp found
  exact fits.of_get? held

/-! ## 2. Values and kinds apart

A cache can be taken for two tables, one of values and one of kinds. They are written side by side,
and what is written to one of them depends on that one and on what is given. As every write is to
both of them, they have the same properties in every session that a history leads to.
-/

/-- The kinds that properties are cached with. -/
def Cache.kinds (c : Cache) : Table String Kind := Table.mapValues Property.kind c

namespace Element

variable (e : Element)

theorem setProperty_apart (name : String) (value : Value) (given : Option Kind) :
    (e.setProperty name value given).properties = Table.set e.properties name value
    ∧ (e.setProperty name value given).cache.kinds = Table.set e.cache.kinds name
        (given.getD (((Table.get? e.cache.kinds name).filter (·.accepts value)).getD
          value.kind)) := by
  have kind : kindFor (Table.get? e.cache name) value given =
      given.getD (((Table.get? e.cache.kinds name).filter (·.accepts value)).getD value.kind) := by
    unfold Cache.kinds
    rw [Table.get?_mapValues]
    cases given with
    | some k => rfl
    | none =>
      cases Table.get? e.cache name with
      | none => rfl
      | some p =>
        -- both sides ask the kind before whether it accepts the value
        show (if p.kind.accepts value then p.kind else value.kind) =
          (Option.filter _ (some p.kind)).getD value.kind
        rw [Option.filter_some]
        split <;> rfl
  rw [← kind]
  exact ⟨Table.mapValues_set Property.value e.cache name _,
    Table.mapValues_set Property.kind e.cache name _⟩

theorem removeProperty_apart (name : String) :
    (e.removeProperty name).properties = Table.erase e.properties name
    ∧ (e.removeProperty name).cache.kinds = Table.erase e.cache.kinds name :=
  ⟨Table.mapValues_erase Property.value e.cache name,
    Table.mapValues_erase Property.kind e.cache name⟩

theorem merge_apart (fetched : Cache) :
    (e.merge fetched).properties =
      fetched.properties.foldl (fun t p => Table.set t p.1 p.2) e.properties
    ∧ (e.merge fetched).cache.kinds =
      fetched.kinds.foldl (fun t p => Table.set t p.1 p.2) e.cache.kinds := by
  have merged : ∀ {α : Type} (f : Property → α) (into : Cache),
      Table.mapValues f (fetched.foldl (fun c p => Table.set c p.1 p.2) into) =
        (Table.mapValues f fetched).foldl (fun t p => Table.set t p.1 p.2)
          (Table.mapValues f into) := by
    intro α f
    induction fetched with
    | nil => exact fun _ => rfl
    | cons p rest ih =>
      intro into
      show Table.mapValues f (List.foldl _ (Table.set into p.1 p.2) rest) =
        List.foldl _ (Table.set (Table.mapValues f into) p.1 (f p.2)) (Table.mapValues f rest)
      rw [ih, Table.mapValues_set]
  exact ⟨merged Property.value e.cache, merged Property.kind e.cache⟩

/-- The properties that have a value are those that have a kind. -/
def Paired (e : Element) : Prop := Table.SameKeys e.properties e.cache.kinds

namespace Paired

variable {e : Element}

theorem setProperty (h : e.Paired) (name : String) (value : Value) (given : Option Kind) :
    (e.setProperty name value given).Paired := by
  obtain ⟨values, kinds⟩ := e.setProperty_apart name value given
  unfold Paired
  rw [values, kinds]
  exact h.set name value _

theorem removeProperty (h : e.Paired) (name : String) : (e.removeProperty name).Paired := by
  obtain ⟨values, kinds⟩ := e.removeProperty_apart name
  unfold Paired
  rw [values, kinds]
  exact h.erase name

theorem merge (h : e.Paired) (fetched : Cache) : (e.merge fetched).Paired := by
  obtain ⟨values, kinds⟩ := e.merge_apart fetched
  unfold Paired
  rw [values, kinds]
  exact h.foldl_set Property.value Property.kind fetched

end Paired

end Element

def Session.Paired (s : Session) : Prop := ∀ path e, s.element? path = some e → e.Paired

theorem Act.paired {r : Run} (paired : r.session.Paired) (a : Act) :
    (a.perform r).session.Paired := by
  intro p e here
  rcases element?_origin here with ⟨_, _, _, -, rfl⟩ | ⟨e₀, before, rfl | revised⟩
  · exact .nil
  · exact paired p e before
  · have before := paired p e₀ before
    cases a with
    | merge path fetched => exact revised.2 ▸ before.merge fetched
    | store path name value given => exact revised.2 ▸ before.setProperty name value given
    | drop path name => exact revised.2 ▸ before.removeProperty name
    | _ => first | exact revised.elim | exact revised.2 ▸ before

theorem Run.performAll_paired {r : Run} (sound : r.session.Sound) (paired : r.session.Paired)
    (ops : List Operation) : (r.performAll ops).session.Paired :=
  (performAll_acts sound ops).preserves (I := fun q => q.session.Paired)
    (fun _ a _ _ paired => a.paired paired) paired

/-! ## 3. What is written -/

namespace Element

/-- Under a kind that accepts it, or without one, a value is held under a kind that accepts it. -/
theorem kindFor_fits (previous : Option Property) {value : Value} {given : Option Kind}
    (accepted : ∀ k, given = some k → k.accepts value = true) :
    Property.Fits ⟨value, kindFor previous value given⟩ := by
  show (kindFor previous value given).accepts value = true
  cases given with
  | some k => exact accepted k rfl
  | none =>
    cases previous with
    | none => exact value.kind_accepts
    | some p =>
      unfold kindFor
      dsimp only
      split
      · rename_i kept
        exact kept
      · exact value.kind_accepts

end Element

/-- Every cached property of every element fits. -/
def Session.Fitting (s : Session) : Prop := ∀ path e, s.element? path = some e → e.cache.Fits

/-- An act keeps this if what it writes fits. -/
theorem Act.fitting {a : Act} {r : Run} (fitting : r.session.Fitting)
    (merged : ∀ path fetched, a = .merge path fetched → fetched.Fits)
    (stored : ∀ path name value given, a = .store path name value given →
      ∀ k, given = some k → k.accepts value = true) : (a.perform r).session.Fitting := by
  intro p e here
  rcases element?_origin here with ⟨_, _, _, -, rfl⟩ | ⟨e₀, before, rfl | revised⟩
  · exact .empty
  · exact fitting p e before
  · have fits := fitting p e₀ before
    cases a with
    | merge path fetched => exact revised.2 ▸ fits.merge (merged path fetched rfl)
    | store path name value given =>
      obtain ⟨rfl, rfl⟩ := revised
      exact fits.set (Element.kindFor_fits _ (stored path name value given rfl)) name
    | drop path name => exact revised.2 ▸ fits.erase name
    | _ => first | exact revised.elim | exact revised.2 ▸ fits

theorem Steps.quiet_fitting {r r' : Run} (h : Steps Act.Quiet r r')
    (fitting : r.session.Fitting) : r'.session.Fitting := by
  apply h.preserves (I := fun q => q.session.Fitting) _ fitting
  intro q a quiet _ fitting
  apply Act.fitting fitting
  · rintro path fetched rfl
    exact quiet.elim
  · rintro path name value given rfl
    exact quiet.elim

namespace Run

variable {r : Run} {path : Path}

theorem cascade_fitting (changed : Option String) (fitting : r.session.Fitting) :
    (r.cascade path changed).session.Fitting :=
  ((cascade_steps r path changed).mono fun _ => Act.Grows.quiet).quiet_fitting fitting

theorem change_fitting (fitting : r.session.Fitting) (name : String) {value : Value}
    {given : Option Kind} (accepted : ∀ k, given = some k → k.accepts value = true) :
    (Attempt.change path name value given r).2.session.Fitting := by
  rw [change_apply]
  split
  · have stored : ((Act.store path name value given).perform r).session.Fitting := by
      apply Act.fitting fitting
      · rintro _ _ ⟨⟩
      · rintro _ _ _ _ ⟨⟩
        exact accepted
    exact cascade_fitting (some name) (r := ((Act.store path name value given).perform r).emit
      .elementUpdated path (.changed name (some value))) stored
  · exact fitting

theorem invalidate_fitting (fitting : r.session.Fitting) (name : String) :
    (r.invalidate path name).session.Fitting := by
  unfold invalidate
  split
  · exact fitting
  · apply Act.fitting (a := .drop path name) fitting
    · rintro _ _ ⟨⟩
    · rintro _ _ _ _ ⟨⟩

theorem applyChanges_fitting (fitting : r.session.Fitting) {changes : PropertyChanges}
    (fits : changes.changed.Fits) : (r.applyChanges path changes).session.Fitting := by
  unfold applyChanges
  split
  · exact fitting
  · split
    · have stored : Session.Fitting ((r.session.listing.entries changes.changed).foldl
          (fun q p => (Attempt.change path p.1 p.2.value (some p.2.kind) q).2) r).session := by
        apply List.foldlRecOn (motive := fun q : Run => q.session.Fitting) _ _ fitting
        intro q fitting entry mem
        apply change_fitting fitting
        rintro _ ⟨⟩
        exact r.session.listing.entries_fit fits entry mem
      apply List.foldlRecOn (motive := fun q : Run => q.session.Fitting) _ _ stored
      exact fun q fitting name _ => invalidate_fitting fitting name
    · exact fitting

theorem mergeFetched_fitting (fitting : r.session.Fitting) {fetched : Cache}
    (fits : fetched.Fits) : (r.mergeFetched path fetched).session.Fitting := by
  unfold mergeFetched
  split
  · exact fitting
  · have merged : ((Act.merge path fetched).perform r).session.Fitting := by
      apply Act.fitting fitting
      · rintro _ _ ⟨⟩
        exact fits
      · rintro _ _ _ _ ⟨⟩
    exact cascade_fitting none merged

end Run

/-! ## 4. Operations -/

namespace Run

variable {r : Run}

theorem handleSignal_fitting (fitting : r.session.Fitting) (subscription : SubscriptionId)
    (member : String) {args : List WireValue} (typed : WireValue.allTyped args = true) :
    (r.handleSignal subscription member args).session.Fitting := by
  unfold handleSignal
  split
  · exact fitting
  · exact fitting
  · split
    · rename_i name p told
      apply change_fitting fitting
      rintro _ ⟨⟩
      exact propertyChangeOf_fits typed _ told name p rfl
    · exact fitting
  · split
    · rename_i changes told
      exact applyChanges_fitting fitting (propertyChangesOf_fits typed _ told changes rfl)
    · exact fitting
  · split
    · have comes := applyLifecycle_steps (r := r)
      exact ((comes _ _).mono fun _ => Act.Comes.quiet).quiet_fitting fitting
    · exact fitting
  · split
    · split
      · exact fitting
      · exact fitting
    · exact fitting

theorem handleReply_fitting (fitting : r.session.Fitting) {call : CallId} {path : Path}
    {kind : CallKind} {purpose : CallPurpose} {completion : Option Completion}
    (routed : Table.get? r.session.callRoutes call = some (.element path kind purpose))
    (held : r.session.slot? path kind = some ⟨call, completion⟩)
    {result : Except BusError (List WireValue)}
    (typed : (BusEvent.reply call result).isTyped = true) :
    (r.handleReply call result).session.Fitting := by
  have taken : Steps Act.Quiet r ((Act.answer call path kind).perform r) :=
    Steps.one trivial (Act.answer_enabled routed held)
  have answered := taken.quiet_fitting fitting
  rw [handleReply_call routed held, complete_session]
  split
  · rename_i fetched args told
    exact mergeFetched_fitting answered (fetchedOf_fits typed _ told)
  · exact answered

end Run

namespace Operation

theorem Takes.quiet {op : Operation} (reads : ¬ op.Writes) (a : Act) (h : op.Takes a) :
    a.Quiet := by
  cases a <;> first | exact reads h | trivial

theorem perform_fitting {r : Run} (sound : r.session.Sound) (fitting : r.session.Fitting)
    {op : Operation} (typed : op.isTyped = true) : (op.perform r).2.session.Fitting := by
  cases op.course sound with
  | own steps unheard =>
    by_cases writes : op.Writes
    · cases op with
      | change path name value =>
        rw [perform_change]
        apply Run.change_fitting fitting
        rintro _ ⟨⟩
      | dispatch event =>
        cases event with
        | signal subscription path member args =>
          rw [perform_dispatch]
          exact Run.handleSignal_fitting fitting subscription member typed
        | _ => exact writes.elim
      | _ => exact writes.elim
    · exact (steps.mono (Takes.quiet writes)).quiet_fitting fitting
  | query call result reply enabled steps =>
    have settled : Steps Act.Quiet r ((Act.answerQuery call).perform r) :=
      Steps.one trivial enabled
    exact (settled.trans (steps.mono fun _ => Act.Comes.quiet)).quiet_fitting fitting
  | call call result path kind purpose completion r₁ reply routed held steps after =>
    subst reply
    rw [perform_reply]
    exact Run.handleReply_fitting fitting routed held typed

end Operation

theorem Run.performAll_fitting {r : Run} (sound : r.session.Sound) (fitting : r.session.Fitting)
    {ops : List Operation} (typed : ∀ op ∈ ops, op.isTyped = true) :
    (r.performAll ops).session.Fitting := by
  -- on the last operation, as only the operations performed have to be typed
  induction ops using List.reverseRecOn with
  | nil => exact fitting
  | append_singleton ops op ih =>
    rw [performAll_concat]
    apply Operation.perform_fitting (performAll_sound sound ops)
    · exact ih fun earlier mem => typed earlier (List.mem_append_left _ mem)
    · exact typed op (List.mem_append_right _ (List.mem_singleton_self op))

/-! ## 5. Writing a property back -/

theorem Element.property_ok {e : Element} {name : String} {value : Value} :
    e.property name = .ok value ↔ ∃ kind, Table.get? e.cache name = some ⟨value, kind⟩ := by
  unfold property
  cases Table.get? e.cache name with
  | none => simp
  | some p =>
    obtain ⟨held, kind⟩ := p
    simp

theorem Element.signature_ok {e : Element} {name : String} {kind : Kind} :
    e.signature name = .ok kind ↔ ∃ value, Table.get? e.cache name = some ⟨value, kind⟩ := by
  unfold signature
  cases Table.get? e.cache name with
  | none => simp
  | some p =>
    obtain ⟨value, held⟩ := p
    simp

/-- A value that fits is written back, or its element is not available, or the bus cannot carry
it. -/
theorem Operation.setProperty_own_fails {s : Session} {path : Path} {e : Element} {name : String}
    {value : Value} {kind : Kind} (here : s.element? path = some e)
    (signature : e.signature name = .ok kind) (accepted : kind.accepts value = true)
    (completion : Option Completion) :
    OnlyFails (fun error => error.Unavailable ∨ error.Unsendable)
      ((setProperty path name value completion).check s) := by
  have encodes : OnlyFails BusError.Unsendable (value.encode kind) := by
    intro error failed
    rcases Value.encode_error failed with ⟨refused, _⟩ | ⟨_, unsendable⟩
    · rw [accepted] at refused
      cases refused
    · exact unsendable
  have given : (setProperty path name value completion).checkArguments s =
      value.encode kind >>= fun _ => .ok () := by
    show (s.element path >>= fun e => e.signature name >>= fun kind =>
      value.encode kind >>= fun _ => pure ()) = _
    rw [Session.element_eq here]
    show (e.signature name >>= _) = _
    rw [signature]
    rfl
  unfold check
  rw [given]
  refine ((encodes.bind fun _ _ => .ok ()).mono fun _ => .inr).bind fun _ _ => ?_
  exact (s.admitCall_fails path .propertySet).mono fun _ => .inl

/-- What is not available or cannot be carried is not missing, and its signature fits. -/
theorem BusError.apart {error : BusError} (h : error.Unavailable ∨ error.Unsendable) :
    (∀ missing, error ≠ .notFound missing)
      ∧ ∀ expected found, error ≠ .signatureMismatch expected found := by
  constructor
  · rintro _ rfl
    exact h.elim id id
  · rintro _ _ rfl
    exact h.elim id id

/-- Every cached property has a signature that fits it, in every session that a history leads to,
provided that what comes over the bus holds what it declares. The properties of an element that have
a value are those that have a signature, and the signature of each accepts its value, whether it
came with a fetch or a change, or was written without a signature, and whatever lost its value in
between. So writing back the value that a property has never fails for want of a property, or
because the signature does not fit. -/
theorem signatures_fit_values (config : Config) (numbering : Numbering) (listing : Listing)
    (ops : List Operation) (typed : ∀ op ∈ ops, op.isTyped = true) :
    let r := (Run.start config numbering listing).performAll ops
    ∀ path e, r.session.element? path = some e →
      (∀ name, (∃ value, Table.get? e.properties name = some value) ↔
          ∃ kind, Table.get? e.cache.kinds name = some kind)
      ∧ (∀ name value kind, e.property name = .ok value → e.signature name = .ok kind →
          kind.accepts value = true)
      ∧ ∀ name value completion error, e.property name = .ok value →
          ((Operation.setProperty path name value completion).perform r).1 = .error error →
          (∀ missing, error ≠ .notFound missing)
            ∧ ∀ expected found, error ≠ .signatureMismatch expected found := by
  intro r path e here
  have started := Run.start_sound config numbering listing
  have paired : r.session.Paired := by
    apply Run.performAll_paired started
    intro _ _ none
    cases none
  have fitting : r.session.Fitting := by
    apply Run.performAll_fitting started _ typed
    intro _ _ none
    cases none
  have fits : ∀ {name value kind}, Table.get? e.cache name = some ⟨value, kind⟩ →
      kind.accepts value = true := fun held => (fitting path e here).of_get? held
  refine ⟨fun name => ?_, fun name value kind property signature => ?_,
    fun name value completion error property failed => ?_⟩
  · rw [← Option.isSome_iff_exists, ← Option.isSome_iff_exists]
    exact paired path e here name
  · obtain ⟨own, held⟩ := Element.property_ok.mp property
    obtain ⟨same, stored⟩ := Element.signature_ok.mp signature
    rw [held] at stored
    cases stored
    exact fits held
  · obtain ⟨kind, held⟩ := Element.property_ok.mp property
    have signature := Element.signature_ok.mpr ⟨value, held⟩
    have fails := Operation.setProperty_own_fails here signature (fits held) completion
    exact BusError.apart (fails error (Operation.check_of_failed failed))

/-- The application empties a list of paths. On its own, an empty list is one of variants, but it is
held under the signature that the list was announced with. -/
theorem emptied_list_keeps_signature :
    let config : Config :=
      { service := "net.connman", rootPath := "/", rootInterface := "net.connman.Manager",
        protocol := .legacy }
    let ops : List Operation :=
      [.init, .dispatch (.ownerChanged ⟨1⟩ "net.connman" "" ":1.5"),
        .dispatch (.signal ⟨3⟩ "/" "PropertyChanged"
          [.string "Services", .variant (.array (.basic .objectPath) [.objectPath "/wifi"])]),
        .change "/" "Services" (.array [])]
    let r := (Run.start config .counting .ascending).performAll ops
    (∀ op ∈ ops, op.isTyped = true)
    ∧ (Value.array []).kind = .array .variant
    ∧ ∃ e, r.session.element? "/" = some e
      ∧ e.property "Services" = .ok (.array [])
      ∧ e.signature "Services" = .ok (.array (.basic .objectPath))
      ∧ (Kind.array (.basic .objectPath)).accepts (.array []) = true := by
  intro config ops
  have typed : ∀ op ∈ ops, op.isTyped = true := List.all_eq_true.mp (by subst ops; rfl)
  have evaluated :
      (((Run.start config .counting .ascending).performAll ops).session.element? "/").map
        (fun e => (e.property "Services", e.signature "Services")) =
          some (.ok (.array []), .ok (.array (.basic .objectPath))) := by subst config ops; rfl
  obtain ⟨e, here, both⟩ := Option.map_eq_some_iff.mp evaluated
  obtain ⟨property, signature⟩ := Prod.mk.inj both
  obtain ⟨_, fits, _⟩ :=
    signatures_fit_values config .counting .ascending ops typed "/" e here
  exact ⟨typed, rfl, e, here, property, signature, fits _ _ _ property signature⟩

end BusCache
