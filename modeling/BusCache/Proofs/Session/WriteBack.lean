import BusCache.Proofs.Recovery
import BusCache.Proofs.Session.BulkChanges
import BusCache.Proofs.Session.HeldKinds
import BusCache.Proofs.StringKeys

/-!
# Writing back — the signature that a property is written under

A property is written back under the kind that it was received with, as long as nothing else wrote
to it. The call then carries the new value in a variant, under the signature that the property
travelled with. Only the keys of dictionaries are different: a kind does not say what they were, and
they are sent as strings.
-/

namespace BusCache

/-! ## 1. What is received -/

namespace WireValue

/-- The value of the last entry for a name. -/
def LastEntry (entries : List (WireValue × WireValue)) (name : String) (w : WireValue) : Prop :=
  ∃ before key after, entries = before ++ (key, w) :: after ∧ key.keyText = .ok name
    ∧ ∀ e ∈ after, e.1.keyText ≠ .ok name

theorem unboxed_type_ne : (w : WireValue) → w.unboxed.type ≠ .variant
  | variant w => unboxed_type_ne w
  | scalar _ => nofun
  | string _ => nofun
  | objectPath _ => nofun
  | signature _ => nofun
  | array _ _ => nofun
  | dict _ _ _ => nofun
  | struct _ => nofun
  | handle _ => nofun

theorem kind_of_decodeTyped {w : WireValue} {p : Property} (read : w.decodeTyped = .ok p) :
    Kind.ofWireType? w.unboxed.type = some p.kind := by
  rw [decodeTyped_eq] at read
  split at read
  · cases read
  · rename_i kind held
    rw [held]
    cases decoded : w.decode with
    | error e => rw [decoded] at read; cases read
    | ok v =>
      rw [decoded] at read
      cases read
      rfl

theorem decodePropertyEntries_others {name : String} {es : List (WireValue × WireValue)}
    (others : ∀ e ∈ es, e.1.keyText ≠ .ok name) (into : Cache) :
    Yields (fun c => Table.get? c name = Table.get? into name)
      (decodePropertyEntries es into) := by
  induction es generalizing into with
  | nil => exact .ok rfl
  | cons e es ih =>
    obtain ⟨k, w⟩ := e
    obtain ⟨first, rest⟩ := List.forall_mem_cons.mp others
    rw [decodePropertyEntries]
    refine .bind (P := fun key => keyText k = .ok key) (fun _ h => h) fun key text => ?_
    refine .after fun p c read => ?_
    have other : name ≠ key := by
      rintro rfl
      exact first text
    rw [ih rest _ c read, Table.get?_set_of_ne _ _ other]

/-- The last entry for a name decides the property. -/
theorem decodePropertyEntries_last {name : String} {w : WireValue}
    {entries : List (WireValue × WireValue)} (last : LastEntry entries name w) (into : Cache) :
    Yields (fun c => ∃ p, decodeTyped w = .ok p ∧ Table.get? c name = some p)
      (decodePropertyEntries entries into) := by
  obtain ⟨before, k, after, rfl, key, others⟩ := last
  induction before generalizing into with
  | nil =>
    rw [List.nil_append, decodePropertyEntries, key]
    refine .bind (P := fun p => decodeTyped w = .ok p) (fun _ h => h) fun p typed c read => ?_
    refine ⟨p, typed, ?_⟩
    rw [decodePropertyEntries_others others _ c read, Table.get?_set_self]
  | cons e before ih => exact .after fun _ => .after fun _ => ih _

end WireValue

theorem fetchedOf_decoded {w : WireValue} {rest : List WireValue} {properties : Cache}
    {args : List Value} (read : fetchedOf (.ok (w :: rest)) = .ok (properties, args)) :
    w.decodeProperties = .ok properties := by
  have yields : Yields (fun both : Cache × List Value => w.decodeProperties = .ok both.1)
      (fetchedOf (.ok (w :: rest))) :=
    .bind (P := fun c => w.decodeProperties = .ok c) (fun _ h => h) fun c found =>
      .after fun _ => .ok found
  exact yields _ read

/-- A session receives, by an operation, a wire value for a property of the element at a path. -/
inductive Session.Obtains (s : Session) : Operation → Path → String → WireValue → Prop
  /-- In the answer to a fetch. -/
  | fetched {call : CallId} {path : Path} {kind : CallKind} {key value : WireType}
      {entries : List (WireValue × WireValue)} {rest : List WireValue} {properties : Cache}
      {args : List Value} {name : String} {w : WireValue}
      (routed : Table.get? s.callRoutes call = some (.element path kind .sync))
      (read : fetchedOf (.ok (.dict key value entries :: rest)) = .ok (properties, args))
      (last : WireValue.LastEntry entries name w) :
      s.Obtains (.dispatch (.reply call (.ok (.dict key value entries :: rest)))) path name w
  /-- In the announcement of a change of one property. -/
  | changed {subscription : SubscriptionId} {path sender : Path} {member : String}
      {text : WireValue} {name : String} {w : WireValue} {p : Property}
      (routed : Table.get? s.signalRoutes subscription = some (.propertyChanged path))
      (named : text.decode = .ok (.string name)) (read : w.decodeTyped = .ok p) :
      s.Obtains (.dispatch (.signal subscription sender member [text, w])) path name w
  /-- In the announcement of changes of several properties for the element's interface. -/
  | changedAll {subscription : SubscriptionId} {path sender : Path} {member : String}
      {interface : WireValue} {key value : WireType} {entries : List (WireValue × WireValue)}
      {rest : List WireValue} {changes : PropertyChanges} {e : Element} {name : String}
      {w : WireValue}
      (routed : Table.get? s.signalRoutes subscription = some (.propertiesChanged path))
      (read : propertyChangesOf (interface :: .dict key value entries :: rest) =
        .ok (some changes))
      (here : s.element? path = some e) (same : e.interface = changes.interface)
      (last : WireValue.LastEntry entries name w) :
      s.Obtains (.dispatch (.signal subscription sender member
        (interface :: .dict key value entries :: rest))) path name w

/-- Of the properties that are read, the one of the last entry for a name is the only one of the
name, and it is held under the kind of its type. -/
theorem WireValue.LastEntry.entry_iff {entries : List (WireValue × WireValue)} {name : String}
    {w : WireValue} (last : LastEntry entries name w) {key value : WireType} {c : Cache}
    (read : (WireValue.dict key value entries).decodeProperties = .ok c) :
    ∃ p, Kind.ofWireType? w.unboxed.type = some p.kind ∧ ∀ q, (name, q) ∈ c ↔ q = p := by
  obtain ⟨p, typed, found⟩ := decodePropertyEntries_last last [] c read
  refine ⟨p, kind_of_decodeTyped typed, fun q => ?_⟩
  rw [(decodeProperties_ordered _ c read).mem_iff, found]
  exact ⟨fun same => (Option.some.inj same).symm, fun same => same ▸ rfl⟩

/-- What is received for a property comes with a delivery that writes the property under the kind of
its type. -/
theorem Session.Obtains.receives {s : Session} {op : Operation} {path : Path} {name : String}
    {w : WireValue} (h : s.Obtains op path name w) :
    ∃ d kind, s.Receives op path d ∧ Kind.ofWireType? w.unboxed.type = some kind
      ∧ d.Under name kind ∧ d.Settles name kind := by
  cases h with
  | fetched routed read last =>
    obtain ⟨p, held, only⟩ := last.entry_iff (fetchedOf_decoded read)
    refine ⟨_, p.kind, .fetched routed read, held, ?_, (name, p), (only p).mpr rfl, rfl⟩
    rintro ⟨_, q⟩ mem rfl
    rw [(only q).mp mem]
  | @changed _ _ _ _ text _ _ p routed named read =>
    have told : propertyChangeOf [text, w] = .ok (some (name, p)) := by
      rw [propertyChangeOf_pair, named, read]
      rfl
    refine ⟨_, p.kind, .changed routed told, WireValue.kind_of_decodeTyped read, ?_, p.value,
      List.mem_cons_self⟩
    exact List.forall_mem_singleton.mpr fun _ => rfl
  | changedAll routed read here same last =>
    have changed := propertyChangesOf_decoded read
    obtain ⟨p, held, only⟩ := last.entry_iff changed
    have distinct := (WireValue.decodeProperties_ordered _ _ changed).distinct
    have listed := s.listing.entries_perm_self distinct
    refine ⟨_, p.kind, .changedAll routed read here same, held, ?_, p.value, ?_⟩
    · intro a mem
      rcases List.mem_append.mp mem with written | dropped
      · obtain ⟨⟨_, q⟩, entry, rfl⟩ := List.mem_map.mp written
        rintro rfl
        rw [(only q).mp (listed.mem_iff.mp entry)]
      · obtain ⟨_, _, rfl⟩ := List.mem_map.mp dropped
        trivial
    · exact List.mem_append_left _
        (List.mem_map.mpr ⟨(name, p), listed.mem_iff.mpr ((only p).mpr rfl), rfl⟩)

/-! ## 2. What is sent -/

namespace Attempt

variable {α β : Type} {r : Run}

theorem check_bind_ok {f : Session → Except BusError α} {next : α → Attempt Unit} {u : Unit}
    (ok : ((check f >>= next) r).1 = .ok u) :
    ∃ x, f r.session = .ok x ∧ (check f >>= next) r = next x r := by
  rw [check_bind_apply] at ok ⊢
  cases found : f r.session with
  | ok x => exact ⟨x, rfl, rfl⟩
  | error e =>
    rw [found] at ok
    cases ok

theorem startCall_ok {path : Path} {kind : CallKind} {purpose : CallPurpose}
    {completion : Option Completion} {build : Element → String → MethodCall} {u : Unit}
    (ok : (startCall path kind purpose completion build r).1 = .ok u) :
    ∃ e, r.session.element? path = some e
      ∧ (startCall path kind purpose completion build r).2 =
        r.sendCall path kind purpose completion (build e r.session.destination) := by
  unfold startCall at ok ⊢
  obtain ⟨_, -, present⟩ := check_bind_ok ok
  rw [present] at ok ⊢
  obtain ⟨e, here, found⟩ := check_bind_ok ok
  rw [found] at ok ⊢
  obtain ⟨_, -, admitted⟩ := check_bind_ok ok
  rw [admitted]
  exact ⟨e, Session.element_ok here, rfl⟩

/-- A write that is accepted has a value that can be encoded, and is sent. -/
theorem setPropertyAs_ok {path : Path} {name : String} {value : Value} {kind : Kind}
    {completion : Option Completion} {u : Unit}
    (ok : (setPropertyAs path name value kind completion r).1 = .ok u) :
    ∃ e w, r.session.element? path = some e ∧ value.encode kind = .ok w
      ∧ (setPropertyAs path name value kind completion r).2 =
        r.sendCall path .propertySet .call completion (r.session.config.protocol.write
          r.session.destination path e.interface name value kind) := by
  unfold setPropertyAs at ok ⊢
  obtain ⟨w, encoded, found⟩ := check_bind_ok ok
  rw [found] at ok ⊢
  obtain ⟨config, same, found⟩ := check_bind_ok ok
  rw [found] at ok ⊢
  obtain ⟨e, here, sent⟩ := startCall_ok ok
  cases same
  exact ⟨e, w, here, encoded, sent⟩

end Attempt

/-- A property that has a kind is written under it. -/
theorem Attempt.setProperty_signed {r : Run} {path : Path} {e : Element} {name : String}
    {kind : Kind} (here : r.session.element? path = some e) (signed : e.signature name = .ok kind)
    (value : Value) (completion : Option Completion) :
    setProperty path name value completion r = setPropertyAs path name value kind completion r := by
  unfold setProperty
  rw [check_bind_apply, Session.element_eq here]
  dsimp only
  rw [check_bind_apply, signed]

theorem Operation.silent_ok {a : Attempt Unit} {r : Run} {answer : Answer}
    (accepted : (silent a r).1 = .ok answer) : (a r).1 = .ok () := by
  rw [silent_apply] at accepted
  cases outcome : (a r).1 with
  | ok _ => rfl
  | error _ =>
    rw [outcome] at accepted
    cases accepted

/-- A write is sent under the kind that the property is held under, if the value can be encoded for
it and no other write is under way. -/
theorem Operation.perform_setProperty {r : Run} {path : Path} {e : Element} {name : String}
    {kind : Kind} {value : Value} {w : WireValue} (completion : Option Completion)
    (present : r.session.state.isPresent) (here : r.session.element? path = some e)
    (signed : e.signature name = .ok kind) (encoded : value.encode kind = .ok w)
    (free : r.session.slot? path .propertySet = none) :
    (setProperty path name value completion).perform r =
      (.ok .done, r.sendCall path .propertySet .call completion (r.session.config.protocol.write
        r.session.destination path e.interface name value kind)) := by
  show silent (Attempt.setProperty path name value completion) r = _
  rw [silent_apply, Attempt.setProperty_signed here signed]
  unfold Attempt.setPropertyAs
  rw [Attempt.check_bind_apply, encoded]
  dsimp only
  rw [Attempt.check_bind_apply]
  dsimp only
  rw [Attempt.startCall_eq present here free]
  rfl

/-- A write that is accepted is sent under the kind that the property is held under. -/
theorem Operation.setProperty_accepted {r : Run} {path : Path} {name : String} {value : Value}
    {completion : Option Completion} {answer : Answer}
    (accepted : ((setProperty path name value completion).perform r).1 = .ok answer) :
    ∃ e p w, r.session.element? path = some e ∧ Table.get? e.cache name = some p
      ∧ value.encode p.kind = .ok w
      ∧ ((setProperty path name value completion).perform r).2 =
        r.sendCall path .propertySet .call completion (r.session.config.protocol.write
          r.session.destination path e.interface name value p.kind) := by
  have ok : (Attempt.setProperty path name value completion r).1 = .ok () := silent_ok accepted
  have performed : ((setProperty path name value completion).perform r).2 =
      (Attempt.setProperty path name value completion r).2 :=
    congrArg Prod.snd (silent_apply (Attempt.setProperty path name value completion) r)
  rw [performed]
  unfold Attempt.setProperty at ok ⊢
  obtain ⟨e, known, found⟩ := Attempt.check_bind_ok ok
  rw [found] at ok ⊢
  obtain ⟨kind, signed, found⟩ := Attempt.check_bind_ok ok
  rw [found] at ok ⊢
  obtain ⟨e', w, here, encoded, sent⟩ := Attempt.setPropertyAs_ok ok
  obtain ⟨held, cached⟩ := Element.signature_ok.mp signed
  rw [Session.element_ok known] at here
  cases here
  exact ⟨e, ⟨held, kind⟩, w, Session.element_ok known, cached, encoded, sent⟩

/-- What a call writes is in its last argument. -/
theorem PropertyProtocol.write_getLast? (p : PropertyProtocol) (destination : String) (path : Path)
    (interface name : String) (value : Value) (kind : Kind) :
    (p.write destination path interface name value kind).args.getLast? =
      some (.variant value kind) := by
  cases p <;> rfl

/-- What is encoded under the kind of a type has the type, keys apart. -/
theorem Value.encode_type {value : Value} {kind : Kind} {inner : WireValue} {t : WireType}
    (sent : value.encode kind = .ok inner) (held : Kind.ofWireType? t = some kind)
    (typed : t ≠ .variant) : inner.type = t.stringKeyed := by
  have carried := encode_carries sent
  have known : kind ≠ .variant := by
    rintro rfl
    exact typed (Kind.eq_variant_of_held held)
  rw [if_neg known] at carried
  rw [carried.type_eq, Kind.toWireType_of_held t held]

/-- A property is written back under the signature that it was received with, the keys of its
dictionaries apart. Whatever a history brought for a property of an element, in the answer to a
fetch or in the announcement of a change, and whatever came since then but no other write to the
property: if the application sets the property and this is accepted, a call is sent whose last
argument is a variant. The value in the variant has the type of what was received, out of its
variants, but with strings for the keys of all dictionaries. So it has the very signature exactly
if no dictionary in it had keys of another type. -/
theorem write_keeps_signature_iff (config : Config) (numbering : Numbering) (listing : Listing)
    (before : List Operation) (op : Operation) (since : List Operation) (path : Path)
    (name : String) (w : WireValue) (value : Value) (completion : Option Completion)
    (answer : Answer)
    (obtained : ((Run.start config numbering listing).performAll before).session.Obtains op path
      name w)
    (unwritten : ∀ write ∈ ((Run.start config numbering listing).performAll
      (before ++ [op])).writesSince path since, write.name ≠ name)
    (accepted : ((Operation.setProperty path name value completion).perform
      ((Run.start config numbering listing).performAll (before ++ op :: since))).1 = .ok answer) :
    let r := (Run.start config numbering listing).performAll (before ++ op :: since)
    ∃ e kind inner, r.session.element? path = some e
      ∧ ((Operation.setProperty path name value completion).perform r).2 =
        r.sendCall path .propertySet .call completion (config.protocol.write r.session.destination
          path e.interface name value kind)
      ∧ (config.protocol.write r.session.destination path e.interface name value kind).args.getLast?
        = some (.variant value kind)
      ∧ (Argument.variant value kind).encode = .ok (.variant inner)
      ∧ inner.typeText = w.unboxed.type.stringKeyed.text
      ∧ (inner.typeText = w.unboxed.typeText ↔ ¬ w.unboxed.type.OtherKeyed) := by
  intro r
  have sound := Run.performAll_sound (Run.start_sound config numbering listing) before
  obtain ⟨d, kind, receives, held, under, settles⟩ := obtained.receives
  have received := receives.perform_held sound under settles
  rw [← Run.performAll_concat] at received
  have still := Run.performAll_heldUnder
    (Run.performAll_sound (Run.start_sound config numbering listing) (before ++ [op])) unwritten
    received
  rw [← Run.performAll_split] at still
  obtain ⟨e, p, inner, here, cached, encoded, sent⟩ := Operation.setProperty_accepted accepted
  have same := still e p here cached
  rw [same] at encoded sent
  have type := Value.encode_type encoded held w.unboxed_type_ne
  rw [Run.performAll_config] at sent
  have boxed : (Argument.variant value kind).encode = .ok (.variant inner) := by
    unfold Argument.encode Argument.variant
    dsimp only
    rw [encoded]
    rfl
  refine ⟨e, kind, inner, here, sent, PropertyProtocol.write_getLast? .., boxed, ?_, ?_⟩
  · exact congrArg WireType.text type
  · unfold WireValue.typeText
    rw [type, ← WireType.stringKeyed_eq_iff]
    exact ⟨WireType.text_injective, congrArg WireType.text⟩

/-- A list of names is emptied. On its own, an empty list is one of variants, but it is sent as the
list of strings that it was announced as. -/
theorem emptied_names_are_sent_as_names :
    let config : Config :=
      { service := "net.connman", rootPath := "/", rootInterface := "net.connman.Manager",
        protocol := .legacy }
    let before : List Operation :=
      [.init, .dispatch (.ownerChanged ⟨1⟩ "net.connman" "" ":1.7")]
    let w : WireValue := .variant (.array (.basic .string) [.string "home.arpa"])
    let op : Operation :=
      .dispatch (.signal ⟨3⟩ "/" "PropertyChanged" [.string "Domains", w])
    let since : List Operation :=
      [.dispatch (.signal ⟨3⟩ "/" "PropertyChanged" [.string "State", .variant (.string "idle")])]
    let emptied : Operation := .setProperty "/" "Domains" (.array []) none
    ((Run.start config .counting .ascending).performAll before).session.Obtains op "/" "Domains" w
    ∧ (∀ write ∈ ((Run.start config .counting .ascending).performAll
        (before ++ [op])).writesSince "/" since, write.name ≠ "Domains")
    ∧ ∃ r, r = (Run.start config .counting .ascending).performAll (before ++ op :: since)
      ∧ (emptied.perform r).1 = .ok .done
      ∧ ∃ call argument inner,
        (emptied.perform r).2 = r.sendCall "/" .propertySet .call none call
        ∧ call.args.getLast? = some argument ∧ argument.encode = .ok (.variant inner)
        ∧ inner.typeText = "as" ∧ inner.typeText = w.unboxed.typeText := by
  intro config before w op since emptied
  have routed : Table.get? ((Run.start config .counting .ascending).performAll
      before).session.signalRoutes ⟨3⟩ = some (.propertyChanged "/") := by subst config before; rfl
  have read : w.decodeTyped = .ok ⟨.array [.string "home.arpa"], .array (.basic .string)⟩ := by
    subst w
    rfl
  have obtained : ((Run.start config .counting .ascending).performAll before).session.Obtains op
      "/" "Domains" w := .changed routed rfl read
  have names : (((Run.start config .counting .ascending).performAll
      (before ++ [op])).writesSince "/" since).map Write.name = ["State"] := by
    subst config before w op since
    rfl
  have unwritten : ∀ write ∈ ((Run.start config .counting .ascending).performAll
      (before ++ [op])).writesSince "/" since, write.name ≠ "Domains" := by
    intro write mem
    have named := List.mem_map_of_mem (f := Write.name) mem
    rw [names, List.mem_singleton] at named
    rw [named]
    decide
  have found : (((Run.start config .counting .ascending).performAll
        (before ++ op :: since)).session.state.isPresent,
      (((Run.start config .counting .ascending).performAll
        (before ++ op :: since)).session.element? "/").map fun e =>
          (e.signature "Domains", Table.get? e.pending .propertySet)) =
        (true, some (.ok (.array (.basic .string)), none)) := by subst config before w op since; rfl
  have kept := write_keeps_signature_iff config .counting .ascending before op since "/" "Domains" w
    (.array []) none .done obtained unwritten
  dsimp only at kept
  refine ⟨obtained, unwritten, _, rfl, ?_⟩
  generalize (Run.start config .counting .ascending).performAll (before ++ op :: since) = r
    at found kept ⊢
  obtain ⟨present, here⟩ := Prod.mk.inj found
  obtain ⟨e₀, here, both⟩ := Option.map_eq_some_iff.mp here
  obtain ⟨signed, unasked⟩ := Prod.mk.inj both
  have encoded : (Value.array []).encode (.array (.basic .string)) =
      .ok (.array (.basic .string) []) := rfl
  have accepted : (emptied.perform r).1 = .ok .done :=
    congrArg Prod.fst (Operation.perform_setProperty none present here signed encoded
      ((Session.look_of_element? here).trans unasked))
  have stringKeyed : ¬ w.unboxed.type.OtherKeyed := by
    rintro (inside | _)
    cases inside
  obtain ⟨e, kind, inner, -, sent, last, encoded, text, same⟩ := kept accepted
  exact ⟨accepted, _, _, inner, sent, last, encoded, text.trans (by decide), same.mpr stringKeyed⟩

/-- Routes that are keyed by paths are sent back keyed by strings. -/
theorem routes_keyed_by_paths_are_sent_keyed_by_strings :
    let config : Config :=
      { service := "net.connman", rootPath := "/", rootInterface := "net.connman.Manager",
        protocol := .legacy }
    let before : List Operation :=
      [.init, .dispatch (.ownerChanged ⟨1⟩ "net.connman" "" ":1.7")]
    let w : WireValue := .variant (.dict (.basic .objectPath) .variant
      [(.objectPath "/a", .variant (.scalar (.bool true)))])
    let op : Operation := .dispatch (.signal ⟨3⟩ "/" "PropertyChanged" [.string "Routes", w])
    let value : Value := .dict [("/a", .scalar (.bool true))]
    let set : Operation := .setProperty "/" "Routes" value none
    ((Run.start config .counting .ascending).performAll before).session.Obtains op "/" "Routes" w
    ∧ w.unboxed.typeText = "a\x7bov\x7d" ∧ w.unboxed.decode = .ok value
    ∧ ∃ r, r = (Run.start config .counting .ascending).performAll (before ++ [op])
      ∧ (set.perform r).1 = .ok .done
      ∧ ∃ call argument inner,
        (set.perform r).2 = r.sendCall "/" .propertySet .call none call
        ∧ call.args.getLast? = some argument ∧ argument.encode = .ok (.variant inner)
        ∧ inner.typeText = "a\x7bsv\x7d" := by
  intro config before w op value set
  have routed : Table.get? ((Run.start config .counting .ascending).performAll
      before).session.signalRoutes ⟨3⟩ = some (.propertyChanged "/") := by subst config before; rfl
  have read : w.decodeTyped = .ok ⟨value, .dict .variant⟩ := by subst w value; rfl
  have found : (((Run.start config .counting .ascending).performAll
        (before ++ [op])).session.state.isPresent,
      (((Run.start config .counting .ascending).performAll
        (before ++ [op])).session.element? "/").map fun e =>
          (e.signature "Routes", Table.get? e.pending .propertySet)) =
        (true, some (.ok (.dict .variant), none)) := by subst config before w op; rfl
  have encoded : value.encode (.dict .variant) = .ok (.dict (.basic .string) .variant
      [(.string "/a", .variant (.scalar (.bool true)))]) := by subst value; rfl
  have boxed : (Argument.variant value (.dict .variant)).encode = .ok (.variant (.dict
      (.basic .string) .variant [(.string "/a", .variant (.scalar (.bool true)))])) := by
    subst value
    rfl
  refine ⟨.changed routed rfl read, by decide, rfl, _, rfl, ?_⟩
  generalize (Run.start config .counting .ascending).performAll (before ++ [op]) = r at found ⊢
  obtain ⟨present, here⟩ := Prod.mk.inj found
  obtain ⟨e, here, both⟩ := Option.map_eq_some_iff.mp here
  obtain ⟨signed, unasked⟩ := Prod.mk.inj both
  have performed := Operation.perform_setProperty none present here signed encoded
    ((Session.look_of_element? here).trans unasked)
  exact ⟨congrArg Prod.fst performed, _, _, _, congrArg Prod.snd performed,
    PropertyProtocol.write_getLast? .., boxed, by decide⟩

end BusCache
