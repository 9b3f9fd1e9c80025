import BusCache.Proofs.Image
import BusCache.Proofs.Session.Dropped
import BusCache.Proofs.Session.Unasked
import BusCache.Proofs.Session.WriteBack

/-!
# Answers — the two readings of the answer to a fetch

The answer to a fetch is read twice: as a set of properties with their kinds, for the cache, and as
plain values, for the completion. The first reading is the stricter one, as a property's type has to
be one that can be held. Where it succeeds, both find the same names with the same values, and the
last entry of a name decides in both. So what the completion is told is what was merged.
-/

namespace BusCache

namespace WireValue

/-! ## 1. Two readings -/

/-- A property is read as the value that the wire value is decoded to. -/
theorem decodeTyped_value (w : WireValue) :
    Yields (fun p => w.decode = .ok p.value) (decodeTyped w) := by
  rw [decodeTyped_eq]
  cases Kind.ofWireType? w.unboxed.type with
  | none => exact .error _
  | some kind =>
    cases w.decode with
    | error e => exact .error e
    | ok v => exact .ok rfl

/-- The entries are read into the same names and values with and without their kinds. -/
theorem decodePropertyEntries_agree (es : List (WireValue × WireValue)) (into : Cache) :
    Yields (fun c => decodeEntries es into.properties = .ok c.properties)
      (decodePropertyEntries es into) := by
  induction es generalizing into with
  | nil => exact .ok rfl
  | cons e es ih =>
    obtain ⟨k, w⟩ := e
    rw [decodePropertyEntries]
    refine .bind (.self (keyText k)) fun key named => ?_
    refine .bind (decodeTyped_value w) fun p read => ?_
    intro c rest
    have agree := ih (Table.set into key p) c rest
    unfold Cache.properties at agree ⊢
    rw [Table.mapValues_set] at agree
    rw [decodeEntries, named, read]
    exact agree

/-- What is a set of properties is a dictionary of the same values to a reader of plain values. -/
theorem decodeProperties_agree (w : WireValue) :
    Yields (fun c => w.decode = .ok (.dict c.properties)) (decodeProperties w) := by
  cases w with
  | dict key value entries =>
    intro c read
    have agree : decodeEntries entries [] = .ok c.properties :=
      decodePropertyEntries_agree entries [] c read
    rw [decode, agree]
    rfl
  | _ => exact .error _

/-- The two readings of a dictionary agree: as a set of properties, and as a plain value. -/
structure ReadAlike (key value : WireType) (entries : List (WireValue × WireValue)) : Prop where
  /-- A set of properties is decoded to the same names and values without the kinds. -/
  same : ∀ c, (dict key value entries).decodeProperties = .ok c →
    (dict key value entries).decode = .ok (.dict c.properties)
  /-- The last entry for a name decides in both, and gives the property its kind. -/
  last : ∀ c name w, (dict key value entries).decodeProperties = .ok c →
    LastEntry entries name w →
    ∃ p, w.decodeTyped = .ok p ∧ Table.get? c name = some p
      ∧ Table.get? c.properties name = some p.value
  /-- What can be decoded and is no set of properties has an entry whose type has the signature of
  no kind. -/
  unparsed : ∀ v, (dict key value entries).decode = .ok v →
    Fails (dict key value entries).decodeProperties →
    ∃ e ∈ entries, Fails (Kind.parse e.2.unboxed.typeText)

theorem dict_readAlike (key value : WireType) (entries : List (WireValue × WireValue)) :
    ReadAlike key value entries where
  same c read := decodeProperties_agree _ c read
  last c name w read decides := by
    obtain ⟨p, typed, found⟩ := decodePropertyEntries_last decides [] c read
    refine ⟨p, typed, found, ?_⟩
    unfold Cache.properties
    rw [Table.get?_mapValues, found, Option.map_some]
  unparsed v decoded fails := by
    -- a key or a value in the way of the first reading would be in the way of the second
    have decodable : ¬ Undecodable (dict key value entries) := by
      intro undecodable
      obtain ⟨error, failed⟩ := undecodable.decode_fails
      rw [decoded] at failed
      cases failed
    obtain ⟨e, mem, keyless | undecodable | unheld⟩ :=
      (decodeProperties_fails_iff (dict key value entries)).mp fails
    · exact absurd (.key mem keyless) decodable
    · exact absurd (.value mem undecodable) decodable
    · refine ⟨e, mem, ?_⟩
      cases parsed : Kind.parse e.2.unboxed.typeText with
      | error error => exact Fails.error error
      | ok kind =>
        have held := held_of_parse parsed
        rw [Kind.ofWireType?_of_unheld unheld] at held
        cases held

/-- The two readings of a body: what is a set of properties for the cache is the first argument of
the completion. -/
theorem decodeAll_agree {body : List WireValue} {fetched : Cache} {args : List Value}
    (read : propertiesOfReply body = .ok fetched) (decoded : decodeAll body = .ok args) :
    ∃ rest, args = .dict fetched.properties :: rest := by
  cases body with
  | nil => cases read
  | cons w ws =>
    rw [decodeAll, w.decodeProperties_agree fetched read] at decoded
    cases others : decodeAll ws with
    | error e =>
      rw [others] at decoded
      cases decoded
    | ok vs =>
      rw [others] at decoded
      exact ⟨vs, (Except.ok.inj decoded).symm⟩

end WireValue

theorem fetchedOf_ok {body : List WireValue} {fetched : Cache} {args : List Value}
    (read : WireValue.propertiesOfReply body = .ok fetched)
    (decoded : WireValue.decodeAll body = .ok args) :
    fetchedOf (.ok body) = .ok (fetched, args) := by
  show (WireValue.propertiesOfReply body >>= fun fetched =>
    WireValue.decodeAll body >>= fun args => pure (fetched, args)) = _
  rw [read, decoded]
  rfl

theorem WireValue.propertiesOfReply_ordered (body : List WireValue) :
    Yields Table.Ordered (propertiesOfReply body) := by
  cases body with
  | nil => exact .error _
  | cons w ws => exact w.decodeProperties_ordered

/-- Every property that was fetched is held, with its kind, and all others are held as before. -/
theorem Element.merge_cached (e : Element) {fetched : Cache} (ordered : Table.Ordered fetched)
    (name : String) :
    Table.get? (e.merge fetched).cache name =
      (Table.get? fetched name).or (Table.get? e.cache name) := by
  unfold merge
  dsimp only
  rw [Table.get?_foldl_set, ordered.ofList]

/-! ## 2. Histories -/

/-- The answer to a fetch is read twice, and both readings agree, as they do for every dictionary.

When a fetch that is under way in a history is answered by a body that can be read both ways, the
element holds exactly the properties that were read, each with its kind, and all others as before.
The application is told of them by one event, and then the completion is told the arguments: the
first one is the dictionary of the very names and values that were merged, and that is what the
arguments are as a set of properties. If the body cannot be read in one of the ways, the call is
ended, nothing is merged, and the completion is told an error. -/
theorem fetch_answer_is_read_alike (config : Config) (numbering : Numbering) (listing : Listing)
    (ops : List Operation) :
    let r := (Run.start config numbering listing).performAll ops
    (∀ key value entries, WireValue.ReadAlike key value entries)
    ∧ ∀ path kind call body,
        Table.get? r.session.callRoutes call = some (.element path kind .sync) →
        ∃ completion, r.session.slot? path kind = some ⟨call, completion⟩ ∧
        let after := ((Operation.dispatch (.reply call (.ok body))).perform r).2
        (∀ fetched args, WireValue.propertiesOfReply body = .ok fetched →
          WireValue.decodeAll body = .ok args →
          (∀ name, after.session.cached? path name =
            (Table.get? fetched name).or (r.session.cached? path name))
          ∧ (∃ event handler, after.shown Effect.heard? = r.shown Effect.heard?
              ++ .event event handler :: completion.toList.map fun c => .complete c (.ok args))
          ∧ (∃ rest, args = .dict fetched.properties :: rest)
          ∧ Properties.ofReply args = .ok fetched.properties)
        ∧ (Fails (WireValue.propertiesOfReply body) ∨ Fails (WireValue.decodeAll body) →
          ∃ error, after =
            (r.update fun s => { s with
              callRoutes := Table.erase s.callRoutes call
              registry := Table.modify s.registry path fun e => e.freeSlot kind }).complete
                completion (.error error)) := by
  intro r
  have blank := Run.start_sound config numbering listing
  have sound : r.session.Sound := Run.performAll_sound blank ops
  have silent : r.session.Silent :=
    Run.performAll_silent blank ⟨fun _ => Session.still_of_empty fun _ => rfl, fun _ => rfl⟩ ops
  refine ⟨WireValue.dict_readAlike, fun path kind call body routed => ?_⟩
  obtain ⟨⟨_, completion⟩, held, rfl⟩ :=
    (sound.routed.calls.element call path kind).mp ⟨.sync, routed⟩
  refine ⟨completion, held, ?_, ?_⟩
  · intro fetched args read decoded
    obtain ⟨e, here, slot⟩ := Session.slot?_eq_some.mp held
    have undergoes := (Session.Receives.fetched routed (fetchedOf_ok read decoded)).undergoes sound
      (Run.present_of_reply sound silent routed (by simp)) here
    -- both the event and the completion are among what the delivery has for a consequence
    have told := undergoes.develops.told
    dsimp only [Delivery.consequence] at told
    rw [slot, Option.bind_some] at told
    obtain ⟨rest, first⟩ := WireValue.decodeAll_agree read decoded
    refine ⟨?_, ⟨_, _, told⟩, ⟨rest, first⟩, ?_⟩
    · intro name
      unfold Session.cached?
      rw [Session.look_of_element? undergoes.after, Session.look_of_element? here]
      exact Element.merge_cached _ (WireValue.propertiesOfReply_ordered body fetched read) name
    · rw [first]
      rfl
  · intro fails
    obtain ⟨error, told⟩ : Fails (CallPurpose.sync.outcome (.ok body)) :=
      (Fails.bind_iff_or fun _ => Iff.rfl).mpr fails
    refine ⟨error, ?_⟩
    rw [Operation.perform_reply]
    exact Run.handleReply_of_unreadable routed held told

/-- A technology is fetched with two properties: what is held is what the completion is told. -/
theorem fetched_technology_is_told_as_held :
    let config : Config :=
      { service := "net.connman", rootPath := "/", rootInterface := "net.connman.Manager",
        protocol := .legacy }
    let ops : List Operation :=
      [.init, .dispatch (.ownerChanged ⟨1⟩ "net.connman" "" ":1.5"),
        .create "/wifi" "net.connman.Technology", .sync "/wifi" (some ⟨7⟩)]
    let body : List WireValue :=
      [.dict (.basic .string) .variant
        [(.string "Powered", .variant (.scalar (.bool true))),
          (.string "Name", .variant (.variant (.string "WiFi")))]]
    let r := (Run.start config .counting .ascending).performAll ops
    let after := ((Operation.dispatch (.reply ⟨6⟩ (.ok body))).perform r).2
    after.session.cached? "/wifi" "Powered" = some ⟨.scalar (.bool true), .basic .bool⟩
    ∧ after.session.cached? "/wifi" "Name" = some ⟨.string "WiFi", .basic .string⟩
    ∧ ∃ event handler, after.shown Effect.heard? = r.shown Effect.heard?
        ++ [.event event handler, .complete ⟨7⟩
          (.ok [.dict [("Name", .string "WiFi"), ("Powered", .scalar (.bool true))]])] := by
  intro config ops body
  have evaluated : let r := (Run.start config .counting .ascending).performAll ops
      (Table.get? r.session.callRoutes ⟨6⟩, r.session.slot? "/wifi" .propertiesGet) =
        (some (.element "/wifi" .propertiesGet .sync), some ⟨⟨6⟩, some ⟨7⟩⟩) := by
    subst config ops
    rfl
  have read : WireValue.propertiesOfReply body =
      .ok [("Name", ⟨.string "WiFi", .basic .string⟩),
        ("Powered", ⟨.scalar (.bool true), .basic .bool⟩)] := by subst body; rfl
  have decoded : WireValue.decodeAll body =
      .ok [.dict [("Name", .string "WiFi"), ("Powered", .scalar (.bool true))]] := by
    subst body
    rfl
  obtain ⟨_, answers⟩ := fetch_answer_is_read_alike config .counting .ascending ops
  dsimp only at evaluated answers ⊢
  generalize (Run.start config .counting .ascending).performAll ops = r at evaluated answers ⊢
  obtain ⟨routed, waiting⟩ := Prod.mk.inj evaluated
  obtain ⟨completion, held, readable, _⟩ := answers "/wifi" .propertiesGet ⟨6⟩ body routed
  rw [waiting] at held
  cases held
  obtain ⟨cached, told, _⟩ := readable _ _ read decoded
  exact ⟨cached "Powered", cached "Name", told⟩

end BusCache
