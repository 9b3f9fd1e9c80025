import BusCache.Proofs.Encoding

/-!
# Variants — what can be sent as a value of any kind

A variant takes any value, under its natural kind, and so do lists and dictionaries of variants with
what they hold. Whether it can be sent is another matter. The natural kind of a container whose
contents agree in kind is narrower than that of one whose contents do not, and the bus carries few
of these kinds: a list of lists of one kind cannot be sent, nor can a dictionary whose values are
all numbers of one type, while the same contents can be sent next to something of another kind.
-/

namespace BusCache

namespace Value

/-! ## 1. Natural kinds that the bus does not carry -/

/-- The contents of a container agree in kind, and the bus does not carry containers of this kind: a
list of lists or dictionaries, or a dictionary of values that are no strings. -/
def TooNarrow : Value → Prop
  | array (first :: rest) => (∀ t, first.kind ≠ .basic t) ∧ ∀ v ∈ rest, v.kind = first.kind
  | dict ((_, first) :: rest) =>
      first.kind ≠ .basic .string ∧ ∀ e ∈ rest, e.2.kind = first.kind
  | _ => False

theorem commonKind_of_same {k : Kind} {ks : List Kind} (same : ∀ l ∈ ks, l = k) :
    commonKind (k :: ks) = k := by
  show (if ks.all (· = k) then k else .variant) = k
  rw [if_pos]
  simpa using same

theorem commonKind_of_mixed {k : Kind} {ks : List Kind} (mixed : ¬ ∀ l ∈ ks, l = k) :
    commonKind (k :: ks) = .variant := by
  show (if ks.all (· = k) then k else .variant) = .variant
  rw [if_neg]
  simpa using mixed

theorem array_isSendable_iff (v : Value) :
    (Kind.array v.kind).isSendable = false ↔ ∀ t, v.kind ≠ .basic t := by
  cases v with
  | scalar s => cases s <;> simp [kind, Kind.isSendable, Scalar.type]
  | _ => simp [kind, Kind.isSendable]

theorem dict_isSendable_iff (v : Value) :
    (Kind.dict v.kind).isSendable = false ↔ v.kind ≠ .basic .string := by
  cases v with
  | scalar s => cases s <;> simp [kind, Kind.isSendable, Scalar.type]
  | _ => simp [kind, Kind.isSendable]

theorem kind_isSendable_iff (v : Value) : v.kind.isSendable = false ↔ v.TooNarrow := by
  cases v with
  | scalar s => cases s <;> simp [kind, Kind.isSendable, Scalar.type, TooNarrow]
  | string _ => simp [kind, Kind.isSendable, TooNarrow]
  | objectPath _ => simp [kind, Kind.isSendable, TooNarrow]
  | array items =>
    cases items with
    | nil => simp [kind, kinds, commonKind, Kind.isSendable, TooNarrow]
    | cons first rest =>
      rw [kind, kinds_eq_map, List.map_cons, TooNarrow]
      by_cases same : ∀ v ∈ rest, v.kind = first.kind
      · rw [commonKind_of_same (List.forall_mem_map.2 same), array_isSendable_iff,
          and_iff_left same]
      · rw [commonKind_of_mixed (mt List.forall_mem_map.1 same)]
        simp [Kind.isSendable, same]
  | dict entries =>
    cases entries with
    | nil => simp [kind, entryKinds, commonKind, Kind.isSendable, TooNarrow]
    | cons e rest =>
      rw [kind, entryKinds_eq_map, List.map_cons, TooNarrow]
      by_cases same : ∀ e' ∈ rest, e'.2.kind = e.2.kind
      · rw [commonKind_of_same (List.forall_mem_map.2 same), dict_isSendable_iff,
          and_iff_left same]
      · rw [commonKind_of_mixed (mt List.forall_mem_map.1 same)]
        simp only [Kind.isSendable, Bool.true_eq_false, false_iff]
        exact fun h => same h.2

/-! ## 2. Contents -/

/-- What is encoded item by item fails if one of the items does. -/
theorem encodeItems_fails_iff (vs : List Value) :
    Fails (encodeItems vs) ↔ ∃ v ∈ vs, Fails (encodeNatural v) := by
  rw [encodeItems_eq_mapM, mapM_fails_iff]

theorem encodeEntries_fails_iff (es : List (String × Value)) :
    Fails (encodeEntries es) ↔ ∃ e ∈ es, Fails (encodeNatural e.2) := by
  rw [encodeEntries_eq_mapM, mapM_fails_iff]
  simp only [Fails.map_iff]

theorem encodeNatural_array_fails_iff (items : List Value) :
    Fails (encodeNatural (array items))
      ↔ (array items).kind.isSendable = false ∨ ∃ v ∈ items, Fails (encodeNatural v) := by
  have accepted := accepts_item (kind_accepts (array items))
  rw [← encodeItems_fails_iff, encodeNatural, kind]
  generalize commonKind (kinds items) = k at accepted
  cases sendable : (Kind.array k).isSendable with
  | false =>
    have refused : encodeArray k items = _ := encodeArray_unsupported sendable
    cases k with
    | variant => cases sendable
    | _ =>
      dsimp only
      rw [refused]
      simp
  | true =>
    -- boxed or not, the items are encoded as they are by themselves
    obtain rfl | ⟨t, rfl, text⟩ := Kind.array_isSendable sendable
    · dsimp only
      rw [Fails.map_iff]
      simp
    · dsimp only
      rw [encodeArray_of_accepts text accepted, Fails.map_iff]
      simp

theorem encodeNatural_dict_fails_iff (entries : List (String × Value)) :
    Fails (encodeNatural (dict entries))
      ↔ (dict entries).kind.isSendable = false ∨ ∃ e ∈ entries, Fails (encodeNatural e.2) := by
  have accepted := accepts_entry (kind_accepts (dict entries))
  rw [← encodeEntries_fails_iff, encodeNatural, kind]
  generalize commonKind (entryKinds entries) = k at accepted
  cases sendable : (Kind.dict k).isSendable with
  | false =>
    have refused : encodeDict k entries = _ := encodeDict_unsupported sendable
    cases k with
    | variant => cases sendable
    | _ =>
      dsimp only
      rw [refused]
      simp
  | true =>
    obtain rfl | rfl := Kind.dict_isSendable sendable
    · dsimp only
      rw [Fails.map_iff]
      simp
    · dsimp only
      rw [encodeDict_of_accepts accepted, Fails.map_iff]
      simp

/-! ## 3. Obstacles -/

/-- What is of a kind that the bus does not carry is refused itself. -/
theorem encodeNatural_of_unsendable {v : Value} (unsendable : v.kind.isSendable = false) :
    Fails (encodeNatural v) := by
  cases v with
  | scalar s => cases s <;> cases unsendable
  | string _ => cases unsendable
  | objectPath _ => cases unsendable
  | array items => exact (encodeNatural_array_fails_iff items).2 (.inl unsendable)
  | dict entries => exact (encodeNatural_dict_fails_iff entries).2 (.inl unsendable)

/-- What is refused inside a value keeps the value from being sent. -/
theorem Within.fails {u v : Value} (inside : u.Within v) (failed : Fails (encodeNatural u)) :
    Fails (encodeNatural v) := by
  induction inside with
  | self => exact failed
  | item mem _ ih => exact (encodeNatural_array_fails_iff _).2 (.inr ⟨_, mem, ih⟩)
  | entry mem _ ih => exact (encodeNatural_dict_fails_iff _).2 (.inr ⟨_, mem, ih⟩)

theorem encodeNatural_fails_iff (v : Value) :
    Fails (encodeNatural v) ↔ ∃ error, v.Obstacle error := by
  constructor
  · rintro ⟨error, failed⟩
    exact ⟨error, encodeNatural_obstacle v error failed⟩
  · rintro ⟨_, @⟨u, inside, unsendable⟩ | @⟨p, inside, malformed⟩⟩
    · exact inside.fails (encodeNatural_of_unsendable unsendable)
    · apply inside.fails
      rw [encodeNatural, encodePath, malformed]
      exact .error _

/-- There is no obstacle in a value if all of it can be sent. -/
theorem not_obstacle_iff (v : Value) :
    (¬ ∃ error, v.Obstacle error) ↔
      (∀ p : Path, (objectPath p).Within v → p.isWellFormed = true)
        ∧ ∀ u : Value, u.Within v → ¬ u.TooNarrow := by
  constructor
  · intro none
    refine ⟨fun p inside => ?path, fun u inside narrow => ?kind⟩
    case path =>
      cases wellFormed : p.isWellFormed with
      | true => rfl
      | false => exact absurd ⟨_, .path inside wellFormed⟩ none
    case kind => exact none ⟨_, .kind inside ((kind_isSendable_iff u).2 narrow)⟩
  · rintro ⟨paths, kinds⟩ ⟨_, @⟨u, inside, unsendable⟩ | @⟨p, inside, malformed⟩⟩
    · exact kinds u inside ((kind_isSendable_iff u).1 unsendable)
    · rw [paths p inside] at malformed
      cases malformed

theorem encode_variant (v : Value) : v.encode .variant = encodeNatural v := by
  rw [encode, variant_accepts]
  rfl

theorem encode_variants (items : List Value) :
    (array items).encode (.array .variant) = do return variantArray (← encodeItems items) := by
  have accepted : (Kind.array .variant).accepts (array items) = true := by
    rw [Kind.accepts, List.all_eq_true]
    exact fun v _ => variant_accepts v
  rw [encode, accepted]
  rfl

theorem encode_variant_entries (entries : List (String × Value)) :
    (dict entries).encode (.dict .variant) = do return variantDict (← encodeEntries entries) := by
  have accepted : (Kind.dict .variant).accepts (dict entries) = true := by
    rw [Kind.accepts, List.all_eq_true]
    exact fun e _ => variant_accepts e.2
  rw [encode, accepted]
  rfl

end Value

/-! ## 4. What can be sent as a variant -/

/-- A value is sent as a variant if every path in it is well-formed and no container in it is too
narrow, and a list or a dictionary of variants if each of its contents is. A value with well-formed
paths is refused with the natural kind of a container that is too narrow. -/
theorem sent_as_variant_iff (v : Value) (items : List Value) (entries : List (String × Value)) :
    ((∃ w, v.encode .variant = .ok w) ↔
      (∀ p : Path, (Value.objectPath p).Within v → p.isWellFormed = true)
        ∧ ∀ u : Value, u.Within v → ¬ u.TooNarrow)
    ∧ ((∃ w, (Value.array items).encode (.array .variant) = .ok w) ↔
      ∀ u ∈ items, ∃ w, u.encode .variant = .ok w)
    ∧ ((∃ w, (Value.dict entries).encode (.dict .variant) = .ok w) ↔
      ∀ e ∈ entries, ∃ w, e.2.encode .variant = .ok w)
    ∧ OnlyFails (fun error =>
        (∃ u : Value, u.Within v ∧ u.TooNarrow ∧ error = .unsupportedSignature u.kind.text)
        ∨ ∃ p : Path, (Value.objectPath p).Within v ∧ p.isWellFormed = false
          ∧ error = .typeMismatch "object-path" ("malformed path " ++ Text.quoted p))
      (v.encode .variant) := by
  refine ⟨?one, ?list, ?dictionary, ?failures⟩
  case one =>
    rw [← Fails.not_iff, Value.encode_variant, Value.encodeNatural_fails_iff,
      Value.not_obstacle_iff]
  case list =>
    simp only [← Fails.not_iff, Value.encode_variant]
    rw [Value.encode_variants, Fails.map_iff, Value.encodeItems_fails_iff]
    simp
  case dictionary =>
    simp only [← Fails.not_iff, Value.encode_variant]
    rw [Value.encode_variant_entries, Fails.map_iff, Value.encodeEntries_fails_iff]
    simp
  case failures =>
    rw [Value.encode_variant]
    refine (Value.encodeNatural_obstacle v).mono ?_
    rintro _ (@⟨u, inside, unsendable⟩ | @⟨p, inside, malformed⟩)
    · exact .inl ⟨u, inside, (Value.kind_isSendable_iff u).1 unsendable, rfl⟩
    · exact .inr ⟨p, inside, malformed, rfl⟩

/-- Two numbers of one type in a dictionary are not sent as a variant. They are sent as a dictionary
of variants, and as a variant if there is something of another type beside them. -/
theorem uniform_numbers_are_refused :
    (∀ p : Path, ¬ (Value.objectPath p).Within
      (.dict [("Down", .scalar (.uint32 1)), ("Up", .scalar (.uint32 2))]))
    ∧ Kind.variant.accepts (.dict [("Down", .scalar (.uint32 1)), ("Up", .scalar (.uint32 2))])
      = true
    ∧ (Value.dict [("Down", .scalar (.uint32 1)), ("Up", .scalar (.uint32 2))]).encode .variant
      = .error (.unsupportedSignature "a\x7bsu\x7d")
    ∧ (∃ w, (Value.dict [("Down", .scalar (.uint32 1)), ("Up", .scalar (.uint32 2))]).encode
      (.dict .variant) = .ok w)
    ∧ ∃ w, (Value.dict [("Down", .scalar (.uint32 1)), ("Up", .scalar (.uint64 2))]).encode
      .variant = .ok w := by
  refine ⟨?_, by decide, rfl, ⟨_, rfl⟩, ⟨_, rfl⟩⟩
  rintro p (_ | _ | ⟨mem, inside⟩)
  simp only [List.mem_cons, List.not_mem_nil, or_false] at mem
  rcases mem with rfl | rfl <;> cases inside

end BusCache
