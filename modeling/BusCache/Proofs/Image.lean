import BusCache.Proofs.Recovery

/-!
# The image of decoding — what a kind accepts is what its values are decoded to

A kind accepts whatever is decoded from a well-formed wire value of its type. Conversely, what a
kind accepts is carried under it by some wire value, provided that the wire has values for all of
it: object paths have to be well-formed, and no signature is made from any text. The wire value is
built by recursion on the kind; below a variant there is no kind, and it is built by recursion on
the value, every item boxed.
-/

namespace BusCache

/-! ## 1. Well-formed values hold what they declare -/

namespace WireValue

mutual

theorem isTyped_of_isWellFormed : (w : WireValue) → w.isWellFormed = true → w.isTyped = true
  | scalar _, _ => rfl
  | string _, _ => rfl
  | objectPath _, _ => rfl
  | signature _, _ => rfl
  | variant w, h => isTyped_of_isWellFormed w h
  | array e items, h => by
      rw [isWellFormed, Bool.and_eq_true] at h
      rw [isTyped, h.1, allTyped_of_allWellFormed items h.2]
      rfl
  | dict k v entries, h => by
      rw [isWellFormed, Bool.and_eq_true] at h
      rw [isTyped, h.1, entriesTyped_of_entriesWellFormed entries h.2]
      rfl
  | struct fs, h => by
      rw [isWellFormed, Bool.and_eq_true] at h
      exact allTyped_of_allWellFormed fs h.2
  | handle _, _ => rfl

theorem allTyped_of_allWellFormed : (ws : List WireValue) → allWellFormed ws = true →
    allTyped ws = true
  | [], _ => rfl
  | w :: ws, h => by
      rw [allWellFormed, Bool.and_eq_true] at h
      rw [allTyped, isTyped_of_isWellFormed w h.1, allTyped_of_allWellFormed ws h.2]
      rfl

theorem entriesTyped_of_entriesWellFormed : (es : List (WireValue × WireValue)) →
    entriesWellFormed es = true → entriesTyped es = true
  | [], _ => rfl
  | (k, v) :: es, h => by
      rw [entriesWellFormed, Bool.and_eq_true, Bool.and_eq_true] at h
      rw [entriesTyped, isTyped_of_isWellFormed k h.1.1, isTyped_of_isWellFormed v h.1.2,
        entriesTyped_of_entriesWellFormed es h.2]
      rfl

end

/-- A signature is read as the type that it describes. -/
theorem held_of_parse {w : WireValue} {k : Kind} (h : Kind.parse w.typeText = .ok k) :
    Kind.ofWireType? w.type = some k := by
  obtain ⟨t, -, text, held⟩ := Kind.ofText?_eq_some_iff.1 (Kind.parse_eq_ok_iff.1 h)
  rwa [← WireType.text_injective text]

theorem accepts_of_decode {w : WireValue} {k : Kind} {v : Value}
    (wellFormed : w.isWellFormed = true) (read : Kind.parse w.typeText = .ok k)
    (decoded : w.decode = .ok v) : k.accepts v = true :=
  decode_accepts w (isTyped_of_isWellFormed w wellFormed) (held_of_parse read) v decoded

end WireValue

/-! ## 2. Values that the wire has -/

namespace Value

mutual

/-- Whether every object path in a value is well-formed. -/
def pathsWellFormed : Value → Bool
  | objectPath p => Path.isWellFormed p
  | array items => allPathsWellFormed items
  | dict entries => entryPathsWellFormed entries
  | _ => true

def allPathsWellFormed : List Value → Bool
  | [] => true
  | v :: vs => pathsWellFormed v && allPathsWellFormed vs

def entryPathsWellFormed : List (String × Value) → Bool
  | [] => true
  | (_, v) :: es => pathsWellFormed v && entryPathsWellFormed es

end

theorem allPathsWellFormed_iff (vs : List Value) :
    allPathsWellFormed vs = true ↔ ∀ v ∈ vs, v.pathsWellFormed = true := by
  induction vs with
  | nil => simp [allPathsWellFormed]
  | cons v vs ih => rw [allPathsWellFormed, Bool.and_eq_true, List.forall_mem_cons, ih]

theorem entryPathsWellFormed_iff (es : List (String × Value)) :
    entryPathsWellFormed es = true ↔ ∀ e ∈ es, e.2.pathsWellFormed = true := by
  induction es with
  | nil => simp [entryPathsWellFormed]
  | cons e es ih => rw [entryPathsWellFormed, Bool.and_eq_true, List.forall_mem_cons, ih]

end Value

namespace WireValue

mutual

/-- Any value is carried under some kind. -/
theorem carried_somehow : (v : Value) → v.pathsWellFormed = true → ∃ k w, Carries k v w
  | .scalar s, _ => ⟨_, _, .scalar s⟩
  | .string s, _ => ⟨_, _, .string s⟩
  | .objectPath _, h => ⟨_, _, .objectPath h⟩
  | .array items, h => by
      obtain ⟨ws, all⟩ := carried_boxed items h
      exact ⟨_, _, .array Kind.variant_readable all⟩
  | .dict entries, h => by
      obtain ⟨ws, all⟩ := carried_boxed_entries entries h
      exact ⟨_, _, .dict Kind.variant_readable all⟩

theorem carried_boxed : (vs : List Value) → Value.allPathsWellFormed vs = true →
    ∃ ws, CarriesAll .variant vs ws
  | [], _ => ⟨_, .nil⟩
  | v :: vs, h => by
      rw [Value.allPathsWellFormed, Bool.and_eq_true] at h
      obtain ⟨k, w, first⟩ := carried_somehow v h.1
      obtain ⟨ws, rest⟩ := carried_boxed vs h.2
      exact ⟨_, .cons first.boxed rest⟩

theorem carried_boxed_entries : (es : List (String × Value)) →
    Value.entryPathsWellFormed es = true → ∃ ws, CarriesEntries .variant es ws
  | [], _ => ⟨_, .nil⟩
  | (_, v) :: es, h => by
      rw [Value.entryPathsWellFormed, Bool.and_eq_true] at h
      obtain ⟨k, w, first⟩ := carried_somehow v h.1
      obtain ⟨ws, rest⟩ := carried_boxed_entries es h.2
      exact ⟨_, .cons first.boxed rest⟩

end

/-! ## 3. Every accepted value is carried -/

section Lists

variable {k : Kind}

theorem CarriesAll.of_each : {vs : List Value} → (∀ v ∈ vs, ∃ w, Carries k v w) →
    ∃ ws, CarriesAll k vs ws
  | [], _ => ⟨_, .nil⟩
  | v :: vs, each => by
      obtain ⟨⟨w, first⟩, later⟩ := List.forall_mem_cons.1 each
      obtain ⟨ws, rest⟩ := CarriesAll.of_each later
      exact ⟨_, .cons first rest⟩

theorem CarriesEntries.of_each : {es : List (String × Value)} → (∀ e ∈ es, ∃ w, Carries k e.2 w) →
    ∃ ws, CarriesEntries k es ws
  | [], _ => ⟨_, .nil⟩
  | (_, v) :: es, each => by
      obtain ⟨⟨w, first⟩, later⟩ := List.forall_mem_cons.1 each
      obtain ⟨ws, rest⟩ := CarriesEntries.of_each later
      exact ⟨_, .cons first rest⟩

end Lists

/-- Wire values travel under kinds one by one and are decoded to the items of a list. -/
structure CarriesEach (ks : List Kind) (vs : List Value) (ws : List WireValue) : Prop where
  wellFormed : allWellFormed ws = true
  type_eq : types ws = Kind.toWireTypes ks
  decoded : decodeAll ws = .ok (Value.canonicalItems vs)

theorem CarriesEach.nil : CarriesEach [] [] [] := ⟨rfl, rfl, rfl⟩

theorem CarriesEach.cons {k : Kind} {ks : List Kind} {v : Value} {vs : List Value} {w : WireValue}
    {ws : List WireValue} (first : Carries k v w) (rest : CarriesEach ks vs ws) :
    CarriesEach (k :: ks) (v :: vs) (w :: ws) where
  wellFormed := by rw [allWellFormed, first.wellFormed, rest.wellFormed]; rfl
  type_eq := by rw [types, first.type_eq, rest.type_eq, Kind.toWireTypes]
  decoded := by rw [decodeAll, first.decoded, rest.decoded]; rfl

theorem Carries.struct {ks : List Kind} {vs : List Value} {ws : List WireValue}
    (readable : Kind.struct [] ∉ (Kind.struct ks).parts) (h : CarriesEach ks vs ws) :
    Carries (.struct ks) (.array vs) (.struct ws) where
  readable := readable
  wellFormed := by
    -- the wire has no structure without fields, and neither has a readable kind
    have some_field : ws ≠ [] := by
      rintro rfl
      cases ks with
      | nil => exact readable List.mem_cons_self
      | cons k ks => cases h.type_eq
    rw [isWellFormed, h.wellFormed, Bool.and_true, Bool.not_eq_true', List.isEmpty_eq_false_iff]
    exact some_field
  type_eq := by rw [type, h.type_eq, Kind.toWireType]
  decoded := by rw [decode, h.decoded]; rfl

mutual

theorem carried_of_accepts : (k : Kind) → Kind.struct [] ∉ k.parts →
    Kind.basic .signature ∉ k.parts → ∀ {v : Value}, v.pathsWellFormed = true →
    k.accepts v = true → ∃ w, Carries k v w
  | .variant, _, _, v, paths, _ => by
      obtain ⟨k, w, h⟩ := carried_somehow v paths
      exact ⟨_, h.boxed⟩
  | .basic t, _, noText, v, paths, accepted => by
      cases v with
      | scalar s =>
        rw [Kind.accepts, decide_eq_true_eq] at accepted
        subst accepted
        exact ⟨_, .scalar s⟩
      | string s =>
        rw [Kind.accepts, Bool.or_eq_true, decide_eq_true_eq, decide_eq_true_eq] at accepted
        -- a text is accepted as a signature too, but not every text is one
        rcases accepted with rfl | rfl
        · exact ⟨_, .string s⟩
        · exact absurd List.mem_cons_self noText
      | objectPath p =>
        rw [Kind.accepts, decide_eq_true_eq] at accepted
        subst accepted
        exact ⟨_, .objectPath paths⟩
      | _ => simp [Kind.accepts] at accepted
  | .array e, readable, noText, v, paths, accepted => by
      cases v with
      | array items =>
        rw [Kind.accepts, List.all_eq_true] at accepted
        have inner := List.not_mem_of_not_mem_cons readable
        obtain ⟨ws, all⟩ := CarriesAll.of_each fun v mem =>
          carried_of_accepts e inner (List.not_mem_of_not_mem_cons noText)
            ((Value.allPathsWellFormed_iff items).1 paths v mem) (accepted v mem)
        exact ⟨_, .array inner all⟩
      | _ => simp [Kind.accepts] at accepted
  | .dict e, readable, noText, v, paths, accepted => by
      cases v with
      | dict entries =>
        rw [Kind.accepts, List.all_eq_true] at accepted
        have inner := List.not_mem_of_not_mem_cons readable
        obtain ⟨ws, all⟩ := CarriesEntries.of_each fun entry mem =>
          carried_of_accepts e inner (List.not_mem_of_not_mem_cons noText)
            ((Value.entryPathsWellFormed_iff entries).1 paths entry mem) (accepted entry mem)
        exact ⟨_, .dict inner all⟩
      | _ => simp [Kind.accepts] at accepted
  | .struct ks, readable, noText, v, paths, accepted => by
      cases v with
      | array items =>
        rw [Kind.accepts] at accepted
        obtain ⟨ws, each⟩ := carried_of_acceptsEach ks (List.not_mem_of_not_mem_cons readable)
          (List.not_mem_of_not_mem_cons noText) paths accepted
        exact ⟨_, .struct readable each⟩
      | _ => simp [Kind.accepts] at accepted

theorem carried_of_acceptsEach : (ks : List Kind) → Kind.struct [] ∉ Kind.partsOfEach ks →
    Kind.basic .signature ∉ Kind.partsOfEach ks → ∀ {vs : List Value},
    Value.allPathsWellFormed vs = true → Kind.acceptsEach ks vs = true → ∃ ws, CarriesEach ks vs ws
  | [], _, _, [], _, _ => ⟨_, .nil⟩
  | [], _, _, _ :: _, _, accepted => by simp [Kind.acceptsEach] at accepted
  | _ :: _, _, _, [], _, accepted => by simp [Kind.acceptsEach] at accepted
  | k :: ks, readable, noText, v :: vs, paths, accepted => by
      rw [Kind.partsOfEach, List.mem_append, not_or] at readable noText
      rw [Value.allPathsWellFormed, Bool.and_eq_true] at paths
      rw [Kind.acceptsEach, Bool.and_eq_true] at accepted
      obtain ⟨w, first⟩ := carried_of_accepts k readable.1 noText.1 paths.1 accepted.1
      obtain ⟨ws, rest⟩ := carried_of_acceptsEach ks readable.2 noText.2 paths.2 accepted.2
      exact ⟨_, .cons first rest⟩

end

end WireValue

/-- What a kind accepts is what values of its signature are decoded to. Whatever is decoded from a
well-formed wire value whose signature is read as the kind is accepted, so a value is never refused
that travelled under the signature it was expected with. Conversely, an accepted value whose object
paths are well-formed is decoded from a wire value that travels under the text of the kind, if no
part of the kind is a signature; its dictionaries come out in order, as those of a value are that
the cache holds. -/
theorem accepts_image_of_decode {k : Kind} (readable : ∃ s, Kind.parse s = .ok k) :
    (∀ (w : WireValue) v, w.isWellFormed = true → Kind.parse w.typeText = .ok k → w.decode = .ok v →
        k.accepts v = true ∧ w.decodeAs k = .ok v)
      ∧ (Kind.basic .signature ∉ k.parts → ∀ v, v.pathsWellFormed = true → k.accepts v = true →
          ∃ w : WireValue, w.isWellFormed = true ∧ w.typeText = k.text
            ∧ w.decode = .ok v.canonical)
      ∧ ∀ v : Value, v.isCanonical = true → v.canonical = v := by
  refine ⟨fun w v wellFormed read decoded => ?_, fun signature v paths accepted => ?_,
    Value.canonical_of_isCanonical⟩
  · have accepted := WireValue.accepts_of_decode wellFormed read decoded
    refine ⟨accepted, ?_⟩
    unfold WireValue.decodeAs
    rw [decoded]
    show (if k.accepts v = true then _ else _) = _
    rw [if_pos accepted]
    rfl
  · obtain ⟨w, carried⟩ :=
      WireValue.carried_of_accepts k (Kind.readable_iff.1 readable) signature paths accepted
    exact ⟨w, carried.wellFormed, carried.typeText.1, carried.decoded⟩

/-- A device with its modes, which are keyed by paths on the wire: a structure of a path and of a
dictionary of variants. -/
theorem structure_accepts_image_of_decode :
    let k : Kind := .struct [.basic .objectPath, .dict .variant]
    let w : WireValue := .struct [.objectPath "/dev",
      .dict (.basic .objectPath) .variant [(.objectPath "/on", .variant (.array .variant []))]]
    let v : Value := .array [.objectPath "/dev", .dict [("/on", .array [])]]
    Kind.parse "(oa\x7bov\x7d)" = .ok k
      ∧ w.isWellFormed = true ∧ Kind.parse w.typeText = .ok k ∧ w.decode = .ok v
      ∧ k.accepts v = true ∧ w.decodeAs k = .ok v
      ∧ .basic .signature ∉ k.parts ∧ v.pathsWellFormed = true
      ∧ ∃ w' : WireValue, w'.typeText = "(oa\x7bsv\x7d)" ∧ w'.decode = .ok v := by
  intro k w v
  have each : ∀ t ∈ [WireType.basic .objectPath, .dict (.basic .objectPath) .variant],
      t.Cacheable := by
    simpa using ⟨.basic .objectPath, .dict rfl .variant⟩
  have read : Kind.parse "(oa\x7bov\x7d)" = .ok k :=
    Kind.parse_eq_ok_iff.2 (Kind.ofText?_eq_some_iff.2 ⟨_, .struct each, rfl, rfl⟩)
  have wellFormed : w.isWellFormed = true := by
    subst w
    rfl
  have typed : Kind.parse w.typeText = .ok k := read
  have decoded : w.decode = .ok v := by
    subst w v
    rfl
  have noText : Kind.basic .signature ∉ k.parts := by simp [k, Kind.parts, Kind.partsOfEach]
  have paths : v.pathsWellFormed = true := by
    subst v
    rfl
  obtain ⟨accepts, carried, ordered⟩ := accepts_image_of_decode ⟨_, read⟩
  obtain ⟨accepted, given⟩ := accepts w v wellFormed typed decoded
  obtain ⟨w', -, text, decoded'⟩ := carried noText v paths accepted
  rw [ordered v (by subst v; rfl)] at decoded'
  exact ⟨read, wellFormed, typed, decoded, accepted, given, noText, paths, w',
    text.trans (by decide), decoded'⟩

end BusCache
