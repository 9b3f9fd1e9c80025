import BusCache.Proofs.Decoding
import BusCache.Proofs.Grammar
import BusCache.Proofs.Ordered

/-!
# Recovery — decoding gives back what was encoded

A dictionary is a list of entries in order of their keys, and it is decoded by adding its entries
to a table one by one. So what is decoded is the value with every dictionary in order
(`Value.canonical`), which is the value itself if it was in order already, as every value is that
the cache holds.

A wire value carries a value under a kind (`Carries`) if it is well-formed, travels under the text
of the kind, and is decoded to the value. There is one lemma for each form of a value; each way of
encoding is a way of putting these together.
-/

namespace BusCache

/-! ## 1. Values in order -/

namespace Value

mutual

/-- The value with every dictionary in it in order; the last entry of a key counts. -/
def canonical : Value → Value
  | scalar s => scalar s
  | string s => string s
  | objectPath p => objectPath p
  | array items => array (canonicalItems items)
  | dict entries => dict (Table.ofList (canonicalEntries entries))

def canonicalItems : List Value → List Value
  | [] => []
  | v :: vs => canonical v :: canonicalItems vs

def canonicalEntries : List (String × Value) → List (String × Value)
  | [] => []
  | (k, v) :: es => (k, canonical v) :: canonicalEntries es

end

mutual

/-- Whether every dictionary in a value is in order. -/
def isCanonical : Value → Bool
  | array items => allCanonical items
  | dict entries => decide (Table.Ordered entries) && entriesCanonical entries
  | _ => true

def allCanonical : List Value → Bool
  | [] => true
  | v :: vs => isCanonical v && allCanonical vs

def entriesCanonical : List (String × Value) → Bool
  | [] => true
  | (_, v) :: es => isCanonical v && entriesCanonical es

end

mutual

/-- A value in order is its own canonical form. -/
theorem canonical_of_isCanonical : (v : Value) → v.isCanonical = true → v.canonical = v
  | scalar _, _ => rfl
  | string _, _ => rfl
  | objectPath _, _ => rfl
  | array items, h => by
      rw [isCanonical] at h
      rw [canonical, canonicalItems_of_allCanonical items h]
  | dict entries, h => by
      rw [isCanonical, Bool.and_eq_true, decide_eq_true_eq] at h
      rw [canonical, canonicalEntries_of_entriesCanonical entries h.2, h.1.ofList]

theorem canonicalItems_of_allCanonical : (vs : List Value) → allCanonical vs = true →
    canonicalItems vs = vs
  | [], _ => rfl
  | v :: vs, h => by
      rw [allCanonical, Bool.and_eq_true] at h
      rw [canonicalItems, canonical_of_isCanonical v h.1, canonicalItems_of_allCanonical vs h.2]

theorem canonicalEntries_of_entriesCanonical : (es : List (String × Value)) →
    entriesCanonical es = true → canonicalEntries es = es
  | [], _ => rfl
  | (k, v) :: es, h => by
      rw [entriesCanonical, Bool.and_eq_true] at h
      rw [canonicalEntries, canonical_of_isCanonical v h.1,
        canonicalEntries_of_entriesCanonical es h.2]

end

end Value

/-! ## 2. What a wire value carries -/

theorem Kind.basic_readable (t : BasicType) : Kind.struct [] ∉ (Kind.basic t).parts := by
  simp [Kind.parts]

theorem Kind.variant_readable : Kind.struct [] ∉ Kind.variant.parts := by
  simp [Kind.parts]

namespace WireValue

open Value (canonicalItems canonicalEntries)

/-- The wire value travels under a kind, whose text can be read, and is decoded to a value. -/
structure Carries (k : Kind) (v : Value) (w : WireValue) : Prop where
  readable : Kind.struct [] ∉ k.parts
  wellFormed : w.isWellFormed = true
  type_eq : w.type = k.toWireType
  decoded : w.decode = .ok v.canonical

/-- Wire values travel under one kind and are decoded to the items of a list. -/
structure CarriesAll (k : Kind) (vs : List Value) (ws : List WireValue) : Prop where
  wellFormed : allWellFormed ws = true
  type_eq : ∀ w ∈ ws, w.type = k.toWireType
  decoded : decodeAll ws = .ok (canonicalItems vs)

/-- Wire entries are keyed by strings, travel under one kind and are decoded to the entries of a
dictionary. -/
structure CarriesEntries (k : Kind) (es : List (String × Value))
    (ws : List (WireValue × WireValue)) : Prop where
  wellFormed : entriesWellFormed ws = true
  type_eq : ∀ w ∈ ws, w.1.type = .basic .string ∧ w.2.type = k.toWireType
  decoded : ∀ into, decodeEntries ws into =
    .ok ((canonicalEntries es).foldl (fun t e => Table.set t e.1 e.2) into)

variable {k : Kind}

theorem CarriesAll.nil : CarriesAll k [] [] := ⟨rfl, fun _ mem => absurd mem List.not_mem_nil, rfl⟩

theorem CarriesAll.cons {v : Value} {vs : List Value} {w : WireValue} {ws : List WireValue}
    (first : Carries k v w) (rest : CarriesAll k vs ws) : CarriesAll k (v :: vs) (w :: ws) where
  wellFormed := by rw [allWellFormed, first.wellFormed, rest.wellFormed]; rfl
  type_eq := List.forall_mem_cons.2 ⟨first.type_eq, rest.type_eq⟩
  decoded := by rw [decodeAll, first.decoded, rest.decoded]; rfl

theorem CarriesEntries.nil : CarriesEntries k [] [] :=
  ⟨rfl, fun _ mem => absurd mem List.not_mem_nil, fun _ => rfl⟩

theorem CarriesEntries.cons {key : String} {v : Value} {es : List (String × Value)} {w : WireValue}
    {ws : List (WireValue × WireValue)} (first : Carries k v w) (rest : CarriesEntries k es ws) :
    CarriesEntries k ((key, v) :: es) ((.string key, w) :: ws) where
  wellFormed := by rw [entriesWellFormed, first.wellFormed, rest.wellFormed]; rfl
  type_eq := List.forall_mem_cons.2 ⟨⟨rfl, first.type_eq⟩, rest.type_eq⟩
  decoded into := by
    rw [decodeEntries, first.decoded]
    exact rest.decoded _

namespace Carries

theorem scalar (s : Scalar) : Carries (.basic s.type) (.scalar s) (.scalar s) :=
  ⟨Kind.basic_readable _, rfl, rfl, rfl⟩

theorem string (s : String) : Carries (.basic .string) (.string s) (.string s) :=
  ⟨Kind.basic_readable _, rfl, rfl, rfl⟩

theorem objectPath {p : Path} (h : p.isWellFormed = true) :
    Carries (.basic .objectPath) (.objectPath p) (.objectPath p) :=
  ⟨Kind.basic_readable _, h, rfl, rfl⟩

/-- Decoding looks through a variant. -/
theorem boxed {v : Value} {w : WireValue} (h : Carries k v w) : Carries .variant v (.variant w) :=
  ⟨Kind.variant_readable, h.wellFormed, rfl, h.decoded⟩

theorem array {vs : List Value} {ws : List WireValue} (readable : Kind.struct [] ∉ k.parts)
    (h : CarriesAll k vs ws) : Carries (.array k) (.array vs) (.array k.toWireType ws) where
  readable := by simpa [Kind.parts] using readable
  wellFormed := by
    rw [isWellFormed, h.wellFormed, Bool.and_true, List.all_eq_true]
    exact fun w mem => decide_eq_true (h.type_eq w mem)
  type_eq := rfl
  decoded := by rw [decode, h.decoded]; rfl

theorem dict {es : List (String × Value)} {ws : List (WireValue × WireValue)}
    (readable : Kind.struct [] ∉ k.parts) (h : CarriesEntries k es ws) :
    Carries (.dict k) (.dict es) (.dict (.basic .string) k.toWireType ws) where
  readable := by simpa [Kind.parts] using readable
  wellFormed := by
    rw [isWellFormed, h.wellFormed, Bool.and_true, List.all_eq_true]
    intro w mem
    obtain ⟨key, value⟩ := h.type_eq w mem
    rw [Bool.and_eq_true]
    exact ⟨decide_eq_true key, decide_eq_true value⟩
  type_eq := rfl
  decoded := by rw [decode, h.decoded]; rfl

/-- The text of the kind is what the value travels under, and is read as the kind. -/
theorem typeText {v : Value} {w : WireValue} (h : Carries k v w) :
    w.typeText = k.text ∧ Kind.parse w.typeText = .ok k := by
  have text : w.typeText = k.text := by rw [WireValue.typeText, h.type_eq, Kind.text]
  exact ⟨text, by rw [text, Kind.parse_text h.readable]⟩

/-- The kind that a value is carried under is the kind it is decoded with, unless that is for any
value. -/
theorem decodeTyped {v : Value} {w : WireValue} (h : Carries k v w) (typed : k ≠ .variant) :
    w.decodeTyped = .ok ⟨v.canonical, k⟩ := by
  have held : Kind.ofWireType? w.type = some k := by
    rw [h.type_eq, Kind.ofWireType?_toWireType]
  have look : w.decodeTyped = w.decode >>= fun v => .ok ⟨v, k⟩ := by
    unfold WireValue.decodeTyped
    split
    · cases held
      exact absurd rfl typed
    · rw [held]
      rfl
  rw [look, h.decoded]
  rfl

end Carries

end WireValue

/-! ## 3. What encoding yields -/

namespace Value

open WireValue (Carries CarriesAll CarriesEntries)

theorem encodePath_carries (p : Path) :
    Yields (Carries (.basic .objectPath) (.objectPath p)) (encodePath p) := by
  unfold encodePath
  split
  next wellFormed => exact .ok (.objectPath wellFormed)
  next => exact .error _

theorem encodeBasic_carries (t : BasicType) (v : Value) :
    Yields (Carries (.basic t) v) (encodeBasic t v) := by
  unfold encodeBasic
  split
  next =>
    cases v with
    | objectPath p => exact encodePath_carries p
    | _ => exact .error _
  next s => exact .ok (.string s)
  next s _ =>
    split
    next same => exact .ok (same ▸ .scalar s)
    next => exact .error _
  next => exact .error _

theorem encodeArray_carries (k : Kind) (items : List Value) :
    Yields (Carries (.array k) (.array items)) (encodeArray k items) := by
  unfold encodeArray
  split
  next => exact .error _
  next t _ =>
    refine Yields.bind (P := CarriesAll (.basic t) items) ?_ fun ws all =>
      .ok (.array (Kind.basic_readable t) all)
    -- on the items, as each is encoded by itself
    induction items with
    | nil => exact .ok .nil
    | cons v vs ih =>
      rw [List.mapM_cons]
      exact (encodeBasic_carries t v).bind fun w first => ih.bind fun ws rest =>
        .ok (.cons first rest)
  next => exact .error _

theorem encodeDict_carries (k : Kind) (entries : List (String × Value)) :
    Yields (Carries (.dict k) (.dict entries)) (encodeDict k entries) := by
  unfold encodeDict
  split
  next =>
    refine Yields.bind (P := CarriesEntries (.basic .string) entries) ?_ fun ws all =>
      .ok (.dict (Kind.basic_readable _) all)
    induction entries with
    | nil => exact .ok .nil
    | cons e es ih =>
      rw [List.mapM_cons]
      refine ((encodeBasic_carries .string e.2).bind (Q := fun f =>
        ∃ w, Carries (.basic .string) e.2 w ∧ f = (.string e.1, w)) fun w first =>
          .ok ⟨w, first, rfl⟩).bind ?_
      rintro _ ⟨w, first, rfl⟩
      exact ih.bind fun ws rest => .ok (.cons first rest)
  next => exact .error _

mutual

theorem encodeNatural_carries : (v : Value) → Yields (Carries v.kind v) (encodeNatural v)
  | scalar s => .ok (.scalar s)
  | string s => .ok (.string s)
  | objectPath p => encodePath_carries p
  | array items => by
      rw [encodeNatural, kind]
      split
      next any =>
        -- items of no common kind are boxed
        rw [any]
        exact (encodeItems_carries items).bind fun ws all =>
          .ok (.array Kind.variant_readable all)
      next => exact encodeArray_carries _ items
  | dict entries => by
      rw [encodeNatural, kind]
      split
      next any =>
        rw [any]
        exact (encodeEntries_carries entries).bind fun ws all =>
          .ok (.dict Kind.variant_readable all)
      next => exact encodeDict_carries _ entries

/-- Every item is boxed under its natural kind. -/
theorem encodeItems_carries : (vs : List Value) →
    Yields (fun ws => CarriesAll .variant vs (ws.map .variant)) (encodeItems vs)
  | [] => .ok .nil
  | v :: vs => (encodeNatural_carries v).bind fun _ first => (encodeItems_carries vs).bind
      fun _ rest => .ok (.cons first.boxed rest)

theorem encodeEntries_carries : (es : List (String × Value)) →
    Yields (fun ws => CarriesEntries .variant es (ws.map fun e => (.string e.1, .variant e.2)))
      (encodeEntries es)
  | [] => .ok .nil
  | (_, v) :: es => (encodeNatural_carries v).bind fun _ first => (encodeEntries_carries es).bind
      fun _ rest => .ok (.cons first.boxed rest)

end

/-- Only basic kinds and variants accept a value that holds no others. -/
theorem basic_of_accepts {v : Value} {k : Kind} (accepted : k.accepts v = true)
    (typed : k ≠ .variant) (items : ∀ vs, v ≠ .array vs) (entries : ∀ es, v ≠ .dict es) :
    ∃ t, k = .basic t := by
  cases k with
  | basic t => exact ⟨t, rfl⟩
  | variant => exact absurd rfl typed
  | _ =>
    cases v with
    | array vs => exact absurd rfl (items vs)
    | dict es => exact absurd rfl (entries es)
    | _ => simp [Kind.accepts] at accepted

/-- A value that its kind accepts is carried under the kind, if it is sent at all. -/
theorem encodeAccepted_carries {v : Value} {k : Kind} (accepted : k.accepts v = true)
    (typed : k ≠ .variant) : Yields (Carries k v) (encodeAccepted v k) := by
  unfold encodeAccepted
  split
  next => exact absurd rfl typed
  next => exact .error _
  next => exact .error _
  next s _ _ _ =>
    obtain ⟨t, rfl⟩ := basic_of_accepts accepted typed nofun nofun
    rw [Kind.accepts, decide_eq_true_eq] at accepted
    exact .ok (accepted ▸ .scalar s)
  next s _ _ notSignature =>
    obtain ⟨t, rfl⟩ := basic_of_accepts accepted typed nofun nofun
    rw [Kind.accepts, Bool.or_eq_true, decide_eq_true_eq, decide_eq_true_eq] at accepted
    -- a text is sent as a string; one that is to be sent as a signature is refused before
    rcases accepted with rfl | rfl
    · exact .ok (.string s)
    · exact absurd rfl notSignature
  next p _ _ _ =>
    obtain ⟨t, rfl⟩ := basic_of_accepts accepted typed nofun nofun
    rw [Kind.accepts, decide_eq_true_eq] at accepted
    rw [accepted]
    exact encodePath_carries p
  next items =>
    exact (encodeItems_carries items).bind fun _ all => .ok (.array Kind.variant_readable all)
  next k items _ => exact encodeArray_carries k items
  next entries =>
    exact (encodeEntries_carries entries).bind fun _ all => .ok (.dict Kind.variant_readable all)
  next k entries _ => exact encodeDict_carries k entries
  next => exact .error _

theorem kind_ne_variant (v : Value) : v.kind ≠ .variant := by
  cases v <;> simp [kind]

theorem encode_carries {v : Value} {k : Kind} {w : WireValue} (sent : v.encode k = .ok w) :
    Carries (if k = .variant then v.kind else k) v w := by
  unfold encode at sent
  split at sent
  case isFalse => cases sent
  case isTrue accepted =>
  split
  next any =>
    subst any
    exact encodeNatural_carries v w sent
  next typed => exact encodeAccepted_carries accepted typed w sent

end Value

/-- Decoding undoes encoding, the signature included. What is encoded under a kind other than
variant is decoded with that kind, and travels under its text; what is encoded under variant is
decoded with the natural kind of the value. The value comes back with every dictionary in order,
which is the value itself if its dictionaries were in order already. -/
theorem decode_undoes_encode {v : Value} {k : Kind} {w : WireValue} (sent : v.encode k = .ok w) :
    w.decode = .ok v.canonical
      ∧ (k ≠ .variant → w.decodeTyped = .ok ⟨v.canonical, k⟩ ∧ w.typeText = k.text
          ∧ Kind.parse w.typeText = .ok k)
      ∧ (k = .variant → w.decodeTyped = .ok ⟨v.canonical, v.kind⟩)
      ∧ (v.isCanonical = true → v.canonical = v) := by
  have carried := Value.encode_carries sent
  refine ⟨carried.decoded, fun typed => ?_, fun any => ?_, v.canonical_of_isCanonical⟩
  · rw [if_neg typed] at carried
    exact ⟨carried.decodeTyped typed, carried.typeText⟩
  · rw [if_pos any] at carried
    exact carried.decodeTyped v.kind_ne_variant

/-- Settings with an empty list, and a list of mixed items that has an empty dictionary in it, are
sent alike as a dictionary of variants and as a variant. -/
theorem nested_settings_come_back :
    let v : Value := .dict [("Domains", .array []), ("Metric", .scalar (.uint32 600)),
      ("Proxy", .array [.scalar (.bool true), .dict [], .objectPath "/p"])]
    let inner : WireValue := .dict (.basic .string) .variant
      [(.string "Domains", .variant (.array .variant [])),
        (.string "Metric", .variant (.scalar (.uint32 600))),
        (.string "Proxy", .variant (.array .variant
          [.variant (.scalar (.bool true)), .variant (.dict (.basic .string) .variant []),
            .variant (.objectPath "/p")]))]
    v.encode (.dict .variant) = .ok inner ∧ v.encode .variant = .ok inner
      ∧ inner.decode = .ok v
      ∧ inner.decodeTyped = .ok ⟨v, .dict .variant⟩
      ∧ inner.decodeTyped = .ok ⟨v, v.kind⟩
      ∧ inner.typeText = "a\x7bsv\x7d" := by
  intro v inner
  have sent : v.encode (.dict .variant) = .ok inner := by subst v inner; rfl
  have sent' : v.encode .variant = .ok inner := by subst v inner; rfl
  obtain ⟨decoded, typed, -, ordered⟩ := decode_undoes_encode sent
  obtain ⟨-, -, natural, -⟩ := decode_undoes_encode sent'
  have same : v.canonical = v := ordered (by subst v; rfl)
  obtain ⟨held, text, -⟩ := typed (by decide)
  rw [same] at decoded held natural
  exact ⟨sent, sent', decoded, held, natural rfl, text.trans (by decide)⟩

end BusCache
