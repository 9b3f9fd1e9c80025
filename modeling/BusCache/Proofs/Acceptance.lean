import BusCache.Proofs.Encoding

/-!
# Acceptance — one check at the start decides

Whether a kind accepts a value is checked once, before the value is encoded. The encoder then goes
on to the contents of the value, each of them under a kind that is worked out on the way, and does
not ask again. It need not: whatever it comes to is accepted there. To say this, the encoder is
written with answers for what would not fit (`Fallback`). Once the check has passed, it does not
matter what these answers are, however deep inside a value they would be given.
-/

namespace BusCache

/-! ## 1. The encoder with other answers -/

/-- What is answered where a value does not fit the kind that it is encoded under. -/
structure Fallback where
  /-- The value and the kind have no form in common. -/
  value : Value → Kind → Except BusError WireValue
  /-- An item of a list is not of the basic type of the list. -/
  item : BasicType → Value → Except BusError WireValue
  /-- An item of a list of paths is not a path, and this one is taken instead. -/
  path : Value → Path

namespace Fallback

/-- The answers that the encoder gives. -/
def standard : Fallback where
  value v k := .error (.signatureMismatch k.text v.kind.text)
  item t v := .error (.typeMismatch t.name v.typeName)
  path _ := ""

/-- The answers are those of the encoder, or the value is accepted. -/
def Suits (f : Fallback) (k : Kind) (v : Value) : Prop := f = standard ∨ k.accepts v = true

end Fallback

namespace Value

/-- The kind that a value is encoded under for a target: its natural kind, if the target is for any
value. -/
def resolve (v : Value) : Kind → Kind
  | .variant => v.kind
  | k => k

def encodeBasicOr (f : Fallback) (t : BasicType) (v : Value) : Except BusError WireValue :=
  match t, v with
  | .objectPath, v => encodePath (v.asObjectPath?.getD (f.path v))
  | .string, string s => .ok (.string s)
  | t, scalar s => if s.type = t then .ok (.scalar s) else f.item t (scalar s)
  | t, v => f.item t v

def encodeArrayOr (f : Fallback) (element : Kind) (items : List Value) :
    Except BusError WireValue :=
  match element with
  | .basic .signature => .error (.unsupportedSignature (Kind.array element).text)
  | .basic t => do return .array (.basic t) (← items.mapM (encodeBasicOr f t))
  | _ => .error (.unsupportedSignature (Kind.array element).text)

def encodeDictOr (f : Fallback) (value : Kind) (entries : List (String × Value)) :
    Except BusError WireValue :=
  match value with
  | .basic .string => do
      let encoded ← entries.mapM fun e => do
        return (WireValue.string e.1, ← encodeBasicOr f .string e.2)
      return .dict (.basic .string) (.basic .string) encoded
  | _ => .error (.unsupportedSignature (Kind.dict value).text)

mutual

/-- Encodes a value that was not checked, with given answers where it does not fit. What is boxed
inside goes through all cases again, under its natural kind. -/
def encodeOr (f : Fallback) (v : Value) (k : Kind) : Except BusError WireValue :=
  match v.resolve k, v with
  | .struct fs, _ => .error (.unsupportedSignature (Kind.struct fs).text)
  | .basic .signature, _ => .error (.unsupportedSignature (Kind.basic .signature).text)
  | _, scalar s => .ok (.scalar s)
  | _, string s => .ok (.string s)
  | _, objectPath p => encodePath p
  | .array .variant, array items => do return variantArray (← encodeItemsOr f items)
  | .array element, array items => encodeArrayOr f element items
  | .dict .variant, dict entries => do return variantDict (← encodeEntriesOr f entries)
  | .dict value, dict entries => encodeDictOr f value entries
  | k, v => f.value v k

def encodeItemsOr (f : Fallback) : List Value → Except BusError (List WireValue)
  | [] => .ok []
  | v :: vs => do
      let w ← encodeOr f v v.kind
      let ws ← encodeItemsOr f vs
      return w :: ws

def encodeEntriesOr (f : Fallback) :
    List (String × Value) → Except BusError (List (String × WireValue))
  | [] => .ok []
  | (k, v) :: es => do
      let w ← encodeOr f v v.kind
      let rest ← encodeEntriesOr f es
      return (k, w) :: rest

end

/-! ## 2. When the answers do not matter -/

variable {f : Fallback}

theorem suits_item {k : Kind} {items : List Value} (h : f.Suits (.array k) (array items)) :
    ∀ v ∈ items, f.Suits k v :=
  fun v mem => h.imp_right fun accepted => accepts_item accepted v mem

theorem suits_entry {k : Kind} {entries : List (String × Value)}
    (h : f.Suits (.dict k) (dict entries)) : ∀ e ∈ entries, f.Suits k e.2 :=
  fun e mem => h.imp_right fun accepted => accepts_entry accepted e mem

theorem encodeBasicOr_eq {t : BasicType} {v : Value} (sendable : t ≠ .signature)
    (suits : f.Suits (.basic t) v) : encodeBasicOr f t v = encodeBasic t v := by
  rcases suits with rfl | accepted
  · cases v <;> cases t <;> rfl
  · -- an accepted item is of the type, so it takes the first case that is there for it
    rcases basic_accepts_cases sendable accepted with ⟨s, rfl, rfl⟩ | ⟨s, rfl, rfl⟩ | ⟨p, rfl, rfl⟩
    · cases s <;> rfl
    · rfl
    · rfl

theorem encodeArrayOr_eq {k : Kind} {items : List Value} (suits : ∀ v ∈ items, f.Suits k v) :
    encodeArrayOr f k items = encodeArray k items := by
  cases k with
  | basic t =>
    by_cases signature : t = .signature
    · subst signature
      rfl
    · have each : items.mapM (encodeBasicOr f t) = items.mapM (encodeBasic t) :=
        mapM_congr fun v mem => encodeBasicOr_eq signature (suits v mem)
      have both := congrArg (fun x => x >>= fun ws => .ok (WireValue.array (.basic t) ws)) each
      cases t <;> first | exact absurd rfl signature | exact both
  | _ => rfl

theorem encodeDictOr_eq {k : Kind} {entries : List (String × Value)}
    (suits : ∀ e ∈ entries, f.Suits k e.2) : encodeDictOr f k entries = encodeDict k entries := by
  by_cases strings : k = .basic .string
  · subst strings
    have each : (entries.mapM fun e => do
        return (WireValue.string e.1, ← encodeBasicOr f .string e.2)) =
          entries.mapM fun e => do return (WireValue.string e.1, ← encodeBasic .string e.2) :=
      mapM_congr fun e mem => by rw [encodeBasicOr_eq (by decide) (suits e mem)]
    unfold encodeDictOr encodeDict
    dsimp only
    rw [each]
  · have refused : encodeDict k entries = .error (.unsupportedSignature (Kind.dict k).text) := by
      unfold encodeDict
      split
      · exact absurd rfl strings
      · rfl
    rw [refused]
    unfold encodeDictOr
    split
    · exact absurd rfl strings
    · rfl

theorem resolve_kind (v : Value) : v.resolve v.kind = v.kind := by
  cases v <;> rfl

mutual

/-- Under its natural kind a value fits at every level. -/
theorem encodeOr_kind : (v : Value) → encodeOr f v v.kind = encodeNatural v
  | scalar s => by cases s <;> rfl
  | string s => rfl
  | objectPath p => rfl
  | array items => by
      -- the kind that the items have in common accepts each of them
      have suits : f.Suits (array items).kind (array items) := .inr (kind_accepts _)
      rw [kind] at suits
      unfold encodeOr
      rw [resolve_kind, kind, encodeNatural]
      generalize commonKind (kinds items) = k at suits
      have typed := encodeArrayOr_eq (suits_item suits)
      cases k with
      | variant =>
        dsimp only
        rw [encodeItemsOr_eq items]
      | _ => exact typed
  | dict entries => by
      have suits : f.Suits (dict entries).kind (dict entries) := .inr (kind_accepts _)
      rw [kind] at suits
      unfold encodeOr
      rw [resolve_kind, kind, encodeNatural]
      generalize commonKind (entryKinds entries) = k at suits
      have typed := encodeDictOr_eq (suits_entry suits)
      cases k with
      | variant =>
        dsimp only
        rw [encodeEntriesOr_eq entries]
      | _ => exact typed

theorem encodeItemsOr_eq : (vs : List Value) → encodeItemsOr f vs = encodeItems vs
  | [] => rfl
  | v :: vs => by
      rw [encodeItemsOr, encodeItems, encodeOr_kind v, encodeItemsOr_eq vs]

theorem encodeEntriesOr_eq : (es : List (String × Value)) →
    encodeEntriesOr f es = encodeEntries es
  | [] => rfl
  | (k, v) :: es => by
      rw [encodeEntriesOr, encodeEntries, encodeOr_kind v, encodeEntriesOr_eq es]

end

/-- The answers are given only where the value does not fit at the outermost level. -/
theorem encodeOr_eq {v : Value} {k : Kind} (suits : f.Suits k v) :
    encodeOr f v k = encodeAccepted v k := by
  cases k with
  | variant =>
    have natural : encodeOr f v .variant = encodeOr f v v.kind := by
      unfold encodeOr
      rw [resolve_kind]
      rfl
    rw [natural, encodeOr_kind]
    rfl
  | struct fields => cases v <;> rfl
  | basic t =>
    by_cases signature : t = .signature
    · subst signature
      cases v <;> rfl
    · -- a list or a dictionary is asked about here, but no basic kind accepts one
      rcases suits with rfl | accepted
      · cases t <;> cases v <;> rfl
      · rcases basic_accepts_cases signature accepted with
          ⟨s, rfl, rfl⟩ | ⟨s, rfl, rfl⟩ | ⟨p, rfl, rfl⟩
        · cases s <;> rfl
        · rfl
        · rfl
  | array element =>
    cases v with
    | array items =>
      cases element with
      | variant =>
        show (do return variantArray (← encodeItemsOr f items)) = _
        rw [encodeItemsOr_eq]
        rfl
      | _ => exact encodeArrayOr_eq (suits_item suits)
    | dict entries =>
      rcases suits with rfl | accepted
      · rfl
      · simp [Kind.accepts] at accepted
    | _ => rfl
  | dict value =>
    cases v with
    | dict entries =>
      cases value with
      | variant =>
        show (do return variantDict (← encodeEntriesOr f entries)) = _
        rw [encodeEntriesOr_eq]
        rfl
      | _ => exact encodeDictOr_eq (suits_entry suits)
    | array items =>
      rcases suits with rfl | accepted
      · rfl
      · simp [Kind.accepts] at accepted
    | _ => rfl

end Value

/-! ## 3. The check at the start decides -/

/-- A value is accepted by its natural kind. Encoding reports a mismatch of signatures exactly if
the kind does not accept the value. If it does, what can go wrong is that the bus does not carry the
kind, or the natural kind of something in the value, or that a path in the value is malformed; and
no answer for what does not fit is ever asked for, at any depth. -/
theorem acceptance_is_decisive (v : Value) (k : Kind) :
    v.kind.accepts v = true
    ∧ ((∃ expected found, v.encode k = .error (.signatureMismatch expected found))
      ↔ k.accepts v = false)
    ∧ (k.accepts v = true → ∀ error, v.encode k = .error error →
      (∃ unsent : Kind, (unsent = k ∨ ∃ u : Value, u.Within v ∧ unsent = u.kind)
        ∧ unsent.isSendable = false ∧ error = .unsupportedSignature unsent.text)
      ∨ ∃ p : Path, (Value.objectPath p).Within v ∧ p.isWellFormed = false
        ∧ error = .typeMismatch "object-path" ("malformed path " ++ Text.quoted p))
    ∧ v.encodeOr .standard k = v.encodeAccepted k
    ∧ (k.accepts v = true → ∀ f : Fallback, v.encodeOr f k = v.encode k) := by
  refine ⟨Value.kind_accepts v, ⟨?mismatch, ?refused⟩, ?failures, Value.encodeOr_eq (.inl rfl),
    ?answers⟩
  case mismatch =>
    rintro ⟨expected, found, failed⟩
    rcases Value.encode_error_cases failed with ⟨refused, _⟩ | ⟨_, ⟨_, impossible⟩ | obstacle⟩
    · exact refused
    · cases impossible
    · cases obstacle
  case refused =>
    intro refused
    refine ⟨k.text, v.kind.text, ?_⟩
    rw [Value.encode, refused]
    rfl
  case failures =>
    intro accepted error failed
    rcases Value.encode_error_cases failed with ⟨refused, _⟩ | ⟨_, ⟨unsendable, rfl⟩ | obstacle⟩
    · rw [accepted] at refused
      cases refused
    · exact .inl ⟨k, .inl rfl, unsendable, rfl⟩
    · cases obstacle with
      | kind inside unsendable => exact .inl ⟨_, .inr ⟨_, inside, rfl⟩, unsendable, rfl⟩
      | path inside malformed => exact .inr ⟨_, inside, malformed, rfl⟩
  case answers =>
    intro accepted f
    rw [Value.encodeOr_eq (.inr accepted), Value.encode, accepted]
    rfl

/-- A malformed path is found inside a list in a dictionary, also where a well-formed one would be
taken for what is no path. -/
theorem malformed_path_inside_is_found :
    (Kind.dict .variant).accepts (.dict [("Paths", .array [.objectPath "/a", .objectPath "a"])])
      = true
    ∧ (∃ p : Path, (Value.objectPath p).Within
        (.dict [("Paths", .array [.objectPath "/a", .objectPath "a"])]) ∧ p.isWellFormed = false)
    ∧ Value.encodeOr ⟨fun _ _ => .ok (.string ""), fun _ _ => .ok (.string ""), fun _ => "/"⟩
        (.dict [("Paths", .array [.objectPath "/a", .objectPath "a"])]) (.dict .variant)
      = .error (.typeMismatch "object-path" ("malformed path " ++ Text.quoted "a")) := by
  have decisive := acceptance_is_decisive
    (.dict [("Paths", .array [.objectPath "/a", .objectPath "a"])]) (.dict .variant)
  have accepted : (Kind.dict .variant).accepts
      (.dict [("Paths", .array [.objectPath "/a", .objectPath "a"])]) = true := by decide
  have failed : (Value.dict [("Paths", .array [.objectPath "/a", .objectPath "a"])]).encode
      (.dict .variant)
        = .error (.typeMismatch "object-path" ("malformed path " ++ Text.quoted "a")) := rfl
  refine ⟨accepted, ?path, (decisive.2.2.2.2 accepted _).trans failed⟩
  obtain ⟨_, _, _, impossible⟩ | ⟨p, inside, malformed, _⟩ := decisive.2.2.1 accepted _ failed
  · cases impossible
  · exact ⟨p, inside, malformed⟩

end BusCache
