import BusCache.Wire.Encode

/-!
# Encoding — the kinds that fit a value, and why it cannot be sent

The natural kind of a value accepts it. A value is encoded under a kind if the kind accepts it, and
what can go wrong after that is one of two things: the bus does not carry a kind, be it the one that
was asked for or the natural kind of something in the value, or a path in the value is malformed.
-/

namespace BusCache

/-! ## 1. What can go wrong -/

/-- There is an error instead of a result. -/
def Fails {α : Type} (x : Except BusError α) : Prop := ∃ error, x = .error error

namespace Fails

variable {α β : Type}

@[simp] theorem error (e : BusError) : Fails (.error e : Except BusError α) := ⟨e, rfl⟩

@[simp] theorem not_ok (a : α) : ¬ Fails (.ok a) := by
  rintro ⟨_, h⟩
  cases h

theorem not_iff {x : Except BusError α} : ¬ Fails x ↔ ∃ a, x = .ok a := by
  cases x with
  | error e => simp
  | ok a => simp

theorem bind_iff {x : Except BusError α} {f : α → Except BusError β} :
    Fails (x >>= f) ↔ Fails x ∨ ∃ a, x = .ok a ∧ Fails (f a) := by
  cases x with
  | error e => exact iff_of_true (error e) (.inl (error e))
  | ok a =>
    constructor
    · exact fun h => .inr ⟨a, rfl, h⟩
    · rintro (h | ⟨b, same, h⟩)
      · exact absurd h (not_ok a)
      · rwa [← Except.ok.inj same] at h

/-- What goes on whatever it is given fails if either part does. -/
theorem bind_iff_or {x : Except BusError α} {f : α → Except BusError β} {P : Prop}
    (rest : ∀ a, Fails (f a) ↔ P) : Fails (x >>= f) ↔ Fails x ∨ P := by
  rw [bind_iff]
  simp only [rest]
  cases x with
  | error e => exact iff_of_true (.inl (error e)) (.inl (error e))
  | ok a =>
    constructor
    · exact Or.imp_right fun ⟨_, _, h⟩ => h
    · exact Or.imp_right fun h => ⟨a, rfl, h⟩

theorem map_iff {x : Except BusError α} {f : α → β} :
    Fails (x >>= fun a => pure (f a)) ↔ Fails x := by
  have never : ∀ a, Fails (pure (f a) : Except BusError β) ↔ False :=
    fun a => iff_false_intro (not_ok (f a))
  rw [bind_iff_or never, or_false]

end Fails

/-- What fails does so with one of some errors. -/
def OnlyFails {α : Type} (P : BusError → Prop) (x : Except BusError α) : Prop :=
  ∀ error, x = .error error → P error

namespace OnlyFails

variable {α β : Type} {P : BusError → Prop}

theorem ok (a : α) : OnlyFails P (.ok a) := by
  intro error h
  cases h

theorem error {e : BusError} (h : P e) : OnlyFails P (.error e : Except BusError α) := by
  intro error he
  rwa [← Except.error.inj he]

theorem mono {Q : BusError → Prop} {x : Except BusError α} (wider : ∀ e, P e → Q e)
    (h : OnlyFails P x) : OnlyFails Q x :=
  fun error he => wider error (h error he)

theorem bind {x : Except BusError α} {f : α → Except BusError β} (first : OnlyFails P x)
    (rest : ∀ a, x = .ok a → OnlyFails P (f a)) : OnlyFails P (x >>= f) := by
  cases hx : x with
  | error e =>
    intro error h
    exact first error (hx.trans (congrArg Except.error (Except.error.inj h)))
  | ok a => exact rest a hx

end OnlyFails

section Each

variable {α β : Type} {f g : α → Except BusError β} {xs : List α}

theorem mapM_congr (same : ∀ x ∈ xs, f x = g x) : xs.mapM f = xs.mapM g := by
  induction xs with
  | nil => rfl
  | cons x xs ih =>
    obtain ⟨first, rest⟩ := List.forall_mem_cons.1 same
    rw [List.mapM_cons, List.mapM_cons, first, ih rest]

theorem mapM_fails_iff : Fails (xs.mapM f) ↔ ∃ x ∈ xs, Fails (f x) := by
  induction xs with
  | nil => exact iff_of_false (Fails.not_ok _) (by simp)
  | cons x xs ih =>
    rw [List.mapM_cons, Fails.bind_iff_or fun _ => Fails.map_iff, ih]
    simp

/-- The first failure is that of all. -/
theorem mapM_error {before after : List α} {x : α} {error : BusError}
    (passes : ∀ y ∈ before, ¬ Fails (f y)) (failed : f x = .error error) :
    (before ++ x :: after).mapM f = .error error := by
  induction before with
  | nil =>
    rw [List.nil_append, List.mapM_cons, failed]
    rfl
  | cons y before ih =>
    obtain ⟨first, rest⟩ := List.forall_mem_cons.1 passes
    obtain ⟨b, ok⟩ := Fails.not_iff.1 first
    rw [List.cons_append, List.mapM_cons, ok, ih rest]
    rfl

end Each

/-- The bus cannot carry the value: there are no values of its kind there, or a part of it is not
what it has to be. -/
def BusError.Unsendable : BusError → Prop
  | unsupportedSignature _ => True
  | typeMismatch _ _ => True
  | _ => False

/-! ## 2. The natural kind -/

namespace Value

theorem kinds_eq_map (vs : List Value) : kinds vs = vs.map kind := by
  induction vs with
  | nil => rfl
  | cons v vs ih => rw [kinds, ih, List.map_cons]

theorem entryKinds_eq_map (es : List (String × Value)) :
    entryKinds es = es.map fun e => e.2.kind := by
  induction es with
  | nil => rfl
  | cons e es ih => rw [entryKinds, ih, List.map_cons]

/-- What several kinds have in common is each of them, or else nothing. -/
theorem commonKind_cases {ks : List Kind} {k : Kind} (mem : k ∈ ks) :
    commonKind ks = .variant ∨ commonKind ks = k := by
  cases ks with
  | nil => cases mem
  | cons first rest =>
    show (if rest.all (· = first) then first else .variant) = .variant
      ∨ (if rest.all (· = first) then first else .variant) = k
    split
    · rename_i same
      right
      rcases List.mem_cons.mp mem with rfl | later
      · rfl
      · exact (of_decide_eq_true (List.all_eq_true.mp same k later)).symm
    · exact .inl rfl

theorem variant_accepts (v : Value) : Kind.variant.accepts v = true := by
  unfold Kind.accepts
  rfl

/-- What accepts a value under one of several kinds also does so under what they have in common. -/
theorem commonKind_accepts {ks : List Kind} {v : Value} (mem : v.kind ∈ ks)
    (natural : v.kind.accepts v = true) : (commonKind ks).accepts v = true := by
  rcases commonKind_cases mem with any | same
  · rw [any]
    exact variant_accepts v
  · rw [same]
    exact natural

mutual

theorem kind_accepts : (v : Value) → v.kind.accepts v = true
  | scalar s => by simp [kind, Kind.accepts]
  | string _ => by simp [kind, Kind.accepts]
  | objectPath _ => by simp [kind, Kind.accepts]
  | array items => by
      rw [kind, Kind.accepts, List.all_eq_true]
      intro v mem
      apply commonKind_accepts _ (kinds_accept items v mem)
      rw [kinds_eq_map]
      exact List.mem_map_of_mem mem
  | dict entries => by
      rw [kind, Kind.accepts, List.all_eq_true]
      intro e mem
      apply commonKind_accepts _ (entryKinds_accept entries e mem)
      rw [entryKinds_eq_map]
      exact List.mem_map.mpr ⟨e, mem, rfl⟩

theorem kinds_accept : (vs : List Value) → ∀ v ∈ vs, v.kind.accepts v = true
  | [] => by simp
  | first :: rest => by
      intro v mem
      rcases List.mem_cons.mp mem with here | later
      · rw [here]
        exact kind_accepts first
      · exact kinds_accept rest v later

theorem entryKinds_accept : (es : List (String × Value)) → ∀ e ∈ es, e.2.kind.accepts e.2 = true
  | [] => by simp
  | (key, first) :: rest => by
      intro e mem
      rcases List.mem_cons.mp mem with here | later
      · rw [here]
        exact kind_accepts first
      · exact entryKinds_accept rest e later

end

/-! ## 3. What is inside a value -/

/-- A value is another one, or one of what that holds, however deep inside. -/
inductive Within : Value → Value → Prop
  | self (v : Value) : Within v v
  | item {u v : Value} {items : List Value} (mem : v ∈ items) (inside : Within u v) :
      Within u (.array items)
  | entry {u : Value} {e : String × Value} {entries : List (String × Value)} (mem : e ∈ entries)
      (inside : Within u e.2) : Within u (.dict entries)

end Value

/-- Whether the bus carries values of a kind: of the basic ones all but signatures, lists of these,
dictionaries of strings, and lists and dictionaries of variants. -/
def Kind.isSendable : Kind → Bool
  | variant => true
  | basic t => t ≠ .signature
  | array variant => true
  | array (basic t) => t ≠ .signature
  | dict variant => true
  | dict (basic .string) => true
  | _ => false

namespace Kind

theorem array_isSendable {k : Kind} (h : (array k).isSendable = true) :
    k = variant ∨ ∃ t, k = basic t ∧ t ≠ .signature := by
  cases k with
  | basic t => exact .inr ⟨t, rfl, of_decide_eq_true h⟩
  | variant => exact .inl rfl
  | _ => cases h

theorem dict_isSendable {k : Kind} (h : (dict k).isSendable = true) :
    k = variant ∨ k = basic .string := by
  cases k with
  | basic t => cases t <;> first | exact .inr rfl | cases h
  | variant => exact .inl rfl
  | _ => cases h

end Kind

namespace Value

/-- What keeps a value from being sent. Somewhere inside is a value of a natural kind that the bus
does not carry, or a path that is malformed. -/
inductive Obstacle (v : Value) : BusError → Prop
  | kind {u : Value} (inside : u.Within v) (unsendable : u.kind.isSendable = false) :
      Obstacle v (.unsupportedSignature u.kind.text)
  | path {p : Path} (inside : (objectPath p).Within v) (malformed : p.isWellFormed = false) :
      Obstacle v (.typeMismatch "object-path" ("malformed path " ++ Text.quoted p))

namespace Obstacle

variable {error : BusError}

theorem item {v : Value} {items : List Value} (mem : v ∈ items) (h : v.Obstacle error) :
    (array items).Obstacle error := by
  cases h with
  | kind inside unsendable => exact .kind (.item mem inside) unsendable
  | path inside malformed => exact .path (.item mem inside) malformed

theorem entry {e : String × Value} {entries : List (String × Value)} (mem : e ∈ entries)
    (h : e.2.Obstacle error) : (dict entries).Obstacle error := by
  cases h with
  | kind inside unsendable => exact .kind (.entry mem inside) unsendable
  | path inside malformed => exact .path (.entry mem inside) malformed

theorem unsendable {v : Value} (h : v.Obstacle error) : error.Unsendable := by
  cases h <;> trivial

end Obstacle

/-! ## 4. Accepted contents are encoded one by one -/

theorem encodeItems_eq_mapM (vs : List Value) : encodeItems vs = vs.mapM encodeNatural := by
  induction vs with
  | nil => rfl
  | cons v vs ih =>
    rw [encodeItems, List.mapM_cons, ih]

theorem encodeEntries_eq_mapM (es : List (String × Value)) :
    encodeEntries es = es.mapM fun e => do return (e.1, ← encodeNatural e.2) := by
  induction es with
  | nil => rfl
  | cons e es ih =>
    rw [encodeEntries, List.mapM_cons, ih]
    cases encodeNatural e.2 <;> rfl

theorem encodeArray_unsupported {k : Kind} {items : List Value}
    (unsendable : (Kind.array k).isSendable = false) :
    encodeArray k items = .error (.unsupportedSignature (Kind.array k).text) := by
  cases k with
  | basic t => cases t <;> first | rfl | cases unsendable
  | variant => cases unsendable
  | _ => rfl

theorem encodeDict_unsupported {k : Kind} {entries : List (String × Value)}
    (unsendable : (Kind.dict k).isSendable = false) :
    encodeDict k entries = .error (.unsupportedSignature (Kind.dict k).text) := by
  unfold encodeDict
  split
  · cases unsendable
  · rfl

/-- What a basic kind accepts is of that natural kind, but for texts that are to be signatures. -/
theorem basic_accepts_cases {t : BasicType} {v : Value} (sendable : t ≠ .signature)
    (accepted : (Kind.basic t).accepts v = true) :
    (∃ s, v = scalar s ∧ t = s.type) ∨ (∃ s, v = string s ∧ t = .string)
      ∨ ∃ p, v = objectPath p ∧ t = .objectPath := by
  cases v with
  | scalar s =>
    rw [Kind.accepts, decide_eq_true_eq] at accepted
    exact .inl ⟨s, rfl, accepted.symm⟩
  | string s =>
    rw [Kind.accepts, Bool.or_eq_true, decide_eq_true_eq, decide_eq_true_eq] at accepted
    exact .inr (.inl ⟨s, rfl, accepted.resolve_right sendable⟩)
  | objectPath p =>
    rw [Kind.accepts, decide_eq_true_eq] at accepted
    exact .inr (.inr ⟨p, rfl, accepted⟩)
  | _ => simp [Kind.accepts] at accepted

theorem encodeBasic_of_accepts {t : BasicType} {v : Value} (sendable : t ≠ .signature)
    (accepted : (Kind.basic t).accepts v = true) : encodeBasic t v = encodeNatural v := by
  rcases basic_accepts_cases sendable accepted with ⟨s, rfl, rfl⟩ | ⟨s, rfl, rfl⟩ | ⟨p, rfl, rfl⟩
  · cases s <;> rfl
  · rfl
  · rfl

/-- The items of a list of a basic kind are encoded as they are by themselves. -/
theorem encodeArray_of_accepts {t : BasicType} {items : List Value} (sendable : t ≠ .signature)
    (accepted : ∀ v ∈ items, (Kind.basic t).accepts v = true) :
    encodeArray (.basic t) items = do return .array (.basic t) (← encodeItems items) := by
  have each : items.mapM (encodeBasic t) = encodeItems items := by
    rw [encodeItems_eq_mapM]
    exact mapM_congr fun v mem => encodeBasic_of_accepts sendable (accepted v mem)
  rw [← each]
  unfold encodeArray
  split
  · rename_i signature
    exact absurd (Kind.basic.inj signature) sendable
  · rename_i same
    rw [Kind.basic.inj same]
  · rename_i other
    exact absurd rfl (other t)

/-- The strings of a dictionary are encoded as they are by themselves. -/
theorem encodeDict_of_accepts {entries : List (String × Value)}
    (accepted : ∀ e ∈ entries, (Kind.basic .string).accepts e.2 = true) :
    encodeDict (.basic .string) entries = do
      return .dict (.basic .string) (.basic .string)
        ((← encodeEntries entries).map fun e => (.string e.1, e.2)) := by
  have each : (entries.mapM fun e => do
      return (WireValue.string e.1, ← encodeBasic .string e.2)) =
        (encodeEntries entries).map fun es => es.map fun e => (.string e.1, e.2) := by
    induction entries with
    | nil => rfl
    | cons e es ih =>
      obtain ⟨first, rest⟩ := List.forall_mem_cons.mp accepted
      rw [List.mapM_cons, encodeBasic_of_accepts (by decide) first, ih rest, encodeEntries]
      cases encodeNatural e.2 <;> cases encodeEntries es <;> rfl
  unfold encodeDict
  dsimp only
  rw [each]
  cases encodeEntries entries <;> rfl

/-- What a list or a dictionary of a kind accepts is accepted one by one. -/
theorem accepts_item {k : Kind} {items : List Value}
    (accepted : (Kind.array k).accepts (array items) = true) : ∀ v ∈ items, k.accepts v = true := by
  rwa [Kind.accepts, List.all_eq_true] at accepted

theorem accepts_entry {k : Kind} {entries : List (String × Value)}
    (accepted : (Kind.dict k).accepts (dict entries) = true) :
    ∀ e ∈ entries, k.accepts e.2 = true := by
  rwa [Kind.accepts, List.all_eq_true] at accepted

/-! ## 5. Why a value cannot be sent -/

/-- What keeps a value from being sent under a kind that accepts it: the bus does not carry the
kind, or there is an obstacle in the value. -/
def ObstacleUnder (v : Value) (k : Kind) (error : BusError) : Prop :=
  k.isSendable = false ∧ error = .unsupportedSignature k.text ∨ v.Obstacle error

theorem ObstacleUnder.natural {v : Value} (error : BusError) (h : v.ObstacleUnder v.kind error) :
    v.Obstacle error := by
  rcases h with ⟨unsendable, rfl⟩ | obstacle
  · exact .kind (.self v) unsendable
  · exact obstacle

theorem encodePath_obstacle {v : Value} {p : Path} (inside : (objectPath p).Within v) :
    OnlyFails v.Obstacle (encodePath p) := by
  unfold encodePath
  split
  · exact .ok _
  · rename_i malformed
    exact .error (.path inside (Bool.not_eq_true _ ▸ malformed))

theorem encodeArray_obstacle {k : Kind} {items : List Value} (typed : k ≠ .variant)
    (accepted : ∀ v ∈ items, k.accepts v = true)
    (each : OnlyFails (array items).Obstacle (encodeItems items)) :
    OnlyFails ((array items).ObstacleUnder (.array k)) (encodeArray k items) := by
  cases sendable : (Kind.array k).isSendable with
  | false =>
    rw [encodeArray_unsupported sendable]
    exact .error (.inl ⟨sendable, rfl⟩)
  | true =>
    obtain rfl | ⟨t, rfl, text⟩ := Kind.array_isSendable sendable
    · exact absurd rfl typed
    · rw [encodeArray_of_accepts text accepted]
      exact (each.mono fun _ => .inr).bind fun _ _ => .ok _

theorem encodeDict_obstacle {k : Kind} {entries : List (String × Value)} (typed : k ≠ .variant)
    (accepted : ∀ e ∈ entries, k.accepts e.2 = true)
    (each : OnlyFails (dict entries).Obstacle (encodeEntries entries)) :
    OnlyFails ((dict entries).ObstacleUnder (.dict k)) (encodeDict k entries) := by
  cases sendable : (Kind.dict k).isSendable with
  | false =>
    rw [encodeDict_unsupported sendable]
    exact .error (.inl ⟨sendable, rfl⟩)
  | true =>
    obtain rfl | rfl := Kind.dict_isSendable sendable
    · exact absurd rfl typed
    · rw [encodeDict_of_accepts accepted]
      exact (each.mono fun _ => .inr).bind fun _ _ => .ok _

mutual

theorem encodeNatural_obstacle : (v : Value) → OnlyFails v.Obstacle (encodeNatural v)
  | scalar _ => .ok _
  | string _ => .ok _
  | objectPath p => encodePath_obstacle (.self _)
  | array items => by
      have each : OnlyFails (array items).Obstacle (encodeItems items) :=
        (encodeItems_obstacle items).mono fun _ ⟨_, mem, h⟩ => h.item mem
      have accepted := accepts_item (kind_accepts (array items))
      rw [encodeNatural]
      split
      next => exact each.bind fun _ _ => .ok _
      next typed => exact (encodeArray_obstacle typed accepted each).mono ObstacleUnder.natural
  | dict entries => by
      have each : OnlyFails (dict entries).Obstacle (encodeEntries entries) :=
        (encodeEntries_obstacle entries).mono fun _ ⟨_, mem, h⟩ => h.entry mem
      have accepted := accepts_entry (kind_accepts (dict entries))
      rw [encodeNatural]
      split
      next => exact each.bind fun _ _ => .ok _
      next typed => exact (encodeDict_obstacle typed accepted each).mono ObstacleUnder.natural

theorem encodeItems_obstacle : (vs : List Value) →
    OnlyFails (fun error => ∃ v ∈ vs, v.Obstacle error) (encodeItems vs)
  | [] => .ok _
  | v :: vs =>
      .bind ((encodeNatural_obstacle v).mono fun _ h => ⟨v, List.mem_cons_self, h⟩) fun _ _ =>
        .bind ((encodeItems_obstacle vs).mono fun _ ⟨w, mem, h⟩ =>
          ⟨w, List.mem_cons_of_mem v mem, h⟩) fun _ _ => .ok _

theorem encodeEntries_obstacle : (es : List (String × Value)) →
    OnlyFails (fun error => ∃ e ∈ es, e.2.Obstacle error) (encodeEntries es)
  | [] => .ok _
  | (k, v) :: es =>
      .bind ((encodeNatural_obstacle v).mono fun _ h => ⟨(k, v), List.mem_cons_self, h⟩)
        fun _ _ => .bind ((encodeEntries_obstacle es).mono fun _ ⟨e, mem, h⟩ =>
          ⟨e, List.mem_cons_of_mem (k, v) mem, h⟩) fun _ _ => .ok _

end

/-- A value that its kind accepts is sent, or there is an obstacle. -/
theorem encodeAccepted_obstacle {v : Value} {k : Kind} (accepted : k.accepts v = true) :
    OnlyFails (v.ObstacleUnder k) (encodeAccepted v k) := by
  have inside : ∀ {x : Except BusError WireValue}, OnlyFails v.Obstacle x →
      OnlyFails (v.ObstacleUnder k) x := fun fails => fails.mono fun _ => .inr
  unfold encodeAccepted
  split
  · exact inside (encodeNatural_obstacle _)
  · exact .error (.inl ⟨rfl, rfl⟩)
  · exact .error (.inl ⟨rfl, rfl⟩)
  · exact .ok _
  · exact .ok _
  · exact inside (encodePath_obstacle (.self _))
  · exact inside (((encodeItems_obstacle _).mono fun _ ⟨_, mem, h⟩ => h.item mem).bind
      fun _ _ => .ok _)
  · rename_i typed
    exact encodeArray_obstacle typed (accepts_item accepted)
      ((encodeItems_obstacle _).mono fun _ ⟨_, mem, h⟩ => h.item mem)
  · exact inside (((encodeEntries_obstacle _).mono fun _ ⟨_, mem, h⟩ => h.entry mem).bind
      fun _ _ => .ok _)
  · rename_i typed
    exact encodeDict_obstacle typed (accepts_entry accepted)
      ((encodeEntries_obstacle _).mono fun _ ⟨_, mem, h⟩ => h.entry mem)
  · -- no kind that is left accepts a value that is left
    rename_i notVariant notStruct _ notScalar notString notPath _ notArray _ notDict
    exfalso
    cases v with
    | scalar s => exact notScalar s rfl
    | string s => exact notString s rfl
    | objectPath p => exact notPath p rfl
    | array items =>
      cases k with
      | variant => exact notVariant rfl
      | struct fields => exact notStruct fields rfl
      | array element => exact notArray element items rfl rfl
      | _ => simp [Kind.accepts] at accepted
    | dict entries =>
      cases k with
      | variant => exact notVariant rfl
      | struct fields => exact notStruct fields rfl
      | dict value => exact notDict value entries rfl rfl
      | _ => simp [Kind.accepts] at accepted

/-- A value is refused because its kind does not accept it, or because there is an obstacle. -/
theorem encode_error_cases {v : Value} {k : Kind} {error : BusError}
    (failed : v.encode k = .error error) :
    k.accepts v = false ∧ error = .signatureMismatch k.text v.kind.text
      ∨ k.accepts v = true ∧ v.ObstacleUnder k error := by
  unfold encode at failed
  split at failed
  · rename_i accepted
    exact .inr ⟨accepted, encodeAccepted_obstacle accepted error failed⟩
  · rename_i refused
    rw [Bool.not_eq_true] at refused
    exact .inl ⟨refused, (Except.error.inj failed).symm⟩

/-- A value is refused because its kind does not accept it, or because the bus cannot carry it. -/
theorem encode_error {v : Value} {kind : Kind} {error : BusError}
    (failed : v.encode kind = .error error) :
    kind.accepts v = false ∧ error = .signatureMismatch kind.text v.kind.text
      ∨ kind.accepts v = true ∧ error.Unsendable := by
  rcases encode_error_cases failed with refused | ⟨accepted, ⟨_, rfl⟩ | obstacle⟩
  · exact .inl refused
  · exact .inr ⟨accepted, trivial⟩
  · exact .inr ⟨accepted, obstacle.unsendable⟩

end Value

end BusCache
