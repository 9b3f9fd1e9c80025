import BusCache.Proofs.Encoding
import BusCache.Proofs.Tables
import BusCache.Wire.Decode

/-!
# Decoding — values fit the kinds they travelled under

The containers of a wire value declare what they hold. If they hold what they declare, the kind of
the value's type accepts what the value is decoded to: an array decodes item by item to values of
its one kind, a structure field by field, and a dictionary entry by entry whatever its keys are. So
every property that is decoded fits the kind that it is cached with.
-/

namespace BusCache

/-! ## 1. What comes of a success -/

/-- What succeeds does so with one of some results. -/
def Yields {α : Type} (P : α → Prop) (x : Except BusError α) : Prop := ∀ a, x = .ok a → P a

namespace Yields

variable {α β : Type} {P : α → Prop} {Q : β → Prop}

theorem ok {a : α} (h : P a) : Yields P (.ok a) := by
  intro b hb
  rwa [← Except.ok.inj hb]

theorem error (e : BusError) : Yields P (.error e) := by
  intro a h
  cases h

theorem bind {x : Except BusError α} {f : α → Except BusError β} (first : Yields P x)
    (rest : ∀ a, P a → Yields Q (f a)) : Yields Q (x >>= f) := by
  cases hx : x with
  | error e => exact error e
  | ok a => exact rest a (first a hx)

theorem self (x : Except BusError α) : Yields (fun a => x = .ok a) x := fun _ h => h

/-- Whatever comes of the first part, the rest is as it should be. -/
theorem after {x : Except BusError α} {f : α → Except BusError β} (rest : ∀ a, Yields Q (f a)) :
    Yields Q (x >>= f) :=
  bind (P := fun _ => True) (fun _ _ => trivial) fun a _ => rest a

end Yields

/-! ## 2. Typed wire values -/

namespace WireValue

mutual

/-- Whether containers hold what they declare. -/
def isTyped : WireValue → Bool
  | scalar _ => true
  | string _ => true
  | objectPath _ => true
  | signature _ => true
  | variant w => isTyped w
  | array e items => items.all (fun w => w.type = e) && allTyped items
  | dict k v entries =>
      entries.all (fun e => e.1.type = k && e.2.type = v) && entriesTyped entries
  | struct fs => allTyped fs
  | handle _ => true

def allTyped : List WireValue → Bool
  | [] => true
  | w :: ws => isTyped w && allTyped ws

def entriesTyped : List (WireValue × WireValue) → Bool
  | [] => true
  | (k, v) :: es => isTyped k && isTyped v && entriesTyped es

end

mutual

/-- The kind of a wire type accepts what is decoded from wire values of the type. -/
theorem decode_accepts : (w : WireValue) → {kind : Kind} → w.isTyped = true →
    Kind.ofWireType? w.type = some kind → Yields (fun v => kind.accepts v = true) (decode w)
  | scalar s, _, _, held => by
      rw [← Option.some.inj held]
      exact .ok (by simp [Kind.accepts])
  | string _, _, _, held => by
      rw [← Option.some.inj held]
      exact .ok (by simp [Kind.accepts])
  | objectPath _, _, _, held => by
      rw [← Option.some.inj held]
      exact .ok (by simp [Kind.accepts])
  | signature _, _, _, held => by
      -- a signature is held as text
      rw [← Option.some.inj held]
      exact .ok (by simp [Kind.accepts])
  | variant w, _, _, held => by
      rw [← Option.some.inj held]
      exact fun v _ => Value.variant_accepts v
  | array e items, _, typed, held => by
      rw [isTyped, Bool.and_eq_true, List.all_eq_true] at typed
      rw [type, Kind.ofWireType?, Option.map_eq_some_iff] at held
      obtain ⟨element, held, rfl⟩ := held
      have same : ∀ w ∈ items, w.type = e := fun w mem => of_decide_eq_true (typed.1 w mem)
      rw [decode]
      refine (decodeAll_accepts items typed.2 same held).bind fun vs accepted => .ok ?_
      rw [Kind.accepts, List.all_eq_true]
      exact accepted
  | dict k v entries, _, typed, held => by
      rw [isTyped, Bool.and_eq_true, List.all_eq_true] at typed
      rw [type, Kind.ofWireType?] at held
      have same : ∀ e ∈ entries, e.2.type = v := by
        intro e mem
        have both := typed.1 e mem
        rw [Bool.and_eq_true] at both
        exact of_decide_eq_true both.2
      split at held
      · rw [Option.map_eq_some_iff] at held
        obtain ⟨value, held, rfl⟩ := held
        rw [decode]
        refine (decodeEntries_accept entries typed.2 same held ?_).bind fun all accepted => .ok ?_
        · exact fun _ mem => absurd mem List.not_mem_nil
        · rw [Kind.accepts, List.all_eq_true]
          exact accepted
      · -- nothing is held under keys that are not text
        cases held
  | struct fs, _, typed, held => by
      rw [isTyped] at typed
      rw [type, Kind.ofWireType?, Option.map_eq_some_iff] at held
      obtain ⟨fields, held, rfl⟩ := held
      rw [decode]
      refine (decodeAll_acceptsEach fs typed held).bind fun vs accepted => .ok ?_
      rw [Kind.accepts]
      exact accepted
  | handle _, _, _, held => by cases held

theorem decodeAll_accepts : (ws : List WireValue) → {type : WireType} → {kind : Kind} →
    allTyped ws = true → (∀ w ∈ ws, w.type = type) → Kind.ofWireType? type = some kind →
    Yields (fun vs => ∀ v ∈ vs, kind.accepts v = true) (decodeAll ws)
  | [], _, _, _, _, _ => .ok fun _ mem => absurd mem List.not_mem_nil
  | w :: ws, type, kind, typed, same, held => by
      rw [allTyped, Bool.and_eq_true] at typed
      obtain ⟨here, later⟩ := List.forall_mem_cons.mp same
      rw [← here] at held
      rw [decodeAll]
      refine (decode_accepts w typed.1 held).bind fun v first => ?_
      refine (decodeAll_accepts ws typed.2 later (here ▸ held)).bind fun vs rest => .ok ?_
      exact List.forall_mem_cons.mpr ⟨first, rest⟩

theorem decodeAll_acceptsEach : (ws : List WireValue) → {kinds : List Kind} →
    allTyped ws = true → Kind.ofWireTypes? (types ws) = some kinds →
    Yields (fun vs => Kind.acceptsEach kinds vs = true) (decodeAll ws)
  | [], _, _, held => by
      rw [← Option.some.inj held]
      exact .ok (by simp [Kind.acceptsEach])
  | w :: ws, kinds, typed, held => by
      rw [allTyped, Bool.and_eq_true] at typed
      rw [types, Kind.ofWireTypes?] at held
      split at held
      · rename_i kind kinds first rest
        cases held
        rw [decodeAll]
        refine (decode_accepts w typed.1 first).bind fun v accepted => ?_
        refine (decodeAll_acceptsEach ws typed.2 rest).bind fun vs others => .ok ?_
        rw [Kind.acceptsEach, accepted, others]
        rfl
      · cases held

theorem decodeEntries_accept : (es : List (WireValue × WireValue)) → {type : WireType} →
    {kind : Kind} → {into : List (String × Value)} → entriesTyped es = true →
    (∀ e ∈ es, e.2.type = type) → Kind.ofWireType? type = some kind →
    (∀ e ∈ into, kind.accepts e.2 = true) →
    Yields (fun all => ∀ e ∈ all, kind.accepts e.2 = true) (decodeEntries es into)
  | [], _, _, _, _, _, _, before => .ok before
  | (k, w) :: es, type, kind, into, typed, same, held, before => by
      rw [entriesTyped, Bool.and_eq_true, Bool.and_eq_true] at typed
      obtain ⟨here, later⟩ := List.forall_mem_cons.mp same
      dsimp only at here
      rw [decodeEntries]
      refine .after fun key => ?_
      refine (decode_accepts w typed.1.2 (here ▸ held)).bind fun v accepted => ?_
      -- the new entry fits, and so do those that were read before
      refine decodeEntries_accept es typed.2 later held fun e mem => ?_
      rcases Table.mem_of_mem_set mem with rfl | old
      · exact accepted
      · exact before e old

end

end WireValue

/-! ## 3. Properties -/

/-- The kind of a property accepts its value. -/
def Property.Fits (p : Property) : Prop := p.kind.accepts p.value = true

def Cache.Fits (c : Cache) : Prop := ∀ entry ∈ c, entry.2.Fits

namespace Cache.Fits

variable {c : Cache}

theorem empty : Cache.Fits [] := fun _ mem => absurd mem List.not_mem_nil

theorem set (h : c.Fits) {p : Property} (fits : p.Fits) (name : String) :
    Cache.Fits (Table.set c name p) := by
  intro entry mem
  rcases Table.mem_of_mem_set mem with rfl | old
  · exact fits
  · exact h entry old

theorem erase (h : c.Fits) (name : String) : Cache.Fits (Table.erase c name) :=
  fun entry mem => h entry (List.mem_filter.mp mem).1

theorem merge (h : c.Fits) {fetched : Cache} (fits : fetched.Fits) :
    Cache.Fits (fetched.foldl (fun c p => Table.set c p.1 p.2) c) := by
  induction fetched generalizing c with
  | nil => exact h
  | cons entry rest ih =>
    obtain ⟨first, others⟩ := List.forall_mem_cons.mp fits
    exact ih (h.set first entry.1) others

theorem of_get? (h : c.Fits) {name : String} {p : Property} (held : Table.get? c name = some p) :
    p.Fits :=
  h (name, p) (Table.mem_of_get? held)

end Cache.Fits

namespace WireValue

/-- A value that is no variant is decoded under the kind of its type. -/
theorem decode_fits {w : WireValue} (typed : w.isTyped = true) :
    Yields Property.Fits
      (match Kind.ofWireType? w.type with
        | none => .error (.unsupportedSignature w.typeText)
        | some kind => do return ⟨← decode w, kind⟩) := by
  split
  · exact .error _
  · rename_i kind held
    exact (decode_accepts w typed held).bind fun v accepted => .ok accepted

theorem decodeTyped_fits : (w : WireValue) → w.isTyped = true →
    Yields Property.Fits (decodeTyped w)
  | variant w, typed => decodeTyped_fits w typed
  | scalar _, typed => decode_fits typed
  | string _, typed => decode_fits typed
  | objectPath _, typed => decode_fits typed
  | signature _, typed => decode_fits typed
  | array _ _, typed => decode_fits typed
  | dict _ _ _, typed => decode_fits typed
  | struct _, typed => decode_fits typed
  | handle _, typed => decode_fits typed

theorem decodePropertyEntries_fits {entries : List (WireValue × WireValue)} {into : Cache}
    (typed : entriesTyped entries = true) (before : into.Fits) :
    Yields Cache.Fits (decodePropertyEntries entries into) := by
  induction entries generalizing into with
  | nil => exact .ok before
  | cons entry rest ih =>
    obtain ⟨k, w⟩ := entry
    rw [entriesTyped, Bool.and_eq_true, Bool.and_eq_true] at typed
    refine .after fun key => ?_
    exact (decodeTyped_fits w typed.1.2).bind fun p fits => ih typed.2 (before.set fits key)

theorem decodeProperties_fits {w : WireValue} (typed : w.isTyped = true) :
    Yields Cache.Fits (decodeProperties w) := by
  cases w with
  | dict k v entries =>
    rw [isTyped, Bool.and_eq_true] at typed
    exact decodePropertyEntries_fits typed.2 .empty
  | _ => exact .error _

theorem propertiesOfReply_fits {ws : List WireValue} (typed : allTyped ws = true) :
    Yields Cache.Fits (propertiesOfReply ws) := by
  cases ws with
  | nil => exact .error _
  | cons w rest =>
    rw [allTyped, Bool.and_eq_true] at typed
    exact decodeProperties_fits typed.1

end WireValue

end BusCache
