import BusCache.Proofs.Decoding
import BusCache.Proofs.Session.Decomposition
import Mathlib.Data.List.Basic

/-!
# Undecodable input — why a message cannot be read

Decoding fails for two reasons only: somewhere inside is a file handle, or a dictionary has a key
that is no text. A property travels with its type, which must not name such things either, even if
the value has none of them. From this follows for each message that a session reads what is wrong
with one that it cannot read, wherever in the message that is.
-/

namespace BusCache

/-! ## 1. Values -/

namespace WireValue

/-- A value out of its variants. -/
def unboxed : WireValue → WireValue
  | variant w => unboxed w
  | w => w

/-- A text of any of the three types of text, boxed or not. -/
def IsText (w : WireValue) : Prop :=
  match w.unboxed with
  | string _ | objectPath _ | signature _ => True
  | _ => False

/-- Somewhere inside is a file handle, or a key of a dictionary that is no text. -/
inductive Undecodable : WireValue → Prop
  | handle (number : Nat) : Undecodable (.handle number)
  | boxed {w : WireValue} (inside : Undecodable w) : Undecodable (.variant w)
  | item {type : WireType} {items : List WireValue} {w : WireValue} (mem : w ∈ items)
      (inside : Undecodable w) : Undecodable (.array type items)
  | field {fields : List WireValue} {w : WireValue} (mem : w ∈ fields) (inside : Undecodable w) :
      Undecodable (.struct fields)
  | key {key value : WireType} {entries : List (WireValue × WireValue)}
      {entry : WireValue × WireValue} (mem : entry ∈ entries) (keyless : ¬ entry.1.IsText) :
      Undecodable (.dict key value entries)
  | value {key value : WireType} {entries : List (WireValue × WireValue)}
      {entry : WireValue × WireValue} (mem : entry ∈ entries) (inside : Undecodable entry.2) :
      Undecodable (.dict key value entries)

theorem keyText_fails_iff : (w : WireValue) → (Fails (keyText w) ↔ ¬ w.IsText)
  | variant w => keyText_fails_iff w
  | string s => iff_of_false (Fails.not_ok s) (not_not_intro trivial)
  | objectPath p => iff_of_false (Fails.not_ok p) (not_not_intro trivial)
  | signature _ => iff_of_false (Fails.not_ok _) (not_not_intro trivial)
  | scalar _ => iff_of_true (Fails.error _) id
  | array _ _ => iff_of_true (Fails.error _) id
  | dict _ _ _ => iff_of_true (Fails.error _) id
  | struct _ => iff_of_true (Fails.error _) id
  | handle _ => iff_of_true (Fails.error _) id

theorem decodeAll_fails_iff (ws : List WireValue) :
    Fails (decodeAll ws) ↔ ∃ w ∈ ws, Fails (decode w) := by
  induction ws with
  | nil => exact iff_of_false (Fails.not_ok []) fun ⟨_, mem, _⟩ => List.not_mem_nil mem
  | cons w ws ih =>
    rw [decodeAll, Fails.bind_iff_or fun _ => Fails.map_iff, ih, List.exists_mem_cons_iff]

theorem decodeEntries_fails_iff (es : List (WireValue × WireValue))
    (into : List (String × Value)) :
    Fails (decodeEntries es into) ↔ ∃ e ∈ es, ¬ e.1.IsText ∨ Fails (decode e.2) := by
  induction es generalizing into with
  | nil => exact iff_of_false (Fails.not_ok into) fun ⟨_, mem, _⟩ => List.not_mem_nil mem
  | cons e es ih =>
    obtain ⟨k, w⟩ := e
    rw [decodeEntries, Fails.bind_iff_or fun _ => Fails.bind_iff_or fun _ => ih _,
      keyText_fails_iff, List.exists_mem_cons_iff, or_assoc]

/-- What is undecodable inside makes the whole fail. -/
theorem Undecodable.decode_fails {w : WireValue} (h : Undecodable w) : Fails (decode w) := by
  induction h with
  | handle => exact Fails.error _
  | boxed _ ih => exact ih
  | item mem _ ih => exact Fails.map_iff.mpr ((decodeAll_fails_iff _).mpr ⟨_, mem, ih⟩)
  | field mem _ ih => exact Fails.map_iff.mpr ((decodeAll_fails_iff _).mpr ⟨_, mem, ih⟩)
  | key mem keyless =>
    exact Fails.map_iff.mpr ((decodeEntries_fails_iff _ _).mpr ⟨_, mem, .inl keyless⟩)
  | value mem _ ih =>
    exact Fails.map_iff.mpr ((decodeEntries_fails_iff _ _).mpr ⟨_, mem, .inr ih⟩)

mutual

theorem undecodable_of_fails : (w : WireValue) → Fails (decode w) → Undecodable w
  | scalar s, h => absurd h (Fails.not_ok _)
  | string _, h => absurd h (Fails.not_ok _)
  | objectPath _, h => absurd h (Fails.not_ok _)
  | signature _, h => absurd h (Fails.not_ok _)
  | variant w, h => .boxed (undecodable_of_fails w h)
  | array _ items, h => by
      rw [decode] at h
      obtain ⟨w, mem, fails⟩ := (decodeAll_fails_iff items).mp (Fails.map_iff.mp h)
      exact .item mem (undecodable_of_mem items w mem fails)
  | dict _ _ entries, h => by
      rw [decode] at h
      obtain ⟨e, mem, keyless | fails⟩ :=
        (decodeEntries_fails_iff entries []).mp (Fails.map_iff.mp h)
      · exact .key mem keyless
      · exact .value mem (undecodable_of_entry entries e mem fails)
  | struct fs, h => by
      rw [decode] at h
      obtain ⟨w, mem, fails⟩ := (decodeAll_fails_iff fs).mp (Fails.map_iff.mp h)
      exact .field mem (undecodable_of_mem fs w mem fails)
  | handle n, _ => .handle n

theorem undecodable_of_mem : (ws : List WireValue) →
    ∀ w ∈ ws, Fails (decode w) → Undecodable w
  | [], _, mem, _ => absurd mem List.not_mem_nil
  | w :: ws, _, mem, h =>
      match List.mem_cons.mp mem with
      | .inl same => same ▸ undecodable_of_fails w (same ▸ h)
      | .inr later => undecodable_of_mem ws _ later h

theorem undecodable_of_entry : (es : List (WireValue × WireValue)) →
    ∀ e ∈ es, Fails (decode e.2) → Undecodable e.2
  | [], _, mem, _ => absurd mem List.not_mem_nil
  | (_, w) :: es, e, mem, h =>
      match List.mem_cons.mp mem with
      | .inl same => by
          subst same
          exact undecodable_of_fails w h
      | .inr later => undecodable_of_entry es e later h

end

theorem decode_fails_iff (w : WireValue) : Fails (decode w) ↔ w.Undecodable :=
  ⟨undecodable_of_fails w, Undecodable.decode_fails⟩

/-! ## 2. Properties -/

end WireValue

/-- Somewhere inside, a type names file handles, or a dictionary whose keys are no text. -/
inductive WireType.Unheld : WireType → Prop
  | handle : Unheld .handle
  | item {e : WireType} (inside : Unheld e) : Unheld (.array e)
  | key {k v : WireType} (keyless : Kind.isKeyType k = false) : Unheld (.dict k v)
  | value {k v : WireType} (inside : Unheld v) : Unheld (.dict k v)
  | field {fs : List WireType} {t : WireType} (mem : t ∈ fs) (inside : Unheld t) :
      Unheld (.struct fs)

namespace Kind

theorem ofWireTypes?_eq_none_iff (ts : List WireType) :
    ofWireTypes? ts = none ↔ ∃ t ∈ ts, ofWireType? t = none := by
  induction ts with
  | nil => exact iff_of_false (Option.some_ne_none []) fun ⟨_, mem, _⟩ => List.not_mem_nil mem
  | cons t ts ih =>
    rw [List.exists_mem_cons_iff, ← ih, ofWireTypes?]
    cases ofWireType? t <;> cases ofWireTypes? ts <;> simp

theorem ofWireType?_of_unheld {t : WireType} (h : t.Unheld) : ofWireType? t = none := by
  induction h with
  | handle => rfl
  | item _ ih => rw [ofWireType?, ih, Option.map_none]
  | key keyless => rw [ofWireType?, keyless, if_neg Bool.false_ne_true]
  | value _ ih => rw [ofWireType?, ih, Option.map_none, ite_self]
  | field mem _ ih =>
    rw [ofWireType?, (ofWireTypes?_eq_none_iff _).mpr ⟨_, mem, ih⟩, Option.map_none]

mutual

theorem unheld_of_none : (t : WireType) → ofWireType? t = none → t.Unheld
  | .basic _, h => by cases h
  | .handle, _ => .handle
  | .variant, h => by cases h
  | .array e, h => by
      rw [ofWireType?, Option.map_eq_none_iff] at h
      exact .item (unheld_of_none e h)
  | .dict k v, h => by
      rw [ofWireType?] at h
      split at h
      · exact .value (unheld_of_none v (Option.map_eq_none_iff.mp h))
      · rename_i keyless
        exact .key (Bool.eq_false_iff.mpr keyless)
  | .struct fs, h => by
      rw [ofWireType?, Option.map_eq_none_iff] at h
      obtain ⟨t, mem, none⟩ := (ofWireTypes?_eq_none_iff fs).mp h
      exact .field mem (unheld_of_mem fs t mem none)

theorem unheld_of_mem : (ts : List WireType) → ∀ t ∈ ts, ofWireType? t = none → t.Unheld
  | [], _, mem, _ => absurd mem List.not_mem_nil
  | t :: ts, _, mem, h =>
      match List.mem_cons.mp mem with
      | .inl same => same ▸ unheld_of_none t (same ▸ h)
      | .inr later => unheld_of_mem ts _ later h

end

theorem ofWireType?_eq_none_iff (t : WireType) : ofWireType? t = none ↔ t.Unheld :=
  ⟨unheld_of_none t, ofWireType?_of_unheld⟩

end Kind

namespace WireValue

/-- A property cannot be held: its value cannot be decoded, or its type cannot be kept. -/
def Unheld (w : WireValue) : Prop := w.Undecodable ∨ w.unboxed.type.Unheld

/-- A property is decoded out of its variants, under the kind of its type. -/
theorem decodeTyped_eq : (w : WireValue) → decodeTyped w =
    match Kind.ofWireType? w.unboxed.type with
    | none => .error (.unsupportedSignature w.unboxed.typeText)
    | some kind => (decode w).map fun value => ⟨value, kind⟩
  | variant w => decodeTyped_eq w
  | scalar _ => rfl
  | string _ => rfl
  | objectPath _ => rfl
  | signature _ => rfl
  | array _ _ => rfl
  | dict _ _ _ => rfl
  | struct _ => rfl
  | handle _ => rfl

theorem decodeTyped_fails_iff (w : WireValue) : Fails (decodeTyped w) ↔ w.Unheld := by
  unfold Unheld
  rw [decodeTyped_eq, ← decode_fails_iff, ← Kind.ofWireType?_eq_none_iff]
  cases Kind.ofWireType? w.unboxed.type with
  | none => exact iff_of_true (Fails.error _) (.inr rfl)
  | some kind =>
    cases decode w with
    | error e => exact iff_of_true (Fails.error e) (.inl (Fails.error e))
    | ok value => exact iff_of_false (Fails.not_ok _) (by simp)

/-- Is no set of properties: no dictionary, or one with an entry whose key is no text or whose value
cannot be held as a property. -/
def NoProperties : WireValue → Prop
  | dict _ _ entries => ∃ e ∈ entries, ¬ e.1.IsText ∨ e.2.Unheld
  | _ => True

theorem decodePropertyEntries_fails_iff (es : List (WireValue × WireValue)) (into : Cache) :
    Fails (decodePropertyEntries es into) ↔ ∃ e ∈ es, ¬ e.1.IsText ∨ e.2.Unheld := by
  induction es generalizing into with
  | nil => exact iff_of_false (Fails.not_ok into) fun ⟨_, mem, _⟩ => List.not_mem_nil mem
  | cons e es ih =>
    obtain ⟨k, w⟩ := e
    rw [decodePropertyEntries, Fails.bind_iff_or fun _ => Fails.bind_iff_or fun _ => ih _,
      keyText_fails_iff, decodeTyped_fails_iff, List.exists_mem_cons_iff, or_assoc]

theorem decodeProperties_fails_iff (w : WireValue) :
    Fails (decodeProperties w) ↔ w.NoProperties := by
  cases w with
  | dict k v entries => exact decodePropertyEntries_fails_iff entries []
  | _ => exact iff_of_true (Fails.error _) trivial

end WireValue

/-! ## 3. Forms -/

/-- What a value looks like from outside. -/
inductive Form where
  | scalar
  | string
  | path
  | list
  | dict
deriving DecidableEq

def Value.form : Value → Form
  | scalar _ => .scalar
  | string _ => .string
  | objectPath _ => .path
  | array _ => .list
  | dict _ => .dict

namespace WireValue

/-- What a wire value looks like once it is decoded. -/
def form? : WireValue → Option Form
  | variant w => form? w
  | scalar _ => some .scalar
  | string _ => some .string
  | signature _ => some .string
  | objectPath _ => some .path
  | array _ _ => some .list
  | struct _ => some .list
  | dict _ _ _ => some .dict
  | handle _ => none

theorem decode_form : (w : WireValue) → Yields (fun v => w.form? = some v.form) (decode w)
  | variant w => decode_form w
  | scalar _ => .ok rfl
  | string _ => .ok rfl
  | signature _ => .ok rfl
  | objectPath _ => .ok rfl
  | array _ _ => .after fun _ => .ok rfl
  | struct _ => .after fun _ => .ok rfl
  | dict _ _ _ => .after fun _ => .ok rfl
  | handle _ => .error _

theorem decodeAll_fails_iff_undecodable (ws : List WireValue) :
    Fails (decodeAll ws) ↔ ∃ w ∈ ws, w.Undecodable := by
  simp only [decodeAll_fails_iff, decode_fails_iff]

/-- There are no arguments of which the first has a certain form: it is missing or has another one,
or one of the arguments cannot be decoded. -/
def Misheaded (form : Form) (ws : List WireValue) : Prop :=
  (∀ w ∈ ws.head?, w.form? ≠ some form) ∨ ∃ w ∈ ws, w.Undecodable

theorem Misheaded.decodeAll {form : Form} {ws : List WireValue} (h : Misheaded form ws) :
    Yields (fun vs => ∀ v ∈ vs.head?, v.form ≠ form) (decodeAll ws) := by
  rcases h with other | undecodable
  · cases ws with
    | nil => exact .ok fun _ mem => by cases mem
    | cons w ws =>
      rw [WireValue.decodeAll]
      refine w.decode_form.bind fun v same => .after fun vs => .ok fun _ mem => ?_
      rw [← Option.mem_some.mp mem]
      rintro rfl
      exact other w rfl same
  · obtain ⟨e, fails⟩ := (decodeAll_fails_iff_undecodable ws).mpr undecodable
    rw [fails]
    exact .error e

end WireValue

/-! ## 4. Replies -/

/-- A reply does not bring what its call is for: it is an error, or one of its arguments cannot be
decoded, or it is to a fetch and its first argument is no set of properties. -/
def CallPurpose.Unreadable : CallPurpose → Except BusError (List WireValue) → Prop
  | _, .error _ => True
  | call, .ok body => ∃ w ∈ body, w.Undecodable
  | sync, .ok body => (∀ w ∈ body.head?, w.NoProperties) ∨ ∃ w ∈ body, w.Undecodable

theorem WireValue.propertiesOfReply_fails_iff (ws : List WireValue) :
    Fails (propertiesOfReply ws) ↔ ∀ w ∈ ws.head?, w.NoProperties := by
  cases ws with
  | nil => exact iff_of_true (Fails.error _) fun _ mem => by cases mem
  | cons w ws =>
    rw [propertiesOfReply, decodeProperties_fails_iff, List.head?_cons]
    exact ⟨fun h _ mem => Option.mem_some.mp mem ▸ h, fun h => h w rfl⟩

/-- A completion is told an error exactly if the reply cannot be read. -/
theorem CallPurpose.outcome_fails_iff (purpose : CallPurpose)
    (result : Except BusError (List WireValue)) :
    Fails (purpose.outcome result) ↔ purpose.Unreadable result := by
  cases result with
  | error e =>
    cases purpose <;> exact iff_of_true (Fails.error e) trivial
  | ok body =>
    cases purpose with
    | call => exact WireValue.decodeAll_fails_iff_undecodable body
    | sync =>
      show Fails (WireValue.propertiesOfReply body >>= fun _ => WireValue.decodeAll body) ↔ _
      rw [Fails.bind_iff_or fun _ => WireValue.decodeAll_fails_iff_undecodable body,
        WireValue.propertiesOfReply_fails_iff]
      rfl

/-- A reply does not bring what its route takes it for; that to the question who owns the service's
name does not start with a name. -/
def CallRoute.Unreadable : CallRoute → Except BusError (List WireValue) → Prop
  | element _ _ purpose, result => purpose.Unreadable result
  | nameOwner, .error _ => True
  | nameOwner, .ok body => WireValue.Misheaded .string body

/-! ## 5. Signals -/

/-- A signal cannot be read as what its route takes it for. A change of one property is a name and a
property; changes of several are the name of an interface, a set of properties and, if there is
more, a list; and the object that comes or goes is named by a path. -/
def SignalRoute.Malformed : SignalRoute → List WireValue → Prop
  | propertyChanged _, [name, value] => name.form? ≠ some .string ∨ value.Unheld
  | propertyChanged _, _ => True
  | propertiesChanged _, interface :: changed :: rest =>
      interface.form? ≠ some .string ∨ changed.NoProperties
        ∨ ∃ w ∈ rest.head?, w.Undecodable ∨ w.form? ≠ some .list
  | propertiesChanged _, _ => True
  | lifecycle _, args => WireValue.Misheaded .path args
  | forward _, args => ∃ w ∈ args, w.Undecodable
  | nameOwner, _ => True

section Signals

theorem propertyChangeOf_pair (name value : WireValue) :
    propertyChangeOf [name, value] =
      name.decode >>= fun name => value.decodeTyped >>= fun p =>
        match name with
        | .string name => .ok (some (name, p))
        | _ => .ok none := rfl

theorem propertyChangesOf_cons (interface changed : WireValue) (rest : List WireValue) :
    propertyChangesOf (interface :: changed :: rest) =
      interface.decode >>= fun interface => changed.decodeProperties >>= fun changed =>
        rest.head?.elim (.ok (.array [])) WireValue.decode >>= fun invalidated =>
          match interface, invalidated with
          | .string interface, .array names =>
              .ok (some { interface, changed, invalidated := names.filterMap Value.asString? })
          | _, _ => .ok none := by
  cases rest <;> rfl

variable {args : List WireValue}

theorem propertyChangeOf_of_malformed {path : Path}
    (h : (SignalRoute.propertyChanged path).Malformed args) :
    Yields (· = none) (propertyChangeOf args) := by
  match args, h with
  | [name, value], h =>
    rw [propertyChangeOf_pair]
    rcases h with other | unheld
    · refine name.decode_form.bind fun v form => .after fun p => ?_
      cases v with
      | string s => exact absurd form other
      | _ => exact .ok rfl
    · obtain ⟨e, fails⟩ := value.decodeTyped_fails_iff.mpr unheld
      rw [fails]
      exact .after fun v => .error e
  | [], _ => exact .ok rfl
  | [_], _ => exact .ok rfl
  | _ :: _ :: _ :: _, _ => exact .ok rfl

theorem propertyChangesOf_of_malformed {path : Path}
    (h : (SignalRoute.propertiesChanged path).Malformed args) :
    Yields (· = none) (propertyChangesOf args) := by
  match args, h with
  | interface :: changed :: rest, h =>
    rw [propertyChangesOf_cons]
    rcases h with other | noProperties | ⟨w, first, h⟩
    · refine interface.decode_form.bind fun v form => .after fun _ => .after fun _ => ?_
      cases v with
      | string s => exact absurd form other
      | _ => exact .ok rfl
    · obtain ⟨e, fails⟩ := changed.decodeProperties_fails_iff.mpr noProperties
      rw [fails]
      exact .after fun v => .error e
    · -- the part that may be missing is read last, after all else was fine
      rw [Option.mem_def.mp first, Option.elim_some]
      refine .after fun i => .after fun c => ?_
      rcases h with undecodable | other
      · obtain ⟨e, fails⟩ := w.decode_fails_iff.mpr undecodable
        rw [fails]
        exact .error e
      · refine w.decode_form.bind fun v form => ?_
        cases v with
        | array items => exact absurd form other
        | _ => cases i <;> exact .ok rfl
  | [], _ => exact .ok rfl
  | [_], _ => exact .ok rfl

end Signals

end BusCache
