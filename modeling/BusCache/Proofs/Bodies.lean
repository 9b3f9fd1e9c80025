import BusCache.Proofs.Arguments

/-!
# Bodies — what is read of a message

The signature of a body has no outer parentheses: it has the types of the arguments one after the
other, and the data has nothing that would show where a structure of all of them starts. A reader
takes the signature as that of a single value, so it takes several types for the structure of them,
and it has the arguments if it splits what it took. One type is taken for what it is. If that is
a structure, nothing tells it apart from its fields, and these are split too.

So a body is split into its arguments unless it is one structure (`body_splits_into_arguments_iff`).
The bodies of calls never are, as no structure is encoded.

The first two sections are about the signature: what is written for some types, one after the other,
is read back as these types. Each production of the grammar has a lemma that says what the reader
makes of it; on a type, these are put together as its signature is.
-/

namespace BusCache

namespace WireType

/-! ## 1. Reading types -/

/-- The types that have a signature: no structure in them is empty. -/
inductive Complete : WireType → Prop where
  | basic (t : BasicType) : Complete (.basic t)
  | handle : Complete .handle
  | variant : Complete .variant
  | array {e : WireType} (element : Complete e) : Complete (.array e)
  | dict {k v : WireType} (key : Complete k) (value : Complete v) : Complete (.dict k v)
  | struct {f : WireType} {fs : List WireType} (each : ∀ t ∈ f :: fs, Complete t) :
      Complete (.struct (f :: fs))

theorem Cacheable.complete {t : WireType} (h : Cacheable t) : Complete t := by
  induction h with
  | basic t => exact .basic t
  | variant => exact .variant
  | array _ ih => exact .array ih
  | dict _ _ ih => exact .dict (.basic _) ih
  | struct _ ih => exact .struct ih

theorem Complete.struct_basic (t : BasicType) (ts : List BasicType) :
    Complete (.struct (.basic t :: ts.map .basic)) := by
  refine .struct fun u mem => ?_
  obtain rfl | mem := List.mem_cons.1 mem
  · exact .basic t
  · obtain ⟨b, -, rfl⟩ := List.mem_map.1 mem
    exact .basic b

/-- Something was read, and it left some characters. -/
def Leaves {α : Type} {cs : List Char} (result : Option (α × Shorter cs)) (read : α)
    (rest : List Char) : Prop :=
  ∃ left, result = some (read, left) ∧ left.1 = rest

section Reading

variable {c : Char} {cs after rest : List Char}

theorem read?_code {t : WireType} (code : ofCode? c = some t) :
    Leaves (read? (c :: rest)) t rest := by
  -- neither bracket nor array is the letter of a type
  have noStruct : c ≠ '(' := by rintro rfl; cases code
  have noArray : c ≠ 'a' := by rintro rfl; cases code
  rw [read?, code]
  · exact ⟨_, rfl, rfl⟩
  · exact noStruct
  · exact fun _ array _ => noArray array
  · exact noArray

theorem read?_array {e : WireType} (plain : cs.head? ≠ some '\x7b')
    (element : Leaves (read? cs) e rest) : Leaves (read? ('a' :: cs)) (array e) rest := by
  obtain ⟨left, read, same⟩ := element
  rw [read?, read]
  · exact ⟨_, rfl, same⟩
  · rintro _ rfl
    exact plain rfl

theorem read?_dict {k v : WireType} (key : Leaves (read? cs) k after)
    (value : Leaves (read? after) v ('\x7d' :: rest)) :
    Leaves (read? ('a' :: '\x7b' :: cs)) (dict k v) rest := by
  obtain ⟨left, readKey, rfl⟩ := key
  -- what is left is taken apart, so that the reader sees the brace
  obtain ⟨⟨_, _⟩, readValue, rfl⟩ := value
  rw [read?, readKey]
  simp only [readValue]
  exact ⟨_, rfl, rfl⟩

theorem read?_struct {f : WireType} {fs : List WireType}
    (fields : Leaves (readFields? cs) (f :: fs) rest) :
    Leaves (read? ('(' :: cs)) (struct (f :: fs)) rest := by
  obtain ⟨left, read, same⟩ := fields
  rw [read?, read]
  exact ⟨_, rfl, same⟩

theorem readFields?_nil : Leaves (readFields? (')' :: rest)) [] rest := by
  rw [readFields?]
  exact ⟨_, rfl, rfl⟩

theorem readFields?_cons {t : WireType} {ts : List WireType} (more : c ≠ ')')
    (first : Leaves (read? (c :: cs)) t after) (fields : Leaves (readFields? after) ts rest) :
    Leaves (readFields? (c :: cs)) (t :: ts) rest := by
  obtain ⟨left, readFirst, rfl⟩ := first
  obtain ⟨last, readFields, same⟩ := fields
  rw [readFields?, readFirst]
  · simp only [readFields]
    exact ⟨_, rfl, same⟩
  · exact more

theorem readAll?_cons {t : WireType} {ts : List WireType}
    (first : Leaves (read? (c :: cs)) t after) (others : readAll? after = some ts) :
    readAll? (c :: cs) = some (t :: ts) := by
  obtain ⟨left, read, rfl⟩ := first
  rw [readAll?, read]
  simp only [others, Option.map_some]

end Reading

/-! ## 2. Types are read back -/

theorem ofCode?_code (t : BasicType) : ofCode? t.code = some (basic t) := by cases t <;> rfl

-- On the type. What follows its signature is kept in the statement, as the parts of a type are
-- followed by the rest of it.
mutual

/-- A type is read off the front of what starts with its signature. -/
theorem read?_chars : (t : WireType) → Complete t → (rest : List Char) →
    Leaves (read? (t.chars ++ rest)) t rest
  | .basic t, _, rest => read?_code (ofCode?_code t)
  | .handle, _, rest | .variant, _, rest => read?_code rfl
  | .array e, .array element, rest => by
      obtain ⟨c, cs, first, plain, -⟩ := e.chars_head
      exact read?_array (by simpa [first] using plain) (read?_chars e element rest)
  | .dict k v, .dict key value, rest => by
      have text : (dict k v).chars ++ rest
          = 'a' :: '\x7b' :: (k.chars ++ (v.chars ++ '\x7d' :: rest)) := by simp [chars]
      rw [text]
      exact read?_dict (read?_chars k key _) (read?_chars v value _)
  | .struct (f :: fs), .struct each, rest => by
      have text : (struct (f :: fs)).chars ++ rest
          = '(' :: (charsOfList (f :: fs) ++ ')' :: rest) := by simp [chars]
      rw [text]
      exact read?_struct (readFields?_chars (f :: fs) each rest)

theorem readFields?_chars : (ts : List WireType) → (∀ t ∈ ts, Complete t) → (rest : List Char) →
    Leaves (readFields? (charsOfList ts ++ ')' :: rest)) ts rest
  | [], _, rest => readFields?_nil
  | t :: ts, each, rest => by
      rw [List.forall_mem_cons] at each
      obtain ⟨c, cs, first, -, -, more⟩ := t.chars_head
      have read := read?_chars t each.1 (charsOfList ts ++ ')' :: rest)
      rw [charsOfList, List.append_assoc]
      rw [first] at read ⊢
      exact readFields?_cons more read (readFields?_chars ts each.2 rest)

end

/-- Some types are told apart in their signatures, one after the other. -/
theorem readAll?_charsOfList : (ts : List WireType) → (∀ t ∈ ts, Complete t) →
    readAll? (charsOfList ts) = some ts
  | [], _ => by rw [charsOfList, readAll?]
  | t :: ts, each => by
      rw [List.forall_mem_cons] at each
      obtain ⟨c, cs, first, -⟩ := t.chars_head
      have read := read?_chars t each.1 (charsOfList ts)
      rw [charsOfList]
      rw [first] at read ⊢
      exact readAll?_cons read (readAll?_charsOfList ts each.2)

end WireType

/-! ## 3. Messages -/

/-- The types of the fields of a structure. Any other type stands for itself. -/
def WireType.fields : WireType → List WireType
  | struct ts => ts
  | t => [t]

namespace WireValue

/-- The signature of a body: the types of its arguments, one after the other. -/
def bodySignature (ws : List WireValue) : String := String.ofList (WireType.charsOfList (types ws))

theorem bodyArguments_cases (ws : List WireValue) :
    (∃ fields, ws = [.struct fields] ∧ bodyArguments ws = fields)
      ∨ (∀ fields, ws ≠ [.struct fields]) ∧ bodyArguments ws = ws := by
  unfold bodyArguments
  split
  next fields => exact .inl ⟨fields, rfl, rfl⟩
  next other => exact .inr ⟨other, rfl⟩

/-- The signature of a body is read as a type whose fields have the types of what is taken for the
arguments. -/
theorem ofSignature?_bodySignature {ws : List WireValue} (complete : ∀ t ∈ types ws, t.Complete) :
    WireType.ofSignature? (bodySignature ws) = some none ∧ ws = []
      ∨ ∃ t, WireType.ofSignature? (bodySignature ws) = some (some t)
          ∧ t.fields = types (bodyArguments ws) := by
  have read : WireType.readAll? (bodySignature ws).toList = some (types ws) := by
    rw [bodySignature, String.toList_ofList, WireType.readAll?_charsOfList _ complete]
  unfold WireType.ofSignature?
  rw [read]
  -- one type is taken for what it is, and more than one for the structure of them
  match ws with
  | [] => exact .inl ⟨rfl, rfl⟩
  | [w] => exact .inr ⟨w.type, rfl, by cases w <;> rfl⟩
  | w :: v :: ws => exact .inr ⟨.struct (types (w :: v :: ws)), rfl, by cases w <;> rfl⟩

theorem allWellFormed_bodyArguments {ws : List WireValue} (wellFormed : allWellFormed ws = true) :
    allWellFormed (bodyArguments ws) = true := by
  obtain ⟨fields, rfl, same⟩ | ⟨-, same⟩ := bodyArguments_cases ws
  · rw [allWellFormed, isWellFormed, Bool.and_eq_true, Bool.and_eq_true] at wellFormed
    rw [same]
    exact wellFormed.1.2
  · rwa [same]

end WireValue

open WireValue (types allWellFormed bodySignature bodyArguments bodyArguments_cases)

/-- How the data of a message is laid out. What was put is taken again by those who know the types,
and a structure is laid out as its fields are. -/
structure BodyLayout where
  Data : Type
  put : List WireValue → Data
  take? : List WireType → Data → Option (List WireValue)
  take?_put {ws : List WireValue} (wellFormed : allWellFormed ws = true) :
    take? (types ws) (put ws) = some ws
  put_struct (fields : List WireValue) : put [.struct fields] = put fields

namespace BodyLayout

/-- The arguments that are taken from a message, if its signature can be read. Any data is taken as
that of one structure. -/
def split? (layout : BodyLayout) (signature : String) (data : layout.Data) :
    Option (List WireValue) :=
  match WireType.ofSignature? signature with
  | none => none
  | some none => some []
  | some (some t) => layout.take? t.fields data

variable (layout : BodyLayout)

theorem put_bodyArguments (ws : List WireValue) :
    layout.put (bodyArguments ws) = layout.put ws := by
  obtain ⟨fields, rfl, same⟩ | ⟨-, same⟩ := bodyArguments_cases ws
  · rw [same, layout.put_struct]
  · rw [same]

theorem split?_put {ws : List WireValue} (wellFormed : allWellFormed ws = true)
    (complete : ∀ t ∈ types ws, t.Complete) :
    layout.split? (bodySignature ws) (layout.put ws) = some (bodyArguments ws) := by
  unfold split?
  obtain ⟨empty, rfl⟩ | ⟨t, read, fields⟩ := WireValue.ofSignature?_bodySignature complete
  · rw [empty]
    rfl
  · rw [read]
    dsimp only
    rw [fields, ← layout.put_bodyArguments,
      layout.take?_put (WireValue.allWellFormed_bodyArguments wellFormed)]

/-- The values of a body, with the structures taken off that all of it is in. -/
def unwrap : List WireValue → List WireValue
  | [.struct fields] => unwrap fields
  | ws => ws

/-- Puts the structures of some types around all of the values again. -/
def wrap? : List WireType → List WireValue → Option (List WireValue)
  | [.struct ts], data => (wrap? ts data).map fun fields => [.struct fields]
  | ts, data => if types data = ts then some data else none

theorem eq_struct_of_types {ws : List WireValue} {ts : List WireType}
    (h : types ws = [.struct ts]) : ∃ fields, ws = [.struct fields] := by
  match ws with
  | [w] =>
    cases w with
    | struct fields => exact ⟨fields, rfl⟩
    | _ => cases h
  | _ :: _ :: _ => simp [types] at h

theorem wrap?_unwrap (ws : List WireValue) : wrap? (types ws) (unwrap ws) = some ws := by
  induction ws using unwrap.induct with
  | case1 fields ih => rw [unwrap, types, types, WireValue.type, wrap?, ih, Option.map_some]
  | case2 ws other =>
    rw [unwrap, wrap?, if_pos rfl]
    · intro ts one
      obtain ⟨fields, rfl⟩ := eq_struct_of_types one
      exact other fields rfl
    · exact other

/-- The layout whose data are the values themselves. -/
def plain : BodyLayout where
  Data := List WireValue
  put := unwrap
  take? := wrap?
  take?_put _ := wrap?_unwrap _
  put_struct fields := by rw [unwrap]

end BodyLayout

/-! ## 4. Calls -/

/-- What is sent for an argument is well-formed and has a signature. -/
theorem Argument.encode_sendable (a : Argument) :
    Yields (fun w => w.isWellFormed = true ∧ w.type.Complete) a.encode := by
  refine (Yields.self (a.value.encode a.kind)).bind fun w sent => .ok ?_
  have carried := Value.encode_carries sent
  have complete : w.type.Complete := by
    rw [carried.type_eq]
    exact (Kind.cacheable_toWireType _ carried.readable).complete
  cases a.boxed with
  | true => exact ⟨carried.wellFormed, .variant⟩
  | false => exact ⟨carried.wellFormed, complete⟩

theorem WireValue.sendable_of_each {α : Type} {xs : List α} {ws : List WireValue}
    (each : List.Forall₂ (fun _ w => w.isWellFormed = true ∧ w.type.Complete) xs ws) :
    allWellFormed ws = true ∧ ∀ t ∈ types ws, t.Complete := by
  induction each with
  | nil => exact ⟨rfl, fun _ mem => by cases mem⟩
  | cons first _ ih =>
    rw [allWellFormed, first.1, ih.1, types, List.forall_mem_cons]
    exact ⟨rfl, first.2, ih.2⟩

/-- A body is split into its arguments, in number, order and type, unless it is one structure, which
is split into its fields. So are the bodies of all calls, as no structure is encoded. -/
theorem body_splits_into_arguments_iff (layout : BodyLayout) :
    (∀ ws, allWellFormed ws = true → (∀ t ∈ types ws, t.Complete) →
      layout.split? (bodySignature ws) (layout.put ws) = some (bodyArguments ws)
      ∧ (bodyArguments ws = ws ↔ ∀ fields, ws ≠ [.struct fields]))
    ∧ ∀ args body, Argument.encodeBody args = .ok body →
        layout.split? (bodySignature (body.getD [])) (layout.put (body.getD []))
          = some (body.getD []) := by
  constructor
  · intro ws wellFormed complete
    refine ⟨layout.split?_put wellFormed complete, ?_⟩
    obtain ⟨fields, rfl, same⟩ | ⟨other, same⟩ := bodyArguments_cases ws
    · refine iff_of_false ?_ fun other => other fields rfl
      -- no list holds a structure of itself
      intro whole
      have size := congrArg sizeOf (same.symm.trans whole)
      simp only [List.cons.sizeOf_spec, WireValue.struct.sizeOf_spec] at size
      omega
    · exact iff_of_true same other
  · intro args body encoded
    have each := Argument.encodeBody_each args body encoded
    obtain ⟨wellFormed, complete⟩ :=
      WireValue.sendable_of_each (each.imp fun a w sent => a.encode_sendable w sent)
    rw [layout.split?_put wellFormed complete,
      WireValue.bodyArguments_eq (each.imp fun a w sent => a.encode_ne_struct w sent)]

/-- A structure with a handle after it stays a structure, and a name and a boxed list are sent as
two arguments. -/
theorem structure_and_handle_are_split :
    bodySignature [.struct [.string "x", .scalar (.uint32 1)], .handle 0] = "(su)h"
    ∧ BodyLayout.plain.split? "(su)h"
        (BodyLayout.plain.put [.struct [.string "x", .scalar (.uint32 1)], .handle 0])
      = some [.struct [.string "x", .scalar (.uint32 1)], .handle 0]
    ∧ Argument.encodeBody [.string "Hosts", .variant (.array []) (.array (.basic .string))]
      = .ok (some [.string "Hosts", .variant (.array (.basic .string) [])])
    ∧ BodyLayout.plain.split? "sv"
        (BodyLayout.plain.put [.string "Hosts", .variant (.array (.basic .string) [])])
      = some [.string "Hosts", .variant (.array (.basic .string) [])] := by
  obtain ⟨split, sent⟩ := body_splits_into_arguments_iff .plain
  have complete : ∀ t ∈ types [.struct [.string "x", .scalar (.uint32 1)], .handle 0],
      t.Complete := by
    intro t mem
    obtain rfl | mem := List.mem_cons.1 mem
    · exact .struct_basic .string [.uint32]
    · cases List.mem_singleton.1 mem
      exact .handle
  obtain ⟨two, whole⟩ := split _ rfl complete
  have signature :
      bodySignature [.struct [.string "x", .scalar (.uint32 1)], .handle 0] = "(su)h" := rfl
  rw [signature, whole.2 (by simp)] at two
  have encoded : Argument.encodeBody
      [.string "Hosts", .variant (.array []) (.array (.basic .string))]
        = .ok (some [.string "Hosts", .variant (.array (.basic .string) [])]) := rfl
  have arguments := sent _ _ encoded
  have declared : bodySignature [.string "Hosts", .variant (.array (.basic .string) [])] = "sv" :=
    rfl
  rw [Option.getD_some, declared] at arguments
  exact ⟨signature, two, encoded, arguments⟩

/-- A body of one structure, with a text and a number in it, is split into the text and the
number. -/
theorem structure_is_split_into_fields :
    allWellFormed [.struct [.string "x", .scalar (.uint32 1)]] = true
    ∧ bodySignature [.struct [.string "x", .scalar (.uint32 1)]] = "(su)"
    ∧ BodyLayout.plain.split? "(su)"
        (BodyLayout.plain.put [.struct [.string "x", .scalar (.uint32 1)]])
      = some [.string "x", .scalar (.uint32 1)]
    ∧ BodyLayout.plain.split? "(su)"
        (BodyLayout.plain.put [.struct [.string "x", .scalar (.uint32 1)]])
      ≠ some [.struct [.string "x", .scalar (.uint32 1)]] := by
  have wellFormed : allWellFormed [.struct [.string "x", .scalar (.uint32 1)]] = true := rfl
  have complete : ∀ t ∈ types [.struct [.string "x", .scalar (.uint32 1)]], t.Complete := by
    intro t mem
    cases List.mem_singleton.1 mem
    exact .struct_basic .string [.uint32]
  have split := BodyLayout.plain.split?_put wellFormed complete
  refine ⟨wellFormed, rfl, split, ?_⟩
  intro kept
  have same := Option.some.inj (split.symm.trans kept)
  cases same

end BusCache
