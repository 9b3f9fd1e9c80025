import BusCache.Proofs.Recovery
import BusCache.Transport
import Mathlib.Data.List.Forall2

/-!
# Arguments — what a call carries

The body of a call has one field for each argument, and there is one if every argument can be
encoded. A field is decoded to the value of its argument, and it has the signature that the argument
declares, which is that of a variant if the value is boxed, and that of its kind otherwise. There is
one exception: a value that is declared to be a variant, but not boxed, is sent under its natural
kind.
-/

namespace BusCache

/-! ## 1. One result for each -/

section

variable {α β : Type} {f : α → Except BusError β}

theorem mapM_each {xs : List α} :
    Yields (List.Forall₂ (fun x y => f x = .ok y) xs) (xs.mapM f) := by
  induction xs with
  | nil => exact .ok .nil
  | cons x xs ih =>
    rw [List.mapM_cons]
    exact (Yields.self (f x)).bind fun y first => ih.bind fun ys rest => .ok (.cons first rest)

end

namespace Argument

/-! ## 2. Bodies -/

theorem encode_fails_iff (a : Argument) : Fails a.encode ↔ Fails (a.value.encode a.kind) :=
  Fails.map_iff

theorem encodeBody_fails_iff (args : List Argument) :
    Fails (encodeBody args) ↔ ∃ a ∈ args, Fails (a.value.encode a.kind) := by
  cases args with
  | nil => exact iff_of_false (Fails.not_ok _) (by simp)
  | cons a args =>
    simp only [← encode_fails_iff]
    exact Fails.map_iff.trans mapM_fails_iff

theorem encodeBody_error {before after : List Argument} {a : Argument} {error : BusError}
    (passes : ∀ b ∈ before, ¬ Fails (b.value.encode b.kind))
    (failed : a.value.encode a.kind = .error error) :
    encodeBody (before ++ a :: after) = .error error := by
  have refused : a.encode = .error error := by
    rw [encode, failed]
    rfl
  have all : (before ++ a :: after).mapM encode = .error error :=
    mapM_error (fun b mem => (encode_fails_iff b).not.2 (passes b mem)) refused
  have body := congrArg (fun x => x >>= fun fields => .ok (some fields)) all
  cases before <;> exact body

theorem encodeBody_each : (args : List Argument) →
    Yields (fun body => List.Forall₂ (fun a w => a.encode = .ok w) args (body.getD []))
      (encodeBody args)
  | [] => .ok .nil
  | _ :: _ => mapM_each.bind fun _ each => .ok each

theorem encodeBody_eq_none_iff (args : List Argument) :
    encodeBody args = .ok none ↔ args = [] := by
  cases args with
  | nil => exact iff_of_true rfl rfl
  | cons a args =>
    refine iff_of_false (fun none => ?_) (List.cons_ne_nil a args)
    cases encodeBody_each _ _ none

/-! ## 3. Fields -/

/-- The type that an argument declares to be sent as. -/
def declaredType (a : Argument) : WireType := if a.boxed then .variant else a.kind.toWireType

/-- The type that an argument is sent as. -/
def sentType (a : Argument) : WireType :=
  if a.boxed then .variant
  else if a.kind = .variant then a.value.kind.toWireType
  else a.kind.toWireType

theorem encode_yields (a : Argument) :
    Yields (fun w => w.decode = .ok a.value.canonical ∧ w.type = a.sentType) a.encode := by
  refine (Yields.self (a.value.encode a.kind)).bind fun w sent => .ok ?_
  have carried := Value.encode_carries sent
  unfold sentType
  cases a.boxed with
  | true => exact ⟨carried.decoded, rfl⟩
  | false =>
    refine ⟨carried.decoded, carried.type_eq.trans ?_⟩
    split <;> rfl

theorem toWireType_ne_variant (v : Value) : v.kind.toWireType ≠ .variant := by
  cases v <;> simp [Value.kind, Kind.toWireType]

/-- The declared type is kept but for variants that are not boxed. -/
theorem sentType_eq_iff (a : Argument) :
    a.sentType = a.declaredType ↔ ∀ v, a ≠ .typed v .variant := by
  obtain ⟨value, kind, boxed⟩ := a
  unfold sentType declaredType typed
  cases boxed with
  | true => simp
  | false =>
    by_cases any : kind = .variant
    · subst any
      simp [Kind.toWireType, toWireType_ne_variant]
    · simp [any]

end Argument

theorem WireType.join_text_injective {ts us : List WireType}
    (h : String.join (ts.map text) = String.join (us.map text)) : ts = us := by
  have chars : ∀ ts : List WireType, (String.join (ts.map text)).toList = charsOfList ts := by
    intro ts
    induction ts with
    | nil => rfl
    | cons t ts ih =>
      rw [List.map_cons, String.join_cons, String.toList_append, ih, text, String.toList_ofList,
        charsOfList]
  have same : charsOfList ts ++ ')' :: [] = charsOfList us ++ ')' :: [] := by
    rw [← chars, ← chars, h]
  exact (charsOfList_append_inj ts us same).1

/-! ## 4. Signatures -/

/-- The signature that an argument declares: that of a variant if its value is to be boxed, and the
text of its kind otherwise. -/
def Argument.declared (a : Argument) : String := if a.boxed then "v" else a.kind.text

/-- Every field of the body of a call has the signature that its argument declares, unless that is a
value declared to be a variant but not boxed, which is sent under its natural kind. So the body has
the signatures that are declared, one after the other, if and only if there is no such argument. -/
theorem declared_signatures_kept_iff {args : List Argument} {body : Option (List WireValue)}
    (encoded : Argument.encodeBody args = .ok body) :
    List.Forall₂ (fun a w => w.typeText = if a.boxed then "v"
        else if a.kind = .variant then a.value.kind.text else a.kind.text) args (body.getD [])
    ∧ List.Forall₂ (fun a w => w.typeText = a.declared ↔ ∀ v, a ≠ .typed v .variant)
        args (body.getD [])
    ∧ (String.join ((body.getD []).map WireValue.typeText)
        = String.join (args.map Argument.declared)
      ↔ ∀ a ∈ args, ∀ v, a ≠ .typed v .variant) := by
  have each : List.Forall₂ (fun a w => w.type = Argument.sentType a) args (body.getD []) :=
    (Argument.encodeBody_each args body encoded).imp fun a w sent =>
      (Argument.encode_yields a w sent).2
  have declared : ∀ a : Argument, a.declared = a.declaredType.text := by
    intro a
    unfold Argument.declared Argument.declaredType
    split <;> rfl
  refine ⟨?sent, ?kept, ?body⟩
  case sent =>
    refine each.imp fun a w type => ?_
    rw [WireValue.typeText, type, Argument.sentType]
    split
    · rfl
    · split <;> rfl
  case kept =>
    refine each.imp fun a w type => ?_
    rw [WireValue.typeText, type, declared, ← Argument.sentType_eq_iff]
    exact ⟨WireType.text_injective, congrArg WireType.text⟩
  case body =>
    have types : (body.getD []).map WireValue.type = args.map Argument.sentType := by
      clear encoded
      generalize body.getD [] = fields at each ⊢
      induction each with
      | nil => rfl
      | cons first _ ih => rw [List.map_cons, List.map_cons, first, ih]
    have sent : (body.getD []).map WireValue.typeText
        = (args.map Argument.sentType).map WireType.text := by
      rw [← types, List.map_map]
      rfl
    have asked : args.map Argument.declared
        = (args.map Argument.declaredType).map WireType.text := by
      rw [List.map_map]
      exact List.map_congr_left fun a _ => declared a
    rw [sent, asked]
    constructor
    · intro same a mem
      exact a.sentType_eq_iff.1 (List.map_eq_map_iff.1 (WireType.join_text_injective same) a mem)
    · intro kept
      have same : args.map Argument.sentType = args.map Argument.declaredType :=
        List.map_congr_left fun a mem => a.sentType_eq_iff.2 (kept a mem)
      rw [same]

/-- A name and an empty list, declared as a list of variants and boxed, are sent as they are
declared. -/
theorem boxed_list_keeps_signatures :
    Argument.encodeBody [.string "Hosts", .variant (.array []) (.array (.basic .string)),
        .typed (.dict []) (.dict .variant)]
      = .ok (some [.string "Hosts", .variant (.array (.basic .string) []),
          .dict (.basic .string) .variant []])
    ∧ String.join (List.map WireValue.typeText [.string "Hosts",
        .variant (.array (.basic .string) []), .dict (.basic .string) .variant []])
      = "sva\x7bsv\x7d" := by
  have encoded : Argument.encodeBody [.string "Hosts",
      .variant (.array []) (.array (.basic .string)), .typed (.dict []) (.dict .variant)]
        = .ok (some [.string "Hosts", .variant (.array (.basic .string) []),
          .dict (.basic .string) .variant []]) := rfl
  have same := (declared_signatures_kept_iff encoded).2.2.2 (by
    simp [Argument.string, Argument.natural, Argument.typed, Argument.variant, Value.kind])
  exact ⟨encoded, same.trans rfl⟩

/-- A number that is declared to be a variant is sent as a number. -/
theorem number_declared_variant_is_not_boxed :
    Argument.encodeBody [.string "Powered", .typed (.scalar (.uint32 1)) .variant]
      = .ok (some [.string "Powered", .scalar (.uint32 1)])
    ∧ String.join (List.map WireValue.typeText [.string "Powered", .scalar (.uint32 1)]) = "su"
    ∧ String.join (List.map Argument.declared
        [.string "Powered", .typed (.scalar (.uint32 1)) .variant]) = "sv" :=
  ⟨rfl, rfl, rfl⟩

/-! ## 5. Calls -/

/-- The transport sends a call, and the arguments that are sent are decoded to some values. -/
def MethodCall.Arrives (call : MethodCall) (values : List Value) : Prop :=
  ∃ sent, call.send = .ok sent ∧ WireValue.decodeAll sent.args = .ok values

/-- No structure is encoded. -/
theorem Value.encode_ne_struct {v : Value} {k : Kind} {w : WireValue} (sent : v.encode k = .ok w)
    (fields : List WireValue) : w ≠ .struct fields := by
  rintro rfl
  have type := (encode_carries sent).type_eq
  split at type
  · cases v <;> cases type
  · cases k with
    | struct kinds =>
      -- such a kind accepts lists, but nothing is encoded under it
      unfold encode at sent
      split at sent
      · cases v <;> cases sent
      · cases sent
    | _ => cases type

theorem Argument.encode_ne_struct (a : Argument) :
    Yields (fun w => ∀ fields, w ≠ .struct fields) a.encode := by
  refine (Yields.self (a.value.encode a.kind)).bind fun w sent => .ok ?_
  cases a.boxed with
  | true => exact fun _ => nofun
  | false => exact Value.encode_ne_struct sent

theorem WireValue.bodyArguments_eq {α : Type} {xs : List α} {ws : List WireValue}
    (plain : List.Forall₂ (fun _ w => ∀ fields, w ≠ .struct fields) xs ws) :
    bodyArguments ws = ws := by
  unfold bodyArguments
  split
  · rename_i fields
    cases plain with
    | cons first _ => exact absurd rfl (first fields)
  · rfl

theorem WireValue.decodeAll_eq {vs : List Value} {ws : List WireValue}
    (each : List.Forall₂ (fun v w => w.decode = .ok v) vs ws) : decodeAll ws = .ok vs := by
  induction each with
  | nil => rfl
  | cons first _ ih =>
    rw [decodeAll, first, ih]
    rfl

/-- A call is sent if each of its arguments can be encoded, and its arguments arrive. -/
theorem MethodCall.arrives {call : MethodCall}
    (each : ∀ a ∈ call.args, ¬ Fails (a.value.encode a.kind)) :
    call.Arrives (call.args.map fun a => a.value.canonical) := by
  have passes : ¬ Fails (Argument.encodeBody call.args) := by
    rw [Argument.encodeBody_fails_iff]
    exact fun ⟨a, mem, failed⟩ => each a mem failed
  obtain ⟨body, encoded⟩ := Fails.not_iff.1 passes
  have fields := Argument.encodeBody_each call.args body encoded
  have plain : WireValue.bodyArguments (body.getD []) = body.getD [] :=
    WireValue.bodyArguments_eq (fields.imp fun a w sent => a.encode_ne_struct w sent)
  refine ⟨_, by rw [MethodCall.send, encoded]; rfl, ?_⟩
  dsimp only
  rw [plain]
  apply WireValue.decodeAll_eq
  rw [List.forall₂_map_left_iff]
  exact fields.imp fun a w sent => (a.encode_yields w sent).1

end BusCache
