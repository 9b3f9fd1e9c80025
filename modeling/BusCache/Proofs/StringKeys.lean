import BusCache.Kind

/-!
# String keys — what a kind keeps of a type

A kind does not say what the keys of a dictionary were on the wire: paths, signatures and strings
are all held as texts. The type that values of the kind are sent as is therefore the type they
came with, with strings for the keys of all dictionaries, and this is the same type only if all
keys were strings before.
-/

namespace BusCache

namespace WireType

mutual

/-- The type with strings for the keys of all its dictionaries. -/
def stringKeyed : WireType → WireType
  | basic t => basic t
  | handle => handle
  | variant => variant
  | array e => array (stringKeyed e)
  | dict _ v => dict (basic .string) (stringKeyed v)
  | struct fs => struct (stringKeyedEach fs)

def stringKeyedEach : List WireType → List WireType
  | [] => []
  | t :: ts => stringKeyed t :: stringKeyedEach ts

end

/-- Somewhere inside is a dictionary whose keys are not strings. -/
inductive OtherKeyed : WireType → Prop
  | item {e : WireType} (inside : OtherKeyed e) : OtherKeyed (array e)
  | key {k v : WireType} (other : k ≠ basic .string) : OtherKeyed (dict k v)
  | value {k v : WireType} (inside : OtherKeyed v) : OtherKeyed (dict k v)
  | field {fs : List WireType} {t : WireType} (mem : t ∈ fs) (inside : OtherKeyed t) :
      OtherKeyed (struct fs)

theorem stringKeyedEach_eq_map (ts : List WireType) :
    stringKeyedEach ts = ts.map stringKeyed := by
  induction ts with
  | nil => rfl
  | cons t ts ih => rw [stringKeyedEach, ih, List.map_cons]

theorem OtherKeyed.stringKeyed_ne {t : WireType} (h : t.OtherKeyed) : t.stringKeyed ≠ t := by
  induction h with
  | item _ ih =>
    rw [stringKeyed]
    exact fun same => ih (array.inj same)
  | key other =>
    rw [stringKeyed]
    exact fun same => other (dict.inj same).1.symm
  | value _ ih =>
    rw [stringKeyed]
    exact fun same => ih (dict.inj same).2
  | field mem _ ih =>
    rw [stringKeyed, stringKeyedEach_eq_map]
    intro same
    have each := List.map_eq_map_iff.mp ((struct.inj same).trans (List.map_id _).symm)
    exact ih (each _ mem)

mutual

theorem stringKeyed_eq : (t : WireType) → ¬ t.OtherKeyed → t.stringKeyed = t
  | basic _, _ => rfl
  | handle, _ => rfl
  | variant, _ => rfl
  | array e, h => by rw [stringKeyed, stringKeyed_eq e fun inside => h (.item inside)]
  | dict k v, h => by
      have key : k = basic .string := Classical.byContradiction fun other => h (.key other)
      rw [stringKeyed, stringKeyed_eq v fun inside => h (.value inside), key]
  | struct fs, h => by
      rw [stringKeyed, stringKeyedEach_eq fs fun t mem inside => h (.field mem inside)]

theorem stringKeyedEach_eq : (ts : List WireType) → (∀ t ∈ ts, ¬ t.OtherKeyed) →
    stringKeyedEach ts = ts
  | [], _ => rfl
  | t :: ts, h => by
      rw [stringKeyedEach, stringKeyed_eq t (h t List.mem_cons_self),
        stringKeyedEach_eq ts fun u mem => h u (List.mem_cons_of_mem t mem)]

end

theorem stringKeyed_eq_iff (t : WireType) : t.stringKeyed = t ↔ ¬ t.OtherKeyed :=
  ⟨fun same other => other.stringKeyed_ne same, stringKeyed_eq t⟩

end WireType

namespace Kind

mutual

/-- What is held under the kind of a type is sent under the type again, keys apart. -/
theorem toWireType_of_held : (t : WireType) → {k : Kind} → ofWireType? t = some k →
    k.toWireType = t.stringKeyed
  | .basic _, _, h => by
      cases h
      rfl
  | .handle, _, h => by cases h
  | .variant, _, h => by
      cases h
      rfl
  | .array e, _, h => by
      obtain ⟨k, held, rfl⟩ := Option.map_eq_some_iff.mp h
      rw [toWireType, toWireType_of_held e held, WireType.stringKeyed]
  | .dict _ v, _, h => by
      rw [ofWireType?] at h
      split at h
      · obtain ⟨k, held, rfl⟩ := Option.map_eq_some_iff.mp h
        rw [toWireType, toWireType_of_held v held, WireType.stringKeyed]
      · cases h
  | .struct fs, _, h => by
      obtain ⟨ks, held, rfl⟩ := Option.map_eq_some_iff.mp h
      rw [toWireType, toWireTypes_of_held fs held, WireType.stringKeyed]

theorem toWireTypes_of_held : (ts : List WireType) → {ks : List Kind} →
    ofWireTypes? ts = some ks → toWireTypes ks = WireType.stringKeyedEach ts
  | [], _, h => by
      cases h
      rfl
  | t :: ts, _, h => by
      rw [ofWireTypes?] at h
      split at h
      · rename_i k ks first rest
        cases h
        rw [toWireTypes, toWireType_of_held t first, toWireTypes_of_held ts rest,
          WireType.stringKeyedEach]
      · cases h

end

theorem eq_variant_of_held {t : WireType} (h : ofWireType? t = some .variant) : t = .variant := by
  have sent := toWireType_of_held t h
  cases t <;> first | rfl | cases sent

end Kind

end BusCache
