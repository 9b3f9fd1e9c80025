import BusCache.Signature

/-!
# Signatures — the grammar they are read by

The signatures that describe something the cache can hold are those of the grammar

    T ::= code | 'v' | 'a' T | 'a' '{' key T '}' | '(' T+ ')'

where a code is one of the letters of the basic types and a key one of the three that are text. A
wire type is a derivation, and `WireType.text` is what it derives. No two types share a text
(`WireType.text_injective`), so a derivation is unique.

The reader works on the bytes of a text and on offsets. What it has before it at an offset are the
letters `rest bytes i`; each production has an equation that says what the reader makes of them,
and `readAt?_cases` says that there is no other way to succeed. From the first, by induction on a
derivation, the reader finds it; from the second, by induction on what is left, it finds nothing
else.
-/

namespace BusCache

/-! ## 1. No two types share a text -/

theorem BasicType.code_injective {a b : BasicType} (h : a.code = b.code) : a = b := by
  have := ofCode?_code a
  rw [h, ofCode?_code] at this
  exact (Option.some.inj this).symm

theorem BasicType.code_ne (t : BasicType) :
    t.code ≠ 'a' ∧ t.code ≠ '(' ∧ t.code ≠ 'h' ∧ t.code ≠ 'v' := by
  cases t <;> decide

namespace WireType

theorem chars_head (t : WireType) :
    ∃ c cs, t.chars = c :: cs ∧ c ≠ '\x7b' ∧ c ≠ '\x7d' ∧ c ≠ ')' := by
  cases t with
  | basic t => exact ⟨t.code, [], rfl, by cases t <;> decide⟩
  | _ => exact ⟨_, _, rfl, by decide⟩

theorem basic_of_chars {a : BasicType} {u : WireType} {r s : List Char}
    (h : a.code :: r = u.chars ++ s) : basic a = u ∧ r = s := by
  have code := a.code_ne
  cases u with
  | basic b =>
    rw [chars, List.singleton_append, List.cons.injEq] at h
    exact ⟨congrArg basic (BasicType.code_injective h.1), h.2⟩
  | _ => simp_all [chars]

mutual

/-- No text of a type goes on to be the text of another. -/
theorem chars_append_inj : (t u : WireType) → {r s : List Char} →
    t.chars ++ r = u.chars ++ s → t = u ∧ r = s
  | .basic a, u, r, s, h => basic_of_chars h
  | t, .basic b, r, s, h => (basic_of_chars h.symm).imp Eq.symm Eq.symm
  | .array e, .array f, r, s, h => by
      obtain ⟨rfl, left⟩ := chars_append_inj e f (List.cons.inj h).2
      exact ⟨rfl, left⟩
  -- an array and a dictionary start alike, but no element starts with a brace
  | .array e, .dict k v, r, s, h => by
      obtain ⟨c, cs, first, opens, -⟩ := chars_head e
      simp [chars, first, opens] at h
  | .dict k v, .array e, r, s, h => by
      obtain ⟨c, cs, first, opens, -⟩ := chars_head e
      simp [chars, first, opens.symm] at h
  | .dict k v, .dict l w, r, s, h => by
      have h : k.chars ++ (v.chars ++ '\x7d' :: r) = l.chars ++ (w.chars ++ '\x7d' :: s) := by
        simpa [chars] using h
      obtain ⟨rfl, afterKey⟩ := chars_append_inj k l h
      obtain ⟨rfl, afterValue⟩ := chars_append_inj v w afterKey
      exact ⟨rfl, (List.cons.inj afterValue).2⟩
  | .struct ts, .struct us, r, s, h => by
      obtain ⟨rfl, left⟩ := charsOfList_append_inj ts us (by simpa [chars] using h)
      exact ⟨rfl, left⟩
  | .handle, .handle, r, s, h | .variant, .variant, r, s, h => ⟨rfl, (List.cons.inj h).2⟩
  -- all other forms differ in their first letter
  | .handle, .variant, r, s, h | .handle, .array _, r, s, h | .handle, .dict _ _, r, s, h
  | .handle, .struct _, r, s, h | .variant, .handle, r, s, h | .variant, .array _, r, s, h
  | .variant, .dict _ _, r, s, h | .variant, .struct _, r, s, h | .array _, .handle, r, s, h
  | .array _, .variant, r, s, h | .array _, .struct _, r, s, h | .dict _ _, .handle, r, s, h
  | .dict _ _, .variant, r, s, h | .dict _ _, .struct _, r, s, h | .struct _, .handle, r, s, h
  | .struct _, .variant, r, s, h | .struct _, .array _, r, s, h
  | .struct _, .dict _ _, r, s, h => by
      simp [chars] at h

theorem charsOfList_append_inj : (ts us : List WireType) → {r s : List Char} →
    charsOfList ts ++ ')' :: r = charsOfList us ++ ')' :: s → ts = us ∧ r = s
  | [], [], r, s, h => ⟨rfl, (List.cons.inj h).2⟩
  -- the bracket that closes a structure starts no field
  | [], u :: us, r, s, h => by
      obtain ⟨c, cs, first, -, -, closes⟩ := chars_head u
      simp [charsOfList, first, closes.symm] at h
  | t :: ts, [], r, s, h => by
      obtain ⟨c, cs, first, -, -, closes⟩ := chars_head t
      simp [charsOfList, first, closes] at h
  | t :: ts, u :: us, r, s, h => by
      simp only [charsOfList, List.append_assoc] at h
      obtain ⟨rfl, after⟩ := chars_append_inj t u h
      obtain ⟨rfl, left⟩ := charsOfList_append_inj ts us after
      exact ⟨rfl, left⟩

end

/-- A signature describes one type. -/
theorem text_injective {t u : WireType} (h : t.text = u.text) : t = u := by
  have same : t.chars ++ [] = u.chars ++ [] := by rw [String.ofList_injective h]
  exact (chars_append_inj t u same).1

/-! ## 2. The grammar -/

/-- The derivations of the grammar: the types that the cache can hold. -/
inductive Cacheable : WireType → Prop where
  | basic (t : BasicType) : Cacheable (.basic t)
  | variant : Cacheable .variant
  | array {e : WireType} (element : Cacheable e) : Cacheable (.array e)
  | dict {k : BasicType} {v : WireType} (key : k.isText = true) (value : Cacheable v) :
      Cacheable (.dict (.basic k) v)
  /-- A structure has at least one field. -/
  | struct {f : WireType} {fs : List WireType} (each : ∀ t ∈ f :: fs, Cacheable t) :
      Cacheable (.struct (f :: fs))

mutual

theorem chars_ascii : (t : WireType) → ∀ c ∈ t.chars, c.val ≤ 127
  | .basic t, c, mem => by
      rw [List.mem_singleton.1 mem]
      cases t <;> decide
  | .handle, c, mem | .variant, c, mem => by
      rw [List.mem_singleton.1 mem]
      decide
  | .array e, c, mem => by
      rcases List.mem_cons.1 mem with rfl | mem
      · decide
      · exact chars_ascii e c mem
  | .dict k v, c, mem => by
      simp only [chars, List.mem_cons, List.mem_append, List.not_mem_nil, or_false] at mem
      obtain rfl | rfl | (mem | mem) | rfl := mem
      · decide
      · decide
      · exact chars_ascii k c mem
      · exact chars_ascii v c mem
      · decide
  | .struct fs, c, mem => by
      simp only [chars, List.mem_cons, List.mem_append, List.not_mem_nil, or_false] at mem
      obtain rfl | mem | rfl := mem
      · decide
      · exact charsOfList_ascii fs c mem
      · decide

theorem charsOfList_ascii : (ts : List WireType) → ∀ c ∈ charsOfList ts, c.val ≤ 127
  | [], c, mem => by cases mem
  | t :: ts, c, mem => by
      rcases List.mem_append.1 mem with mem | mem
      · exact chars_ascii t c mem
      · exact charsOfList_ascii ts c mem

end

end WireType

namespace Kind

open WireType (Cacheable chars charsOfList)

theorem ofWireTypes?_cons {t : WireType} {ts : List WireType} {ks : List Kind}
    (h : ofWireTypes? (t :: ts) = some ks) :
    ∃ k rest, ofWireType? t = some k ∧ ofWireTypes? ts = some rest ∧ ks = k :: rest := by
  rw [ofWireTypes?] at h
  split at h
  next k rest eq eqs =>
    cases h
    exact ⟨k, rest, eq, eqs, rfl⟩
  next => cases h

theorem ofCode?_code (t : BasicType) : ofCode? t.code = some (basic t) := by cases t <;> rfl

theorem isKeyCode_code (t : BasicType) : isKeyCode t.code = t.isText := by cases t <;> rfl

/-- The letters that stand for a kind: a variant's and those of the basic types. -/
theorem cacheable_of_ofCode? {c : Char} {k : Kind} (h : ofCode? c = some k) :
    ∃ t, Cacheable t ∧ ofWireType? t = some k ∧ t.chars = [c] := by
  unfold ofCode? at h
  split at h
  · cases h
    exact ⟨.variant, .variant, rfl, rfl⟩
  · obtain ⟨t, code, rfl⟩ := Option.map_eq_some_iff.1 h
    exact ⟨.basic t, .basic t, rfl, by rw [BasicType.eq_code_of_ofCode? code, chars]⟩

theorem basic_of_isKeyCode {c : Char} (h : isKeyCode c = true) :
    ∃ t : BasicType, t.isText = true ∧ t.code = c := by
  obtain ⟨t, code, text⟩ := (Option.any_eq_true _ _).1 h
  exact ⟨t, text, (BasicType.eq_code_of_ofCode? code).symm⟩

/-! ## 3. What the reader has before it -/

/-- The letters of some bytes from an offset on. -/
def rest (bytes : ByteArray) (i : Nat) : List Char := (bytes.data.toList.drop i).map Char.ofUInt8

section Reading

variable {bytes : ByteArray} {i : Nat}

theorem length_rest : (rest bytes i).length = bytes.size - i := by
  simp [rest]

theorem rest_eq_cons (h : i < bytes.size) :
    rest bytes i = Char.ofUInt8 bytes[i] :: rest bytes (i + 1) := by
  have inside : i < bytes.data.toList.length := by simpa using h
  simp only [rest, List.drop_eq_getElem_cons inside, List.map_cons, List.cons.injEq, and_true]
  rw [Array.getElem_toList, ByteArray.getElem_eq_getElem_data]

theorem rest_eq_nil (h : bytes.size ≤ i) : rest bytes i = [] := by
  rw [← List.length_eq_zero_iff, length_rest]
  omega

theorem letterAt?_eq_head? : letterAt? bytes i = (rest bytes i).head? := by
  unfold letterAt?
  split
  next h => rw [rest_eq_cons h, List.head?_cons]
  next h => rw [rest_eq_nil (by omega), List.head?_nil]

/-- The first letter of what is left stands at the offset. -/
theorem letter_of_rest {c : Char} {cs : List Char} (h : rest bytes i = c :: cs) :
    ∃ inside : i < bytes.size, Char.ofUInt8 bytes[i] = c ∧ rest bytes (i + 1) = cs := by
  have inside : i < bytes.size := by
    apply Nat.lt_of_not_le
    intro beyond
    rw [rest_eq_nil beyond] at h
    cases h
  rw [rest_eq_cons inside, List.cons.injEq] at h
  exact ⟨inside, h⟩

theorem rest_of_letterAt? {c : Char} (h : letterAt? bytes i = some c) :
    rest bytes i = c :: rest bytes (i + 1) := by
  rw [letterAt?_eq_head?] at h
  obtain ⟨cs, eq⟩ := List.head?_eq_some_iff.1 h
  obtain ⟨-, -, left⟩ := letter_of_rest eq
  rw [eq, left]

/-! ## 4. One equation for each production -/

theorem readAt?_code {c : Char} {cs : List Char} {k : Kind} (h : rest bytes i = c :: cs)
    (hc : ofCode? c = some k) :
    ∃ last : Further bytes i, readAt? bytes i = some (k, last) ∧ rest bytes last = cs := by
  obtain ⟨inside, rfl, rfl⟩ := letter_of_rest h
  refine ⟨⟨i + 1, by omega⟩, ?_, rfl⟩
  rw [readAt?, dif_pos inside]
  split
  -- neither bracket nor array stands for a kind
  next array => rw [array] at hc; cases hc
  next struct => rw [struct] at hc; cases hc
  next => rw [hc]; rfl

theorem readAt?_array {cs : List Char} {e : Kind} {next : Further bytes (i + 1)}
    (h : rest bytes i = 'a' :: cs) (plain : cs.head? ≠ some '\x7b')
    (element : readAt? bytes (i + 1) = some (e, next)) :
    ∃ last : Further bytes i, readAt? bytes i = some (array e, last) ∧ last.1 = next.1 := by
  obtain ⟨inside, letter, rfl⟩ := letter_of_rest h
  refine ⟨⟨next, by omega⟩, ?_, rfl⟩
  rw [readAt?, dif_pos inside]
  split
  next => rw [if_neg (by rwa [letterAt?_eq_head?]), element]
  next other => rw [letter] at other; cases other
  next other _ => exact absurd letter other

theorem readAt?_dict {c : Char} {cs r : List Char} {v : Kind} {next : Further bytes (i + 3)}
    (h : rest bytes i = 'a' :: '\x7b' :: c :: cs) (key : isKeyCode c = true)
    (value : readAt? bytes (i + 3) = some (v, next)) (close : rest bytes next = '\x7d' :: r) :
    ∃ last : Further bytes i, readAt? bytes i = some (dict v, last) ∧ rest bytes last = r := by
  obtain ⟨inside, letter, h⟩ := letter_of_rest h
  have opened : letterAt? bytes (i + 1) = some '\x7b' := by rw [letterAt?_eq_head?, h]; rfl
  obtain ⟨-, -, h⟩ := letter_of_rest h
  have keyed : letterAt? bytes (i + 2) = some c := by rw [letterAt?_eq_head?, h]; rfl
  have closed : letterAt? bytes next = some '\x7d' := by rw [letterAt?_eq_head?, close]; rfl
  obtain ⟨-, -, left⟩ := letter_of_rest close
  refine ⟨⟨next + 1, by have := lt_size_of_letterAt? closed; omega⟩, ?_, left⟩
  rw [readAt?, dif_pos inside]
  split
  next =>
    rw [if_pos opened, keyed, if_pos (by simpa using key), value]
    simp only [dif_pos closed]
  next other => rw [letter] at other; cases other
  next other _ => exact absurd letter other

theorem readAt?_struct {cs : List Char} {f : Kind} {fs : List Kind} {next : Further bytes (i + 1)}
    (h : rest bytes i = '(' :: cs) (fields : readFieldsAt? bytes (i + 1) = some (f :: fs, next)) :
    ∃ last : Further bytes i,
      readAt? bytes i = some (struct (f :: fs), last) ∧ last.1 = next.1 := by
  obtain ⟨inside, letter, -⟩ := letter_of_rest h
  refine ⟨⟨next, by omega⟩, ?_, rfl⟩
  rw [readAt?, dif_pos inside]
  split
  next other => rw [letter] at other; cases other
  next => rw [fields]
  next _ other => exact absurd letter other

theorem readFieldsAt?_nil {cs : List Char} (h : rest bytes i = ')' :: cs) :
    ∃ last : Further bytes i, readFieldsAt? bytes i = some ([], last) ∧ rest bytes last = cs := by
  obtain ⟨inside, letter, left⟩ := letter_of_rest h
  refine ⟨⟨i + 1, by omega⟩, ?_, left⟩
  rw [readFieldsAt?, dif_pos inside]
  split
  next => rfl
  next other => exact absurd letter other

theorem readFieldsAt?_cons {c : Char} {cs : List Char} {k : Kind} {ks : List Kind}
    {next : Further bytes i} {after : Further bytes next} (h : rest bytes i = c :: cs)
    (more : c ≠ ')') (field : readAt? bytes i = some (k, next))
    (fields : readFieldsAt? bytes next = some (ks, after)) :
    ∃ last : Further bytes i,
      readFieldsAt? bytes i = some (k :: ks, last) ∧ last.1 = after.1 := by
  obtain ⟨inside, rfl, -⟩ := letter_of_rest h
  refine ⟨⟨after, by omega⟩, ?_, rfl⟩
  rw [readFieldsAt?, dif_pos inside]
  split
  next close => exact absurd close more
  next => simp only [field, fields]

end Reading

/-! ## 5. Every derivation is found -/

-- On the derivation: the letters of its own that a production takes are met one by one, and its
-- parts start where they leave off.
mutual

theorem readAt?_chars {bytes : ByteArray} : (t : WireType) → Cacheable t → ∀ {i r},
    rest bytes i = t.chars ++ r →
    ∃ k, ofWireType? t = some k ∧ ∃ last, readAt? bytes i = some (k, last) ∧ rest bytes last = r
  | .basic t, _, i, r, h => ⟨basic t, rfl, readAt?_code h (ofCode?_code t)⟩
  | .variant, _, i, r, h => ⟨variant, rfl, readAt?_code h rfl⟩
  | .array e, .array he, i, r, h => by
      obtain ⟨c, cs, first, plain, -⟩ := e.chars_head
      obtain ⟨-, -, inner⟩ := letter_of_rest h
      obtain ⟨k, eq, next, read, left⟩ := readAt?_chars e he inner
      obtain ⟨last, read, same⟩ := readAt?_array h (by simpa [first] using plain) read
      exact ⟨array k, by rw [ofWireType?, eq]; rfl, last, read, same ▸ left⟩
  | .dict _ v, .dict (k := k) key hv, i, r, h => by
      have h : rest bytes i = 'a' :: '\x7b' :: k.code :: (v.chars ++ '\x7d' :: r) := by
        simpa [chars] using h
      obtain ⟨-, -, opened⟩ := letter_of_rest h
      obtain ⟨-, -, keyed⟩ := letter_of_rest opened
      obtain ⟨-, -, inner⟩ := letter_of_rest keyed
      obtain ⟨value, eq, next, read, left⟩ := readAt?_chars v hv inner
      obtain ⟨last, read, left⟩ := readAt?_dict h (by rwa [isKeyCode_code]) read left
      exact ⟨dict value, by simp [ofWireType?, isKeyType, key, eq], last, read, left⟩
  | .struct (f :: fs), .struct each, i, r, h => by
      have h : rest bytes i = '(' :: (charsOfList (f :: fs) ++ ')' :: r) := by
        simpa [chars] using h
      obtain ⟨-, -, inner⟩ := letter_of_rest h
      obtain ⟨ks, eq, next, reads, left⟩ := readFieldsAt?_chars (f :: fs) each inner
      obtain ⟨k, ks, -, -, rfl⟩ := ofWireTypes?_cons eq
      obtain ⟨last, read, same⟩ := readAt?_struct h reads
      exact ⟨struct (k :: ks), by rw [ofWireType?, eq]; rfl, last, read, same ▸ left⟩

theorem readFieldsAt?_chars {bytes : ByteArray} : (ts : List WireType) → (∀ t ∈ ts, Cacheable t) →
    ∀ {i r}, rest bytes i = charsOfList ts ++ ')' :: r →
    ∃ ks, ofWireTypes? ts = some ks ∧
      ∃ last, readFieldsAt? bytes i = some (ks, last) ∧ rest bytes last = r
  | [], _, i, r, h => ⟨[], rfl, readFieldsAt?_nil h⟩
  | t :: ts, each, i, r, h => by
      obtain ⟨c, cs, first, -, -, more⟩ := t.chars_head
      have start : rest bytes i = t.chars ++ (charsOfList ts ++ ')' :: r) := by
        simpa [charsOfList] using h
      obtain ⟨k, eq, next, read, left⟩ := readAt?_chars t (each t (by simp)) start
      obtain ⟨ks, eqs, after, reads, left⟩ :=
        readFieldsAt?_chars ts (fun u mem => each u (by simp [mem])) left
      rw [first] at start
      obtain ⟨last, reads, same⟩ := readFieldsAt?_cons start more read reads
      exact ⟨k :: ks, by simp [ofWireTypes?, eq, eqs], last, reads, same ▸ left⟩

end

/-! ## 6. Nothing else is found -/

section Cases

variable {bytes : ByteArray} {i : Nat}

/-- Reading succeeds by one of four productions. -/
theorem readAt?_cases {k : Kind} {last : Further bytes i} (h : readAt? bytes i = some (k, last)) :
    (∃ c, ofCode? c = some k ∧ rest bytes i = c :: rest bytes last) ∨
    (∃ e next, k = array e ∧ readAt? bytes (i + 1) = some (e, next) ∧
      rest bytes i = 'a' :: rest bytes (i + 1) ∧ next.1 = last.1) ∨
    (∃ c v next, k = dict v ∧ readAt? bytes (i + 3) = some (v, next) ∧ isKeyCode c = true ∧
      rest bytes i = 'a' :: '\x7b' :: c :: rest bytes (i + 3) ∧
      rest bytes next = '\x7d' :: rest bytes last) ∨
    ∃ f fs next, k = struct (f :: fs) ∧ readFieldsAt? bytes (i + 1) = some (f :: fs, next) ∧
      rest bytes i = '(' :: rest bytes (i + 1) ∧ next.1 = last.1 := by
  rw [readAt?] at h
  split at h
  case isFalse => cases h
  case isTrue inside =>
  split at h
  next letter =>
    split at h
    next opened =>
      split at h
      case isFalse => cases h
      case isTrue keyed =>
      split at h
      case h_1 => cases h
      case h_2 v next _ read =>
      split at h
      case isFalse => cases h
      case isTrue closed =>
      cases h
      obtain ⟨c, isLetter, isKey⟩ := (Option.any_eq_true _ _).1 keyed
      refine .inr (.inr (.inl ⟨c, v, _, rfl, read, isKey, ?_, rest_of_letterAt? closed⟩))
      rw [rest_eq_cons inside, letter, rest_of_letterAt? opened, rest_of_letterAt? isLetter]
    next =>
      split at h
      case h_1 => cases h
      case h_2 e next _ read =>
      cases h
      exact .inr (.inl ⟨e, _, rfl, read, by rw [rest_eq_cons inside, letter], rfl⟩)
  next letter =>
    split at h
    case h_1 => cases h
    case h_2 => cases h
    case h_3 f fs next _ reads =>
    cases h
    exact .inr (.inr (.inr ⟨f, fs, _, rfl, reads, by rw [rest_eq_cons inside, letter], rfl⟩))
  next =>
    obtain ⟨_, code, eq⟩ := Option.map_eq_some_iff.1 h
    cases eq
    exact .inl ⟨_, code, rest_eq_cons inside⟩

theorem readFieldsAt?_cases {ks : List Kind} {last : Further bytes i}
    (h : readFieldsAt? bytes i = some (ks, last)) :
    (ks = [] ∧ rest bytes i = ')' :: rest bytes last) ∨
    ∃ k rest next after, ks = k :: rest ∧ readAt? bytes i = some (k, next) ∧
      readFieldsAt? bytes next = some (rest, after) ∧ after.1 = last.1 := by
  rw [readFieldsAt?] at h
  split at h
  case isFalse => cases h
  case isTrue inside =>
  split at h
  next letter =>
    cases h
    exact .inl ⟨rfl, by rw [rest_eq_cons inside, letter]⟩
  next =>
    split at h
    case h_1 => cases h
    case h_2 k next _ read =>
    split at h
    case h_1 => cases h
    case h_2 ks after _ reads =>
    cases h
    exact .inr ⟨k, ks, _, _, rfl, read, reads, rfl⟩

end Cases

-- On what is left of the bytes. Fields are read from where a single reading starts, so at one offset
-- a single reading comes before fields.
mutual

theorem readAt?_derives {bytes : ByteArray} {i : Nat} {k : Kind} {last : Further bytes i}
    (h : readAt? bytes i = some (k, last)) :
    ∃ t, Cacheable t ∧ ofWireType? t = some k ∧ rest bytes i = t.chars ++ rest bytes last := by
  have := last.2
  obtain ⟨c, code, start⟩ | ⟨e, next, rfl, read, start, same⟩ |
      ⟨c, v, next, rfl, read, isKey, start, close⟩ | ⟨f, fs, next, rfl, reads, start, same⟩ :=
    readAt?_cases h
  · obtain ⟨t, ht, eq, letter⟩ := cacheable_of_ofCode? code
    exact ⟨t, ht, eq, by rw [start, letter]; rfl⟩
  · obtain ⟨t, ht, eq, inner⟩ := readAt?_derives read
    exact ⟨.array t, .array ht, by rw [ofWireType?, eq]; rfl, by rw [start, inner, same]; rfl⟩
  · obtain ⟨t, ht, eq, inner⟩ := readAt?_derives read
    obtain ⟨key, text, rfl⟩ := basic_of_isKeyCode isKey
    exact ⟨.dict (.basic key) t, .dict text ht, by simp [ofWireType?, isKeyType, text, eq],
      by rw [start, inner, close]; simp [chars]⟩
  · obtain ⟨ts, each, eq, inner⟩ := readFieldsAt?_derives reads
    -- a structure that is read has a field, so its type has one
    cases ts with
    | nil => cases eq
    | cons t ts =>
      exact ⟨.struct (t :: ts), .struct each, by rw [ofWireType?, eq]; rfl,
        by rw [start, inner, same]; simp [chars]⟩
termination_by (bytes.size - i, 0)

theorem readFieldsAt?_derives {bytes : ByteArray} {i : Nat} {ks : List Kind}
    {last : Further bytes i} (h : readFieldsAt? bytes i = some (ks, last)) :
    ∃ ts, (∀ t ∈ ts, Cacheable t) ∧ ofWireTypes? ts = some ks ∧
      rest bytes i = charsOfList ts ++ ')' :: rest bytes last := by
  obtain ⟨rfl, close⟩ | ⟨k, ks, next, after, rfl, read, reads, same⟩ := readFieldsAt?_cases h
  · exact ⟨[], by simp, rfl, close⟩
  · have := next.2
    obtain ⟨t, ht, eq, start⟩ := readAt?_derives read
    obtain ⟨ts, each, eqs, inner⟩ := readFieldsAt?_derives reads
    exact ⟨t :: ts, List.forall_mem_cons.2 ⟨ht, each⟩, by simp [ofWireTypes?, eq, eqs],
      by rw [start, inner, same]; simp [charsOfList]⟩
termination_by (bytes.size - i, 1)

end

/-! ## 7. The text of what is read -/

/-- A signature with every dictionary keyed by strings. -/
def rekeyed : List Char → List Char
  | 'a' :: '\x7b' :: _ :: cs => 'a' :: '\x7b' :: 's' :: rekeyed cs
  | c :: cs => c :: rekeyed cs
  | [] => []

theorem rekeyed_cons {c : Char} {cs : List Char} (h : c ≠ 'a' ∨ cs.head? ≠ some '\x7b') :
    rekeyed (c :: cs) = c :: rekeyed cs := by
  rw [rekeyed]
  rintro d rest rfl rfl
  simp at h

mutual

/-- The text of a kind is the text that it was read from, keys apart. What follows it is rekeyed on
its own, as no type ends in the letter of an array. -/
theorem rekeyed_chars : (t : WireType) → Cacheable t → ∀ {k}, ofWireType? t = some k → ∀ r,
    rekeyed (t.chars ++ r) = k.toWireType.chars ++ rekeyed r
  | .basic t, _, k, h, r => by
      cases h
      exact rekeyed_cons (.inl t.code_ne.1)
  | .variant, _, k, h, r => by
      cases h
      exact rekeyed_cons (.inl (by decide))
  | .array e, .array he, k, h, r => by
      obtain ⟨k, eq, rfl⟩ := Option.map_eq_some_iff.1 h
      obtain ⟨c, cs, first, plain, -⟩ := e.chars_head
      rw [chars, List.cons_append, rekeyed_cons (.inr (by simpa [first] using plain)),
        rekeyed_chars e he eq]
      rfl
  | .dict _ v, .dict (k := key) text hv, k, h, r => by
      simp only [ofWireType?, isKeyType, text, if_true] at h
      obtain ⟨k, eq, rfl⟩ := Option.map_eq_some_iff.1 h
      have inner := rekeyed_chars v hv eq ('\x7d' :: r)
      rw [rekeyed_cons (.inl (by decide))] at inner
      simp only [chars, List.cons_append, List.append_assoc, List.nil_append, rekeyed, inner,
        toWireType]
      rfl
  | .struct ts, hs, k, h, r => by
      obtain ⟨ks, eq, rfl⟩ := Option.map_eq_some_iff.1 h
      have inner := rekeyed_charsOfList ts (by cases hs; assumption) eq (')' :: r)
      rw [rekeyed_cons (.inl (by decide))] at inner
      simp only [chars, List.cons_append, List.append_assoc, List.nil_append, toWireType]
      rw [rekeyed_cons (.inl (by decide)), inner]

theorem rekeyed_charsOfList : (ts : List WireType) → (∀ t ∈ ts, Cacheable t) →
    ∀ {ks}, ofWireTypes? ts = some ks → ∀ r,
    rekeyed (charsOfList ts ++ r) = charsOfList (toWireTypes ks) ++ rekeyed r
  | [], _, ks, h, r => by
      cases h
      rfl
  | t :: ts, each, ks, h, r => by
      obtain ⟨k, rest, eq, eqs, rfl⟩ := ofWireTypes?_cons h
      rw [charsOfList, List.append_assoc, rekeyed_chars t (each t (by simp)) eq,
        rekeyed_charsOfList ts (fun u mem => each u (by simp [mem])) eqs, toWireTypes, charsOfList,
        List.append_assoc]

end

mutual

/-- A kind and the kinds inside it. -/
def parts : Kind → List Kind
  | basic t => [basic t]
  | variant => [variant]
  | array e => array e :: parts e
  | dict v => dict v :: parts v
  | struct fs => struct fs :: partsOfEach fs

def partsOfEach : List Kind → List Kind
  | [] => []
  | k :: ks => parts k ++ partsOfEach ks

end

mutual

/-- A kind is sent as a type of the grammar, unless a structure inside it is empty. -/
theorem cacheable_toWireType : (k : Kind) → struct [] ∉ k.parts → Cacheable k.toWireType
  | basic t, _ => .basic t
  | variant, _ => .variant
  | array e, h => .array (cacheable_toWireType e (List.not_mem_of_not_mem_cons h))
  | dict v, h => .dict rfl (cacheable_toWireType v (List.not_mem_of_not_mem_cons h))
  | struct [], h => absurd List.mem_cons_self h
  | struct (f :: fs), h =>
      .struct (cacheable_toWireTypes (f :: fs) (List.not_mem_of_not_mem_cons h))

theorem cacheable_toWireTypes : (ks : List Kind) → struct [] ∉ partsOfEach ks →
    ∀ t ∈ toWireTypes ks, Cacheable t
  | [], _ => by simp [toWireTypes]
  | k :: ks, h => by
      rw [partsOfEach, List.mem_append, not_or] at h
      exact List.forall_mem_cons.2
        ⟨cacheable_toWireType k h.1, cacheable_toWireTypes ks h.2⟩

end

mutual

/-- No kind that is held has an empty structure inside. -/
theorem parts_ofWireType? : (t : WireType) → Cacheable t → ∀ {k}, ofWireType? t = some k →
    struct [] ∉ k.parts
  | .basic t, _, k, h => by cases h; simp [Kind.parts]
  | .variant, _, k, h => by cases h; simp [Kind.parts]
  | .array e, .array he, k, h => by
      obtain ⟨k, eq, rfl⟩ := Option.map_eq_some_iff.1 h
      simpa [Kind.parts] using parts_ofWireType? e he eq
  | .dict _ v, .dict text hv, k, h => by
      simp only [ofWireType?, isKeyType, text, if_true] at h
      obtain ⟨k, eq, rfl⟩ := Option.map_eq_some_iff.1 h
      simpa [Kind.parts] using parts_ofWireType? v hv eq
  | .struct ts, hs, k, h => by
      obtain ⟨ks, eq, rfl⟩ := Option.map_eq_some_iff.1 h
      have inner := partsOfEach_ofWireTypes? ts (by cases hs; assumption) eq
      cases hs
      obtain ⟨_, _, -, -, rfl⟩ := ofWireTypes?_cons eq
      simpa [Kind.parts] using inner

theorem partsOfEach_ofWireTypes? : (ts : List WireType) → (∀ t ∈ ts, Cacheable t) →
    ∀ {ks}, ofWireTypes? ts = some ks → struct [] ∉ partsOfEach ks
  | [], _, ks, h => by cases h; simp [Kind.partsOfEach]
  | t :: ts, each, ks, h => by
      obtain ⟨k, rest, eq, eqs, rfl⟩ := ofWireTypes?_cons h
      rw [Kind.partsOfEach, List.mem_append, not_or]
      exact ⟨parts_ofWireType? t (each t (by simp)) eq,
        partsOfEach_ofWireTypes? ts (fun u mem => each u (by simp [mem])) eqs⟩

end

/-! ## 8. From bytes to texts -/

theorem ofUInt8_toUInt8 {c : Char} (h : c.val ≤ 127) : Char.ofUInt8 c.val.toUInt8 = c := by
  apply Char.ext
  apply UInt32.toNat_inj.1
  have small : c.val.toNat ≤ 127 := h
  show c.val.toUInt8.toUInt32.toNat = c.val.toNat
  rw [UInt8.toNat_toUInt32, UInt32.toNat_toUInt8]
  omega

theorem ofUInt8_injective {a b : UInt8} (h : Char.ofUInt8 a = Char.ofUInt8 b) : a = b := by
  have wide : a.toUInt32 = b.toUInt32 := congrArg Char.val h
  exact UInt8.toUInt32_inj.1 wide

/-- A signature is plain ASCII, one byte for each letter. -/
theorem rest_text (t : WireType) : rest t.text.toUTF8 0 = t.chars := by
  have bytes : t.text.toUTF8.data.toList = t.chars.map fun c => c.val.toUInt8 := by
    rw [WireType.text, String.toUTF8, String.toByteArray_ofList, List.utf8Encode,
      List.toList_data_toByteArray, List.map_eq_flatMap]
    refine congrArg List.flatten (List.map_congr_left fun c mem => ?_)
    exact String.utf8EncodeChar_eq_singleton (Char.utf8Size_eq_one_iff.2 (t.chars_ascii c mem))
  rw [rest, bytes, List.drop_zero, List.map_map]
  exact (List.map_congr_left fun c mem => ofUInt8_toUInt8 (t.chars_ascii c mem)).trans
    (List.map_id _)

/-- The letters of a text tell it apart from every other. -/
theorem rest_zero_injective {s s' : String} (h : rest s.toUTF8 0 = rest s'.toUTF8 0) : s = s' := by
  rw [rest, rest, List.drop_zero, List.drop_zero] at h
  have bytes := (List.map_inj_right fun _ _ => ofUInt8_injective).1 h
  exact String.toByteArray_inj.1 (ByteArray.ext (Array.toList_inj.1 bytes))

/-- What is derived is read, and as what it describes. -/
theorem ofText?_text {t : WireType} (h : Cacheable t) :
    ∃ k, ofWireType? t = some k ∧ ofText? t.text = some k := by
  have letters : rest t.text.toUTF8 0 = t.chars ++ [] := by rw [rest_text, List.append_nil]
  obtain ⟨k, eq, last, read, left⟩ := readAt?_chars t h letters
  have all : last.1 = t.text.toUTF8.size := by
    have length : (rest t.text.toUTF8 last.1).length = t.text.toUTF8.size - last.1 := length_rest
    rw [left, List.length_nil] at length
    omega
  refine ⟨k, eq, ?_⟩
  unfold ofText?
  rw [read]
  simp only [all, if_true]

theorem ofText?_eq_some_iff {s : String} {k : Kind} :
    ofText? s = some k ↔ ∃ t, Cacheable t ∧ t.text = s ∧ ofWireType? t = some k := by
  constructor
  · intro h
    unfold ofText? at h
    split at h
    case h_1 => cases h
    case h_2 _ last _ read =>
    split at h
    case isFalse => cases h
    case isTrue all =>
    cases h
    obtain ⟨t, ht, eq, letters⟩ := readAt?_derives read
    rw [rest_eq_nil (Nat.le_of_eq all.symm), List.append_nil, ← rest_text] at letters
    exact ⟨t, ht, (rest_zero_injective letters).symm, eq⟩
  · rintro ⟨t, ht, rfl, eq⟩
    obtain ⟨k', eq', read⟩ := ofText?_text ht
    rwa [← eq, eq']

theorem parse_eq_ok_iff {s : String} {k : Kind} : parse s = .ok k ↔ ofText? s = some k := by
  unfold parse
  split <;> simp_all

theorem parse_cases (s : String) :
    (∃ k, parse s = .ok k) ∨ parse s = .error (.unsupportedSignature s) := by
  unfold parse
  split
  · exact .inr rfl
  · exact .inl ⟨_, rfl⟩

/-- A kind is read back from its text. -/
theorem parse_text {k : Kind} (h : struct [] ∉ k.parts) : parse k.text = .ok k :=
  parse_eq_ok_iff.2 (ofText?_eq_some_iff.2
    ⟨k.toWireType, cacheable_toWireType k h, rfl, ofWireType?_toWireType k⟩)

/-- The signatures that can be read describe the kinds without an empty structure. -/
theorem readable_iff {k : Kind} : (∃ s, parse s = .ok k) ↔ struct [] ∉ k.parts := by
  constructor
  · rintro ⟨s, h⟩
    obtain ⟨t, ht, -, eq⟩ := ofText?_eq_some_iff.1 (parse_eq_ok_iff.1 h)
    exact parts_ofWireType? t ht eq
  · intro h
    exact ⟨k.text, parse_text h⟩

/-! ## 9. Bytes cut off -/

theorem rest_extract (bytes : ByteArray) (cut i : Nat) :
    rest (bytes.extract 0 cut) i = (rest bytes i).take (cut - i) := by
  rw [rest, ByteArray.data_extract, Array.toList_extract, List.extract_eq_take_drop, rest,
    ← List.map_take, List.drop_zero, Nat.sub_zero, List.drop_take]

/-- Bytes that are cut off behind what is read change nothing, and nothing can be read of what is
cut short. -/
theorem readAt?_extract {bytes : ByteArray} {i : Nat} {k : Kind} {last : Further bytes i}
    (h : readAt? bytes i = some (k, last)) (cut : Nat) :
    (readAt? (bytes.extract 0 cut) i).map (fun read => (read.1, read.2.1)) =
      if last.1 ≤ cut then some (k, last.1) else none := by
  obtain ⟨t, ht, eq, letters⟩ := readAt?_derives h
  have inside := last.2
  have length := congrArg List.length letters
  rw [List.length_append, length_rest, length_rest] at length
  split
  next whole =>
    -- all letters of the derivation are left, so it is found again
    have letters' : rest (bytes.extract 0 cut) i =
        t.chars ++ (rest bytes last).take (cut - i - t.chars.length) := by
      rw [rest_extract, letters, List.take_append, List.take_of_length_le (by omega)]
    obtain ⟨k', eq', last', read, left⟩ := readAt?_chars t ht letters'
    obtain rfl : k' = k := Option.some.inj (eq'.symm.trans eq)
    have length' := congrArg List.length letters'
    rw [List.length_append, ← left, length_rest, length_rest] at length'
    have inside' := last'.2
    rw [read, Option.map_some, show last'.1 = last.1 by omega]
  next short =>
    -- what is found would be another derivation in front of the same letters
    rw [Option.map_eq_none_iff, Option.eq_none_iff_forall_ne_some]
    rintro ⟨k', last'⟩ read
    obtain ⟨u, -, -, letters'⟩ := readAt?_derives read
    have inside' := last'.2
    have length' := congrArg List.length letters'
    rw [List.length_append, length_rest, length_rest] at length'
    have size : (bytes.extract 0 cut).size = min cut bytes.size - 0 := ByteArray.size_extract
    have both : t.chars ++ rest bytes last =
        u.chars ++ (rest (bytes.extract 0 cut) last' ++ (rest bytes i).drop (cut - i)) := by
      rw [← letters, ← List.append_assoc, ← letters', rest_extract, List.take_append_drop]
    obtain ⟨rfl, -⟩ := WireType.chars_append_inj t u both
    omega

/-- Each field of a structure takes a letter at least, and one more closes it. -/
theorem length_lt_of_readFieldsAt? {bytes : ByteArray} {i : Nat} {ks : List Kind}
    {last : Further bytes i} (h : readFieldsAt? bytes i = some (ks, last)) :
    i + ks.length < last.1 := by
  obtain ⟨rfl, -⟩ | ⟨k, ks, next, after, rfl, -, reads, same⟩ := readFieldsAt?_cases h
  · have := last.2
    simpa using this.1
  · have := next.2
    have := length_lt_of_readFieldsAt? reads
    rw [List.length_cons]
    omega
termination_by bytes.size - i

/-- Signatures are read by their grammar. A text is read if and only if the grammar derives it, and
any other is refused by name; no text has two derivations. What is read is written back as the same
text with every dictionary keyed by strings, and a kind without an empty structure inside is read
back from its own text. On any bytes whatever, a reading ends behind its start and not behind the
end of the bytes, it does not depend on the bytes behind it, and nothing is read if the bytes are
cut off before it; and the fields of a structure take a byte each at least. -/
theorem signatures_read_by_grammar :
    (∀ s, (∃ k, parse s = .ok k) ↔ ∃ t : WireType, t.Cacheable ∧ t.text = s) ∧
    (∀ s, (¬∃ t : WireType, t.Cacheable ∧ t.text = s) →
      parse s = .error (.unsupportedSignature s)) ∧
    (∀ t u : WireType, t.Cacheable → u.Cacheable → t.text = u.text → t = u) ∧
    (∀ s k, parse s = .ok k → k.text.toList = rekeyed s.toList) ∧
    (∀ k : Kind, struct [] ∉ k.parts → parse k.text = .ok k) ∧
    (∀ bytes i k last, readAt? bytes i = some (k, last) →
      i < last.1 ∧ last.1 ≤ bytes.size ∧
        ∀ cut, (readAt? (bytes.extract 0 cut) i).map (fun read => (read.1, read.2.1)) =
          if last.1 ≤ cut then some (k, last.1) else none) ∧
    ∀ bytes i ks last, readFieldsAt? bytes i = some (ks, last) →
      i + ks.length < last.1 ∧ last.1 ≤ bytes.size := by
  have readable : ∀ s, (∃ k, parse s = .ok k) ↔ ∃ t : WireType, t.Cacheable ∧ t.text = s := by
    intro s
    constructor
    · rintro ⟨k, h⟩
      obtain ⟨t, ht, text, -⟩ := ofText?_eq_some_iff.1 (parse_eq_ok_iff.1 h)
      exact ⟨t, ht, text⟩
    · rintro ⟨t, ht, rfl⟩
      obtain ⟨k, -, read⟩ := ofText?_text ht
      exact ⟨k, parse_eq_ok_iff.2 read⟩
  refine ⟨readable, ?_, ?_, ?_, ?_, ?_, ?_⟩
  · intro s underivable
    exact (parse_cases s).resolve_left (mt (readable s).1 underivable)
  · intro t u _ _ text
    exact WireType.text_injective text
  · intro s k h
    obtain ⟨t, ht, rfl, eq⟩ := ofText?_eq_some_iff.1 (parse_eq_ok_iff.1 h)
    have := rekeyed_chars t ht eq []
    simpa [text, WireType.text, rekeyed] using this.symm
  · exact fun k => parse_text
  · intro bytes i k last h
    exact ⟨last.2.1, last.2.2, readAt?_extract h⟩
  · intro bytes i ks last h
    exact ⟨length_lt_of_readFieldsAt? h, last.2.2⟩

/-- A structure of a dictionary with paths for keys and a variant, and a structure cut short. -/
theorem keyed_structure_read_by_grammar :
    let k := struct [dict (array (basic .string)), variant]
    let s := "(a\x7boas\x7dv)"
    parse s = .ok k ∧ (∃ t : WireType, t.Cacheable ∧ t.text = s) ∧
      k.text.toList = rekeyed s.toList ∧
      struct [] ∉ k.parts ∧ parse k.text = .ok k ∧
      (∃ last : Further s.toUTF8 0, readAt? s.toUTF8 0 = some (k, last) ∧ last.1 ≤ s.toUTF8.size) ∧
      (∃ last : Further s.toUTF8 1,
        readFieldsAt? s.toUTF8 1 = some ([dict (array (basic .string)), variant], last) ∧
          1 + 2 < last.1) ∧
      (¬∃ t : WireType, t.Cacheable ∧ t.text = "(u") ∧
      parse "(u" = .error (.unsupportedSignature "(u") := by
  obtain ⟨readable, refused, -, rekeys, again, reads, fields⟩ := signatures_read_by_grammar
  have each : ∀ t ∈ [WireType.dict (.basic .objectPath) (.array (.basic .string)), .variant],
      Cacheable t := by
    simpa using ⟨.dict rfl (.array (.basic .string)), .variant⟩
  have derived := Cacheable.struct each
  have whole : struct [] ∉ (struct [dict (array (basic .string)), variant]).parts := by
    simp [parts, partsOfEach]
  have read : parse "(a\x7boas\x7dv)" = .ok (struct [dict (array (basic .string)), variant]) :=
    parse_eq_ok_iff.2 (ofText?_eq_some_iff.2 ⟨_, derived, rfl, rfl⟩)
  have letters := (rest_text (.struct [.dict (.basic .objectPath) (.array (.basic .string)),
    .variant])).trans (List.append_nil _).symm
  obtain ⟨_, kind, last, at0, -⟩ := readAt?_chars _ derived letters
  cases kind
  -- the fields begin behind the bracket
  obtain ⟨-, -, inner⟩ := letter_of_rest letters
  obtain ⟨_, kinds, last', at1, -⟩ := readFieldsAt?_chars _ each inner
  cases kinds
  have underivable : ¬∃ u : WireType, u.Cacheable ∧ u.text = "(u" := by
    rintro ⟨u, -, short⟩
    have letters : u.chars = ['('] ++ ['u'] := String.ofList_injective short
    -- a structure ends in its bracket, and nothing else starts with one
    cases u with
    | struct fs =>
      have both : '(' :: charsOfList fs ++ [')'] = ['('] ++ ['u'] := letters
      exact absurd (List.append_inj_right' both rfl) (by decide)
    | _ => simp [chars] at letters
  exact ⟨read, (readable _).1 ⟨_, read⟩, rekeys _ _ read, whole, again _ whole,
    ⟨last, at0, (reads _ _ _ _ at0).2.1⟩, ⟨last', at1, (fields _ _ _ _ at1).1⟩, underivable,
    refused _ underivable⟩

end Kind

end BusCache
