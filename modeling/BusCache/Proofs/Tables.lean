import BusCache.Table
import Mathlib.Data.List.Nodup
import Mathlib.Data.List.Perm.Basic

/-!
# Tables — more on reading and writing, and tables with distinct keys

`Table.get?` finds the first entry of a key. When the keys are distinct it finds every entry, and
what is stored, gone through in any order of the keys, is what can be looked up, each value once.
The sessions of this library write tables of calls and subscriptions only under keys that are
absent, which keeps their keys distinct whatever the order of the keys is.
-/

namespace BusCache

/-- A narrower test passes fewer times, if some entry shows that it is narrower. -/
theorem countP_lt_countP {α : Type} {p q : α → Bool} {xs : List α} {x : α} (mem : x ∈ xs)
    (wider : ∀ y, p y → q y) (passes : q x) (fails : ¬ p x) : xs.countP p < xs.countP q := by
  obtain ⟨before, after, rfl⟩ := List.append_of_mem mem
  have first : before.countP p ≤ before.countP q := List.countP_mono_left fun y _ => wider y
  have last : after.countP p ≤ after.countP q := List.countP_mono_left fun y _ => wider y
  rw [List.countP_append, List.countP_append, List.countP_cons_of_pos passes,
    List.countP_cons_of_neg fails]
  omega

end BusCache

namespace BusCache.Table

variable {κ α : Type} [DecidableEq κ]

/-! ## 1. Keys and entries -/

theorem mem_of_get? {t : Table κ α} {key : κ} {v : α} (h : get? t key = some v) :
    (key, v) ∈ t := by
  induction t with
  | nil => simp at h
  | cons entry rest ih =>
    obtain ⟨k, w⟩ := entry
    rw [get?_cons] at h
    by_cases hk : k = key
    · rw [if_pos hk] at h
      simp [hk, Option.some.inj h]
    · rw [if_neg hk] at h
      exact List.mem_cons_of_mem _ (ih h)

theorem get?_isSome_of_mem {t : Table κ α} {key : κ} {v : α} (h : (key, v) ∈ t) :
    (get? t key).isSome := by
  induction t with
  | nil => simp at h
  | cons entry rest ih =>
    obtain ⟨k, w⟩ := entry
    rw [get?_cons]
    by_cases hk : k = key
    · simp [hk]
    · rw [if_neg hk]
      have hne : (key, v) ≠ (k, w) := fun he => hk (congrArg Prod.fst he).symm
      exact ih ((List.mem_cons.mp h).resolve_left hne)

/-- The keys are those that something is stored under. -/
theorem mem_keys_iff (t : Table κ α) (key : κ) : key ∈ keys t ↔ (get? t key).isSome := by
  constructor
  · intro h
    obtain ⟨⟨k, v⟩, hmem, rfl⟩ := List.mem_map.mp h
    exact get?_isSome_of_mem hmem
  · intro h
    obtain ⟨v, hv⟩ := Option.isSome_iff_exists.mp h
    exact List.mem_map.mpr ⟨_, mem_of_get? hv, rfl⟩

theorem get?_eq_none_iff (t : Table κ α) (key : κ) : get? t key = none ↔ key ∉ keys t := by
  rw [mem_keys_iff, Option.not_isSome_iff_eq_none]

theorem eq_nil_iff (t : Table κ α) : t = [] ↔ ∀ key, get? t key = none := by
  constructor
  · rintro rfl
    exact fun _ => rfl
  · intro none
    cases t with
    | nil => rfl
    | cons entry rest =>
      have here := none entry.1
      rw [get?_cons, if_pos rfl] at here
      cases here

theorem get?_eraseAll (t : Table κ α) (gone : List κ) (key : κ) :
    get? (eraseAll t gone) key = if key ∈ gone then none else get? t key := by
  induction gone generalizing t with
  | nil => simp [eraseAll]
  | cons k rest ih =>
    -- the keys are erased one after the other, so a later erasure keeps an earlier one
    have hstep : eraseAll t (k :: rest) = eraseAll (erase t k) rest := rfl
    rw [hstep, ih, get?_erase]
    by_cases hk : key = k
    · simp [hk]
    · simp [hk]

theorem isSome_get?_set [LT κ] [DecidableLT κ] (t : Table κ α) (key other : κ) (v : α) :
    (get? (set t key v) other).isSome ↔ other = key ∨ (get? t other).isSome := by
  rw [get?_set]
  by_cases h : other = key
  · simp [h]
  · simp [h]

theorem isSome_get?_eraseAll (t : Table κ α) (gone : List κ) (key : κ) :
    (get? (eraseAll t gone) key).isSome ↔ (get? t key).isSome ∧ key ∉ gone := by
  rw [get?_eraseAll]
  by_cases h : key ∈ gone
  · simp [h]
  · simp [h]

theorem isSome_get?_erase (t : Table κ α) (key other : κ) :
    (get? (erase t key) other).isSome ↔ (get? t other).isSome ∧ other ≠ key := by
  rw [get?_erase]
  by_cases h : other = key
  · simp [h]
  · simp [h]

/-- A write leaves what was there, but for its own entry. -/
theorem mem_of_mem_set [LT κ] [DecidableLT κ] {t : Table κ α} {key : κ} {v : α} {entry : κ × α}
    (h : entry ∈ set t key v) : entry = (key, v) ∨ entry ∈ t := by
  induction t with
  | nil => exact .inl (List.mem_singleton.mp h)
  | cons first rest ih =>
    obtain ⟨k, w⟩ := first
    unfold set at h
    split at h
    · exact (List.mem_cons.mp h).imp_right (List.mem_cons_of_mem _)
    · split at h
      · exact List.mem_cons.mp h
      · rcases List.mem_cons.mp h with here | later
        · exact .inr (here ▸ List.mem_cons_self)
        · exact (ih later).imp_right (List.mem_cons_of_mem _)

theorem keys_erase (t : Table κ α) (key : κ) : keys (erase t key) = (keys t).filter (· ≠ key) := by
  unfold keys erase
  rw [List.filter_map]
  rfl

theorem keys_modify (t : Table κ α) (key : κ) (f : α → α) : keys (modify t key f) = keys t := by
  unfold keys modify
  rw [List.map_map]
  apply List.map_congr_left
  intro entry _
  rw [Function.comp_apply]
  split <;> rfl

theorem modify_cons (k : κ) (v : α) (rest : Table κ α) (key : κ) (f : α → α) :
    modify ((k, v) :: rest) key f = (k, if k = key then f v else v) :: modify rest key f := by
  unfold modify
  rw [List.map_cons]
  split <;> rfl

/-- Changing what is stored under a key moves no key, so what is written under another one finds its
place all the same. -/
theorem modify_set_of_ne [LT κ] [DecidableLT κ] (t : Table κ α) {key other : κ} (ne : key ≠ other)
    (value : α) (f : α → α) :
    modify (set t key value) other f = set (modify t other f) key value := by
  induction t with
  | nil => exact (modify_cons key value [] other f).trans (by rw [if_neg ne]; rfl)
  | cons e rest ih =>
    obtain ⟨k, v⟩ := e
    rw [modify_cons]
    unfold set
    by_cases same : k = key
    · rw [if_pos same, if_pos same, modify_cons, if_neg ne]
    · rw [if_neg same, if_neg same]
      by_cases before : key < k
      · rw [if_pos before, if_pos before, modify_cons, if_neg ne, modify_cons]
      · rw [if_neg before, if_neg before, modify_cons, ih]

theorem modify_modify (t : Table κ α) (key : κ) (f g : α → α) :
    modify (modify t key f) key g = modify t key fun v => g (f v) := by
  unfold modify
  rw [List.map_map]
  apply List.map_congr_left
  intro entry _
  rw [Function.comp_apply]
  by_cases same : entry.1 = key
  · rw [if_pos same, if_pos same, if_pos same]
  · rw [if_neg same, if_neg same, if_neg same]

theorem erase_of_get?_none {t : Table κ α} {key : κ} (absent : get? t key = none) :
    erase t key = t := by
  apply List.filter_eq_self.mpr
  intro entry mem
  rw [decide_eq_true_eq]
  rintro rfl
  exact (get?_eq_none_iff t _).mp absent (List.mem_map_of_mem mem)

/-- Erasing what was written under an absent key leaves nothing of the write. -/
theorem erase_set_of_get?_none [LT κ] [DecidableLT κ] {t : Table κ α} {key : κ} (v : α)
    (absent : get? t key = none) : erase (set t key v) key = t := by
  have new : ∀ u : Table κ α, erase ((key, v) :: u) key = erase u key :=
    fun u => List.filter_cons_of_neg (by simp)
  have old : ∀ (k : κ) (w : α) (u : Table κ α), k ≠ key →
      erase ((k, w) :: u) key = (k, w) :: erase u key :=
    fun k w u other => List.filter_cons_of_pos (by simp [other])
  induction t with
  | nil => exact new []
  | cons entry rest ih =>
    obtain ⟨k, w⟩ := entry
    rw [get?_cons] at absent
    split at absent
    · cases absent
    · rename_i other
      unfold set
      rw [if_neg other]
      split
      · rw [new, old k w rest other, erase_of_get?_none absent]
      · rw [old k w _ other, ih absent]

/-- Entries that are written to a table are read as from a table of their own; what they do not have
is read as before. -/
theorem get?_foldl_set [LT κ] [DecidableLT κ] (entries : List (κ × α)) (t : Table κ α) (key : κ) :
    get? (entries.foldl (fun t e => set t e.1 e.2) t) key =
      (get? (ofList entries) key).or (get? t key) := by
  induction entries generalizing t with
  | nil => rfl
  | cons entry rest ih =>
    show get? (rest.foldl _ (set t entry.1 entry.2)) key =
      (get? (rest.foldl _ (set [] entry.1 entry.2)) key).or (get? t key)
    rw [ih, ih (set [] entry.1 entry.2), get?_set, get?_set, get?_nil, Option.or_assoc]
    split <;> rfl

/-- What a table has after entries were written to it is one of them, or it was there before and no
entry is for its key. -/
theorem get?_foldl_set_cases [LT κ] [DecidableLT κ] {entries : List (κ × α)} {t : Table κ α}
    {key : κ} {v : α} (found : get? (entries.foldl (fun t e => set t e.1 e.2) t) key = some v) :
    (key, v) ∈ entries ∨ (∀ e ∈ entries, e.1 ≠ key) ∧ get? t key = some v := by
  induction entries generalizing t with
  | nil => exact .inr ⟨fun _ mem => absurd mem List.not_mem_nil, found⟩
  | cons e rest ih =>
    rcases ih found with later | ⟨others, here⟩
    · exact .inl (List.mem_cons_of_mem e later)
    · rw [get?_set] at here
      split at here
      · rename_i same
        rw [same, ← Option.some.inj here]
        exact .inl List.mem_cons_self
      · rename_i other
        exact .inr ⟨List.forall_mem_cons.mpr ⟨Ne.symm other, others⟩, here⟩

theorem get?_mapValues {β : Type} (f : α → β) (t : Table κ α) (key : κ) :
    get? (mapValues f t) key = (get? t key).map f := by
  induction t with
  | nil => rfl
  | cons entry rest ih =>
    obtain ⟨k, v⟩ := entry
    have hstep : mapValues f ((k, v) :: rest) = (k, f v) :: mapValues f rest := rfl
    rw [hstep, get?_cons, get?_cons, ih]
    by_cases hk : k = key
    · rw [if_pos hk, if_pos hk, Option.map_some]
    · rw [if_neg hk, if_neg hk]

theorem mapValues_set {β : Type} [LT κ] [DecidableLT κ] (f : α → β) (t : Table κ α) (key : κ)
    (v : α) : mapValues f (set t key v) = set (mapValues f t) key (f v) := by
  induction t with
  | nil => rfl
  | cons e rest ih =>
    obtain ⟨k, w⟩ := e
    show mapValues f (set ((k, w) :: rest) key v) = set ((k, f w) :: mapValues f rest) key (f v)
    unfold set
    split
    · rfl
    · split
      · rfl
      · exact congrArg _ ih

theorem mapValues_erase {β : Type} (f : α → β) (t : Table κ α) (key : κ) :
    mapValues f (erase t key) = erase (mapValues f t) key := by
  unfold mapValues erase
  rw [List.filter_map]
  rfl

/-- A write under an absent key adds one entry and keeps the others. -/
theorem set_perm_of_get?_none [LT κ] [DecidableLT κ] {t : Table κ α} {key : κ} (v : α)
    (h : get? t key = none) : (set t key v).Perm ((key, v) :: t) := by
  induction t with
  | nil => exact List.Perm.refl _
  | cons entry rest ih =>
    obtain ⟨k, w⟩ := entry
    rw [get?_cons] at h
    have hk : k ≠ key := by
      intro hk
      simp [hk] at h
    rw [if_neg hk] at h
    unfold set
    rw [if_neg hk]
    -- the entry goes before the first larger key, or after the ones before it
    split
    · exact List.Perm.refl _
    · exact ((ih h).cons (k, w)).trans (List.Perm.swap _ _ _)

/-! ## 2. Tables with distinct keys -/

/-- No key has two entries. -/
def Distinct (t : Table κ α) : Prop := (keys t).Nodup

omit [DecidableEq κ] in
theorem distinct_nil : Distinct ([] : Table κ α) := List.nodup_nil

theorem Distinct.erase {t : Table κ α} (h : Distinct t) (key : κ) : Distinct (erase t key) := by
  unfold Distinct
  rw [keys_erase]
  exact List.Nodup.filter _ h

theorem Distinct.set [LT κ] [DecidableLT κ] {t : Table κ α} (h : Distinct t) {key : κ} (v : α)
    (absent : get? t key = none) : Distinct (set t key v) := by
  have hp : (keys (Table.set t key v)).Perm (key :: keys t) :=
    (set_perm_of_get?_none v absent).map Prod.fst
  unfold Distinct
  rw [hp.nodup_iff, List.nodup_cons]
  exact ⟨(get?_eq_none_iff t key).mp absent, h⟩

theorem Distinct.modify {t : Table κ α} (h : Distinct t) (key : κ) (f : α → α) :
    Distinct (modify t key f) := by
  unfold Distinct
  rw [keys_modify]
  exact h

/-- With distinct keys every entry can be looked up. -/
theorem Distinct.get?_of_mem {t : Table κ α} (h : Distinct t) {key : κ} {v : α}
    (hmem : (key, v) ∈ t) : get? t key = some v := by
  induction t with
  | nil => simp at hmem
  | cons entry rest ih =>
    obtain ⟨k, w⟩ := entry
    obtain ⟨hhead, htail⟩ := List.nodup_cons.mp h
    rw [get?_cons]
    rcases List.mem_cons.mp hmem with he | hrest
    · obtain ⟨rfl, rfl⟩ := Prod.mk.inj he
      rw [if_pos rfl]
    · have hk : k ≠ key := by
        rintro rfl
        exact hhead (List.mem_map.mpr ⟨_, hrest, rfl⟩)
      rw [if_neg hk]
      exact ih htail hrest

/-- A change that leaves what is stored under its key leaves the table. -/
theorem Distinct.modify_fixed {t : Table κ α} (h : Distinct t) {key : κ} {v : α} {f : α → α}
    (held : get? t key = some v) (fixed : f v = v) : Table.modify t key f = t := by
  refine (List.map_congr_left fun entry mem => ?_).trans (List.map_id t)
  obtain ⟨k, w⟩ := entry
  split
  · rename_i same
    obtain rfl : k = key := same
    obtain rfl : w = v := Option.some.inj ((h.get?_of_mem mem).symm.trans held)
    exact congrArg (Prod.mk k) fixed
  · rfl

/-! ## 3. What is stored, in any order of the keys -/

section GetAll

variable {t : Table κ α} {order : List κ}

theorem mem_getAll_iff (perm : order.Perm (keys t)) (v : α) :
    v ∈ getAll t order ↔ ∃ key, get? t key = some v := by
  unfold getAll
  rw [List.mem_filterMap]
  constructor
  · intro ⟨key, _, held⟩
    exact ⟨key, held⟩
  · intro ⟨key, held⟩
    have known : key ∈ keys t := (mem_keys_iff t key).mpr (Option.isSome_of_eq_some held)
    exact ⟨key, perm.mem_iff.mpr known, held⟩

/-- If what is stored tells its key, no stored value comes twice. -/
theorem Distinct.nodup_map_getAll {β : Type} (h : Distinct t) (perm : order.Perm (keys t))
    (f : α → β)
    (tells : ∀ k l v w, get? t k = some v → get? t l = some w → f v = f w → k = l) :
    ((getAll t order).map f).Nodup := by
  unfold getAll
  rw [List.map_filterMap]
  apply List.Nodup.filterMap _ (perm.nodup_iff.mpr h)
  intro k l b fromK fromL
  obtain ⟨v, heldK, rfl⟩ := Option.map_eq_some_iff.mp fromK
  obtain ⟨w, heldL, same⟩ := Option.map_eq_some_iff.mp fromL
  exact tells k l v w heldK heldL same.symm

/-- A reading that sees one stored value. -/
theorem Distinct.filterMap_getAll_single {β : Type} (h : Distinct t) (perm : order.Perm (keys t))
    {f : α → Option β} {key : κ} {v : α} {b : β} (held : get? t key = some v) (seen : f v = some b)
    (alone : ∀ k w, get? t k = some w → f w ≠ none → k = key) :
    (getAll t order).filterMap f = [b] := by
  have known : key ∈ order :=
    perm.mem_iff.mpr ((mem_keys_iff t key).mpr (Option.isSome_of_eq_some held))
  have once : order.Nodup := perm.nodup_iff.mpr h
  have unseen : ∀ k, k ≠ key → (get? t k).bind f = none := by
    intro k other
    by_contra seen
    obtain ⟨c, seen⟩ := Option.ne_none_iff_exists'.mp seen
    obtain ⟨w, heldK, seenK⟩ := Option.bind_eq_some_iff.mp seen
    exact other (alone k w heldK (by rw [seenK]; exact Option.some_ne_none c))
  -- the key comes once, and the keys before and after it are others
  obtain ⟨before, after, rfl⟩ := List.append_of_mem known
  obtain ⟨_, later, apart⟩ := List.nodup_append.mp once
  have silent : ∀ ks : List κ, key ∉ ks → ks.filterMap (fun k => (get? t k).bind f) = [] := by
    intro ks absent
    rw [List.filterMap_eq_nil_iff]
    exact fun k mem => unseen k fun same => absent (same ▸ mem)
  unfold getAll
  rw [List.filterMap_filterMap, List.filterMap_append, silent before,
    List.filterMap_cons_some (b := b), silent after]
  · rfl
  · exact (List.nodup_cons.mp later).1
  · rw [held]
    exact seen
  · exact fun mem => apart key mem key List.mem_cons_self rfl

end GetAll

/-! ## 4. Tables with the same keys -/

/-- What two tables store, they store under the same keys. -/
def SameKeys {β : Type} (t : Table κ α) (u : Table κ β) : Prop :=
  ∀ key, (get? t key).isSome ↔ (get? u key).isSome

namespace SameKeys

variable {β γ : Type} {t : Table κ α} {u : Table κ β}

theorem nil : SameKeys ([] : Table κ α) ([] : Table κ β) := fun _ => Iff.rfl

theorem erase (h : SameKeys t u) (key : κ) : SameKeys (t.erase key) (u.erase key) := by
  intro other
  rw [isSome_get?_erase, isSome_get?_erase, h other]

variable [LT κ] [DecidableLT κ]

theorem set (h : SameKeys t u) (key : κ) (v : α) (w : β) :
    SameKeys (t.set key v) (u.set key w) := by
  intro other
  rw [isSome_get?_set, isSome_get?_set, h other]

/-- Two readings of the same entries are written, each to its own table. -/
theorem foldl_set (h : SameKeys t u) (f : γ → α) (g : γ → β) (entries : Table κ γ) :
    SameKeys ((mapValues f entries).foldl (fun t e => t.set e.1 e.2) t)
      ((mapValues g entries).foldl (fun u e => u.set e.1 e.2) u) := by
  induction entries generalizing t u with
  | nil => exact h
  | cons e rest ih => exact ih (h.set e.1 (f e.2) (g e.2))

end SameKeys

end BusCache.Table
