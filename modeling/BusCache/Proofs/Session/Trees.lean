import BusCache.Proofs.Session.Turns

/-!
# Trees — elements and those discovered through them

The parent of an element is registered as long as the element is, and it was registered earlier. So
the elements of a session are trees, and removing one of them reaches all that is below it: there
are never more levels than elements. Elements leave one after the other, each when none is left that
was discovered through it, whatever the order is in which a session lists its paths.
-/

namespace BusCache

/-! ## 1. Parents -/

namespace Session

def parent? (s : Session) (path : Path) : Option Path := s.look path Element.parent

/-- Every parent is registered and ranks below the elements discovered through it. -/
def Ranked (rank : Path → Nat) (s : Session) : Prop :=
  ∀ path parent, s.parent? path = some parent →
    (s.element? parent).isSome ∧ rank parent < rank path

/-- The elements are trees: no element is its own ancestor. -/
def Forest (s : Session) : Prop := ∃ rank, s.Ranked rank

/-- How many elements rank no lower than the one at a path: there are fewer levels below it. -/
def reach (rank : Path → Nat) (s : Session) (path : Path) : Nat :=
  s.registry.countP fun entry => rank path ≤ rank entry.1

variable {s t : Session} {rank : Path → Nat} {path : Path}

theorem forest_of_empty (empty : ∀ path, s.element? path = none) : s.Forest := by
  refine ⟨fun _ => 0, fun path parent below => ?_⟩
  unfold parent? at below
  rw [look_of_element?_none (empty path)] at below
  cases below

theorem Ranked.of_same (ranked : s.Ranked rank) (parents : ∀ p, t.parent? p = s.parent? p)
    (kept : ∀ p, (s.element? p).isSome → (t.element? p).isSome) : t.Ranked rank := by
  intro p q below
  rw [parents] at below
  obtain ⟨here, lower⟩ := ranked p q below
  exact ⟨kept q here, lower⟩

theorem Ranked.reach_lt (ranked : s.Ranked rank) {child : Path}
    (below : s.parent? child = some path) : s.reach rank child < s.reach rank path := by
  obtain ⟨here, lower⟩ := ranked child path below
  obtain ⟨e, here⟩ := Option.isSome_iff_exists.mp here
  -- the parent itself is counted for the parent alone
  apply countP_lt_countP (Table.mem_of_get? here)
  · exact fun entry higher => by simp only [decide_eq_true_eq] at higher ⊢; omega
  · simp
  · simpa using lower

theorem reach_le_length : s.reach rank path ≤ s.registry.length := List.countP_le_length

theorem element?_of_reach_zero (h : s.reach rank path = 0) : s.element? path = none := by
  by_contra here
  obtain ⟨e, here⟩ := Option.ne_none_iff_exists'.mp here
  have counted : 0 < s.reach rank path :=
    List.countP_pos_iff.mpr ⟨_, Table.mem_of_get? here, by simp⟩
  omega

theorem mem_childrenOf {child : Path} :
    child ∈ s.childrenOf path ↔ s.parent? child = some path := by
  unfold childrenOf parent?
  rw [List.mem_filter, mem_paths_iff, look_eq_some]
  cases s.element? child <;> simp

/-- One level less is enough for what was discovered through an element. -/
theorem Ranked.reach_childrenOf (ranked : s.Ranked rank) {levels : Nat}
    (enough : s.reach rank path ≤ levels + 1) :
    ∀ child ∈ s.childrenOf path, s.reach rank child ≤ levels := by
  intro child mem
  have lower := ranked.reach_lt (mem_childrenOf.mp mem)
  omega

end Session

namespace Act

variable {r : Run} {rank : Path → Nat}

/-- A new element ranks above its parent, and nothing was discovered through it yet. -/
theorem register_ranked {path : Path} {interface : String} {parent : Option Path} {depth : Nat}
    (enabled : (register path interface parent depth).Enabled r.session)
    (ranked : r.session.Ranked rank) :
    ((register path interface parent depth).perform r).session.Ranked
      (Function.update rank path ((parent.map fun q => rank q + 1).getD 0)) := by
  obtain ⟨new, level⟩ := enabled
  have registry := r.register_registry path { interface, parent, depth }
  intro p q below
  have kept : (r.session.element? q).isSome →
      ((r.register path { interface, parent, depth }).session.element? q).isSome ∧ q ≠ path := by
    intro here
    have other : q ≠ path := by
      rintro rfl
      rw [new] at here
      cases here
    rw [Session.element?_of_set registry, if_neg other]
    exact ⟨here, other⟩
  change (r.register path _).session.parent? p = some q at below
  unfold Session.parent? Session.look at below
  rw [Session.element?_of_set registry] at below
  by_cases hp : p = path
  · subst hp
    rw [if_pos rfl, Option.bind_some] at below
    obtain ⟨here, other⟩ := kept (level.known q below)
    refine ⟨here, ?_⟩
    rw [Function.update_of_ne other, Function.update_self]
    change parent = some q at below
    rw [below]
    exact Nat.lt_succ_self _
  · rw [if_neg hp] at below
    obtain ⟨here, lower⟩ := ranked p q below
    obtain ⟨here, other⟩ := kept here
    rw [Function.update_of_ne other, Function.update_of_ne hp]
    exact ⟨here, lower⟩

theorem Works.forest {a : Act} (works : a.Works) (enabled : a.Enabled r.session)
    (forest : r.session.Forest) : (a.perform r).session.Forest := by
  obtain ⟨rank, ranked⟩ := forest
  have still : (∀ p, (a.perform r).session.parent? p = r.session.parent? p) →
      (a.perform r).session.Forest := fun parents =>
    ⟨rank, ranked.of_same parents fun _ here => works.element?_isSome here⟩
  cases a with
  | register path interface parent depth => exact ⟨_, register_ranked enabled ranked⟩
  | send path kind purpose completion call =>
    exact still (Session.look_of_modified_kept
      (r.sendCall_registry path kind purpose completion call) fun _ => rfl)
  | subscribe path rule route =>
    exact still (Session.look_of_modified_kept (r.openSubscription_registry path rule route)
      fun _ => rfl)
  | merge path fetched =>
    exact still (Session.look_of_modified_kept (merge_registry path fetched r) fun _ => rfl)
  | store path name value given =>
    exact still (Session.look_of_modified_kept (store_registry path name value given r)
      fun _ => rfl)
  | drop path name =>
    exact still (Session.look_of_modified_kept (drop_registry path name r) fun _ => rfl)
  | answer call path kind =>
    exact still (Session.look_of_modified_kept (answer_registry call path kind r) fun _ => rfl)
  | _ => first | exact works.elim | exact still fun _ => rfl

end Act

theorem Steps.forest {r r' : Run} (h : Steps Act.Works r r') (start : r.session.Forest) :
    r'.session.Forest :=
  h.preserves (I := fun q => q.session.Forest) (fun _ _ works enabled kept =>
    works.forest enabled kept) start

/-! ## 2. Elements leave -/

/-- Elements leave one after the other, each when no element is left that was discovered through
it. -/
inductive Run.Sheds : Run → List (Path × Element) → Run → Prop
  | nothing (r : Run) : Sheds r [] r
  | release {r r' : Run} {path : Path} {e : Element} {gone : List (Path × Element)}
      (here : r.session.element? path = some e) (leaf : ∀ p, r.session.parent? p ≠ some path)
      (rest : Sheds (r.releaseElement path) gone r') : Sheds r ((path, e) :: gone) r'

theorem Run.releaseElement_parent? (r : Run) (path p : Path) :
    (r.releaseElement path).session.parent? p =
      if p = path then none else r.session.parent? p := by
  unfold Session.parent? Session.look
  rw [releaseElement_element?]
  split <;> rfl

namespace Run.Sheds

variable {r r' r'' : Run} {gone more : List (Path × Element)} {rank : Path → Nat}

theorem trans (first : r.Sheds gone r') (next : r'.Sheds more r'') :
    r.Sheds (gone ++ more) r'' := by
  induction first with
  | nothing => exact next
  | release here leaf _ ih => exact .release here leaf (ih next)

/-- What is left is what did not leave. -/
theorem element? (h : r.Sheds gone r') (p : Path) :
    r'.session.element? p = if p ∈ gone.map Prod.fst then none else r.session.element? p := by
  induction h with
  | nothing => rfl
  | @release r r' path e gone here _ _ ih =>
    rw [ih, releaseElement_element?, List.map_cons]
    by_cases hp : p = path
    · simp [hp]
    · rw [if_neg hp]
      simp only [List.mem_cons, hp, false_or]

theorem parent? (h : r.Sheds gone r') (p : Path) :
    r'.session.parent? p = if p ∈ gone.map Prod.fst then none else r.session.parent? p := by
  unfold Session.parent? Session.look
  rw [h.element?]
  split <;> rfl

/-- The elements leave as they were. -/
theorem mem (h : r.Sheds gone r') {p : Path} {e : Element} (left : (p, e) ∈ gone) :
    r.session.element? p = some e := by
  induction h with
  | nothing => cases left
  | @release r r' path _ gone here _ _ ih =>
    rcases List.mem_cons.mp left with same | later
    · obtain ⟨rfl, rfl⟩ := Prod.mk.inj same
      exact here
    · have known := ih later
      rw [releaseElement_element?] at known
      split at known
      · cases known
      · exact known

/-- Those that leave are those that are there before and not after. -/
theorem mem_iff (h : r.Sheds gone r') {p : Path} {e : Element} :
    (p, e) ∈ gone ↔ r.session.element? p = some e ∧ r'.session.element? p = none := by
  constructor
  · intro left
    refine ⟨h.mem left, ?_⟩
    rw [h.element?, if_pos (List.mem_map_of_mem left)]
  · rintro ⟨here, none⟩
    rw [h.element?] at none
    split at none
    · rename_i found
      obtain ⟨⟨p, e'⟩, left, rfl⟩ := List.mem_map.mp found
      have same := h.mem left
      rw [here] at same
      rwa [Option.some.inj same]
    · rw [here] at none
      cases none

theorem nodup (h : r.Sheds gone r') : (gone.map Prod.fst).Nodup := by
  induction h with
  | nothing => exact List.nodup_nil
  | @release r r' path e gone here _ rest ih =>
    rw [List.map_cons, List.nodup_cons]
    refine ⟨fun again => ?_, ih⟩
    -- a path that was released does not resolve, so it does not leave again
    obtain ⟨⟨p, e'⟩, left, rfl⟩ := List.mem_map.mp again
    have known := rest.mem left
    rw [releaseElement_element?, if_pos rfl] at known
    cases known

/-- Whatever was discovered through an element left before it. -/
theorem children_first (h : r.Sheds gone r') {before after : List (Path × Element)}
    {parent child : Path × Element} (split : gone = before ++ parent :: after)
    (left : child ∈ gone) (below : child.2.parent = some parent.1) : child ∈ before := by
  induction h generalizing before with
  | nothing => cases left
  | @release r r' path e gone here leaf rest ih =>
    cases before with
    | nil =>
      -- the element was released with no child left
      obtain ⟨rfl, rfl⟩ := List.cons.inj split
      have known : r.session.element? child.1 = some child.2 :=
        (Sheds.release here leaf rest).mem left
      have lookup : r.session.parent? child.1 = some path := by
        unfold Session.parent?
        rw [Session.look_of_element? known, below]
      exact absurd lookup (leaf child.1)
    | cons first before =>
      obtain ⟨same, split⟩ := List.cons.inj split
      rcases List.mem_cons.mp left with rfl | later
      · exact same ▸ List.mem_cons_self
      · exact List.mem_cons_of_mem _ (ih split later)

theorem ranked (h : r.Sheds gone r') (start : r.session.Ranked rank) : r'.session.Ranked rank := by
  induction h with
  | nothing => exact start
  | @release r r' path e gone here leaf rest ih =>
    apply ih
    intro p q below
    rw [releaseElement_parent?] at below
    rw [releaseElement_element?]
    -- what leaves is nobody's parent
    split at below
    · cases below
    · obtain ⟨known, lower⟩ := start p q below
      rw [if_neg]
      · exact ⟨known, lower⟩
      · rintro rfl
        exact leaf p below

theorem reach_le (h : r.Sheds gone r') (path : Path) :
    r'.session.reach rank path ≤ r.session.reach rank path := by
  induction h with
  | nothing => exact Nat.le_refl _
  | @release r r' p e gone here leaf rest ih =>
    refine Nat.le_trans ih ?_
    unfold Session.reach
    rw [releaseElement_session here]
    exact List.Sublist.countP_le List.filter_sublist

/-- A loop that removes one path in each round. -/
theorem foldl {I : Run → Prop} {f : Run → Path → Run} (xs : List Path)
    (kept : ∀ q gone q', I q → q.Sheds gone q' → I q')
    (round : ∀ q x, x ∈ xs → I q →
      ∃ gone, q.Sheds gone (f q x) ∧ (f q x).session.element? x = none) (start : I r) :
    ∃ gone, r.Sheds gone (xs.foldl f r) ∧ ∀ x ∈ xs, (xs.foldl f r).session.element? x = none := by
  induction xs generalizing r with
  | nil => exact ⟨[], .nothing r, fun _ h => absurd h List.not_mem_nil⟩
  | cons x xs ih =>
    obtain ⟨gone, first, absent⟩ := round r x List.mem_cons_self start
    obtain ⟨more, rest, others⟩ := ih (fun q y hy => round q y (List.mem_cons_of_mem x hy))
      (kept r gone _ start first)
    refine ⟨gone ++ more, first.trans rest, fun y hy => ?_⟩
    rcases List.mem_cons.mp hy with rfl | later
    · rw [List.foldl_cons, rest.element?, absent, ite_self]
    · exact others y later

end Run.Sheds

namespace Run

variable {r : Run} {rank : Path → Nat}

/-- Removing an element with enough levels removes all that is below it first. -/
theorem removeLevels_sheds (levels : Nat) {path : Path} (ranked : r.session.Ranked rank)
    (enough : r.session.reach rank path ≤ levels) :
    ∃ gone, r.Sheds gone (removeLevels levels path r)
      ∧ (removeLevels levels path r).session.element? path = none := by
  -- on the levels: every child ranks higher, so one level less is enough for it
  induction levels generalizing r path with
  | zero => exact ⟨[], .nothing r, Session.element?_of_reach_zero (Nat.le_zero.mp enough)⟩
  | succ levels ih =>
    cases here : r.session.element? path with
    | none =>
      rw [removeLevels_of_none here]
      exact ⟨[], .nothing r, here⟩
    | some e =>
      rw [removeLevels_of_some here]
      obtain ⟨gone, shed, absent⟩ := Sheds.foldl (f := fun q child => removeLevels levels child q)
        (I := fun q => q.session.Ranked rank
          ∧ ∀ child ∈ r.session.childrenOf path, q.session.reach rank child ≤ levels)
        (r.session.childrenOf path)
        (fun q gone q' kept shed => ⟨shed.ranked kept.1, fun child hchild =>
          Nat.le_trans (shed.reach_le child) (kept.2 child hchild)⟩)
        (fun q child hchild kept => ih kept.1 (kept.2 child hchild))
        ⟨ranked, ranked.reach_childrenOf enough⟩
      generalize (r.session.childrenOf path).foldl (fun q child => removeLevels levels child q) r =
        r₁ at shed absent ⊢
      have leaf : ∀ p, r₁.session.parent? p ≠ some path := by
        intro p child
        have before := child
        rw [shed.parent?] at before
        split at before
        · cases before
        · -- a child that is left was a child before, and of those none is left
          have none := absent p (Session.mem_childrenOf.mpr before)
          unfold Session.parent? at child
          rw [Session.look_of_element?_none none] at child
          cases child
      have left : (r₁.releaseElement path).session.element? path = none := by
        rw [releaseElement_element?, if_pos rfl]
      cases still : r₁.session.element? path with
      | none =>
        rw [releaseElement_of_none still]
        exact ⟨gone, shed, still⟩
      | some e₁ => exact ⟨gone ++ [(path, e₁)], shed.trans (.release still leaf (.nothing _)), left⟩

theorem removeTree_sheds (path : Path) (ranked : r.session.Ranked rank) :
    ∃ gone, r.Sheds gone (r.removeTree path) ∧ (r.removeTree path).session.element? path = none :=
  removeLevels_sheds _ ranked Session.reach_le_length

/-- When everything is removed, the elements leave one after the other, and each of them leaves. -/
theorem removeAll_sheds (forest : r.session.Forest) :
    ∃ gone, r.Sheds gone r.removeAll
      ∧ ∀ path e, (path, e) ∈ gone ↔ r.session.element? path = some e := by
  obtain ⟨rank, ranked⟩ := forest
  obtain ⟨gone, shed, _⟩ := Sheds.foldl (f := fun q path => q.removeTree path)
    (I := fun q => q.session.Ranked rank) r.session.paths
    (fun q gone q' kept shed => shed.ranked kept)
    (fun q path _ kept => removeTree_sheds path kept) ranked
  exact ⟨gone, shed, fun path e => shed.mem_iff.trans (and_iff_left (removeAll_element? r path))⟩

/-! ## 3. Histories -/

theorem enter_forest (owner : String) (forest : r.session.Forest) :
    (r.enter owner).session.Forest := by
  obtain ⟨grown, grows, entered⟩ := enter_grows owner r
  rw [entered]
  exact (grows.mono Act.Grows.works).forest forest

theorem exit_forest (r : Run) : r.exit.session.Forest :=
  Session.forest_of_empty fun path => removeAll_element? r path

theorem ownerChanged_forest (oldOwner newOwner : String) (forest : r.session.Forest) :
    (r.ownerChanged oldOwner newOwner).session.Forest := by
  unfold ownerChanged
  split
  · exact enter_forest _ forest
  · exact exit_forest r
  · exact enter_forest _ (exit_forest r)
  · exact forest

end Run

namespace Operation

theorem perform_forest {r : Run} (sound : r.session.Sound) (forest : r.session.Forest)
    (op : Operation) : (op.perform r).2.session.Forest := by
  cases op.turn sound with
  | works steps => exact steps.forest forest
  | removes path after =>
    obtain ⟨rank, ranked⟩ := forest
    obtain ⟨gone, shed, _⟩ := Run.removeTree_sheds path ranked
    rw [after]
    exact ⟨rank, shed.ranked ranked⟩
  | starts unused after =>
    rw [after]
    exact forest
  | counts users before left after =>
    rw [after]
    exact forest
  | ends last shut after =>
    rw [after]
    exact Session.forest_of_empty (Run.shutdown_last last).1
  | notified subscription oldOwner newOwner event watched after =>
    rw [after]
    exact Run.ownerChanged_forest oldOwner newOwner forest
  | answered call result event enabled after =>
    have settled : ((Act.answerQuery call).perform r).session.Forest := forest
    rcases after with after | ⟨owner, after⟩
    · rw [after]
      exact settled
    · rw [after]
      exact Run.ownerChanged_forest "" owner settled

end Operation

namespace Run

theorem performAll_forest {r : Run} (sound : r.session.Sound) (forest : r.session.Forest)
    (ops : List Operation) : (r.performAll ops).session.Forest :=
  performAll_sound_keeps (I := fun q => q.session.Forest)
    (fun _ op sound forest => op.perform_forest sound forest) sound forest ops

theorem start_forest (config : Config) (numbering : Numbering) (listing : Listing) :
    (start config numbering listing).session.Forest :=
  Session.forest_of_empty fun _ => rfl

end Run

end BusCache
