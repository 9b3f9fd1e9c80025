import BusCache.Proofs.Session.Teardown

/-!
# Subtrees — what goes with an element that is removed

The recursion that removes an element has no bound of its own: it removes what was discovered
through the element, one after the other, and releases the element when all of that is gone. It
comes to an end because no element is its own ancestor. It takes the element and everything below it
and nothing else, so an element is never gone when its own turn comes.
-/

namespace BusCache

/-! ## 1. Above and below -/

namespace Session

/-- An element was discovered through another one. -/
def Under (s : Session) (child parent : Path) : Prop := s.parent? child = some parent

/-- An element is the one at a path, or following parents from it leads there. -/
def Below (s : Session) (path p : Path) : Prop := Relation.ReflTransGen s.Under p path

variable {s t : Session} {rank : Path → Nat} {path p : Path}

theorem Below.mono (h : t.Below path p) (fewer : ∀ c q, t.Under c q → s.Under c q) :
    s.Below path p :=
  Relation.ReflTransGen.mono fewer p path h

theorem Ranked.rank_le (ranked : s.Ranked rank) (below : s.Below path p) : rank path ≤ rank p := by
  unfold Below at below
  induction below with
  | refl => exact Nat.le_refl _
  | tail _ step ih => exact Nat.le_trans (Nat.le_of_lt (ranked _ _ step).2) ih

/-- Following parents, one never comes back. -/
theorem Forest.acyclic (forest : s.Forest) (path : Path) :
    ¬ Relation.TransGen s.Under path path := by
  obtain ⟨rank, ranked⟩ := forest
  intro cycle
  have descends : ∀ q, Relation.TransGen s.Under path q → rank q < rank path := by
    intro q above
    induction above with
    | single step => exact (ranked _ _ step).2
    | tail _ step ih => exact Nat.lt_trans (ranked _ _ step).2 ih
  exact Nat.lt_irrefl _ (descends path cycle)

end Session

/-- Removal registers nothing, and who is left was there before, just as it is. -/
theorem Steps.element?_of_removed {r r' : Run} (h : Steps Act.Removes r r') {p : Path}
    {e : Element} (left : r'.session.element? p = some e) : r.session.element? p = some e := by
  apply h.preserves (I := fun q => ∀ e, q.session.element? p = some e →
    r.session.element? p = some e) _ (fun _ here => here) e left
  intro q a removes _ before e here
  cases a with
  | release path =>
    change (q.releaseElement path).session.element? p = some e at here
    rw [Run.releaseElement_element?] at here
    split at here
    · cases here
    · exact before e here
  | _ => exact removes.elim

theorem Steps.under_of_removed {r r' : Run} (h : Steps Act.Removes r r') {child parent : Path}
    (under : r'.session.Under child parent) : r.session.Under child parent := by
  obtain ⟨e, here, above⟩ := Session.look_eq_some.mp under
  exact Session.look_eq_some.mpr ⟨e, h.element?_of_removed here, above⟩

/-! ## 2. The recursion without a bound -/

/-- Paths are removed one after the other, by a recursion that nothing bounds. A path where there is
no element is passed over. An element goes after those that are found below it when its turn comes,
and it is still there then. -/
inductive Run.Clears : List Path → Run → Run → Prop
  | done (r : Run) : Clears [] r r
  | absent {r r' : Run} {path : Path} {rest : List Path}
      (unregistered : r.session.element? path = none) (next : Clears rest r r') :
      Clears (path :: rest) r r'
  | present {r r₁ r' : Run} {path : Path} {rest : List Path}
      (registered : (r.session.element? path).isSome)
      (children : Clears (r.session.childrenOf path) r r₁)
      (still : (r₁.session.element? path).isSome)
      (next : Clears rest (r₁.releaseElement path) r') : Clears (path :: rest) r r'

namespace Run.Clears

variable {r r' r'' : Run} {paths more : List Path} {rank : Path → Nat}

theorem append (first : Clears paths r r') (next : Clears more r' r'') :
    Clears (paths ++ more) r r'' := by
  induction first with
  | done => exact next
  | absent unregistered _ ih => exact .absent unregistered (ih next)
  | present registered children still _ _ ih => exact .present registered children still (ih next)

/-- A loop that removes one path in each round. -/
theorem foldl {I : Run → Prop} {f : Run → Path → Run} (xs : List Path)
    (round : ∀ q x, x ∈ xs → I q → Clears [x] q (f q x) ∧ I (f q x)) (start : I r) :
    Clears xs r (xs.foldl f r) := by
  induction xs generalizing r with
  | nil => exact .done r
  | cons x xs ih =>
    obtain ⟨first, kept⟩ := round r x List.mem_cons_self start
    exact first.append (ih (fun q y hy => round q y (List.mem_cons_of_mem x hy)) kept)

theorem steps (h : Clears paths r r') : Steps Act.Removes r r' := by
  induction h with
  | done => exact .refl
  | absent _ _ ih => exact ih
  | present _ _ _ _ children next =>
    exact (children.trans (releaseElement_steps _ _)).trans next

/-- What goes was below one of the paths. -/
theorem gone_below (h : Clears paths r r') {p : Path} (here : (r.session.element? p).isSome)
    (gone : r'.session.element? p = none) : ∃ path ∈ paths, r.session.Below path p := by
  induction h with
  | done =>
    rw [gone] at here
    cases here
  | absent _ _ ih =>
    obtain ⟨path, mem, below⟩ := ih here gone
    exact ⟨path, List.mem_cons_of_mem _ mem, below⟩
  | @present r r₁ r' path rest _ children _ _ inner outer =>
    by_cases self : p = path
    · exact ⟨path, List.mem_cons_self, self ▸ .refl⟩
    cases left : r₁.session.element? p with
    | none =>
      -- it went with a child of the path
      obtain ⟨child, mem, below⟩ := inner here left
      exact ⟨path, List.mem_cons_self, below.tail (Session.mem_childrenOf.mp mem)⟩
    | some e =>
      have kept : ((r₁.releaseElement path).session.element? p).isSome := by
        rw [releaseElement_element?, if_neg self, left]
        rfl
      obtain ⟨other, mem, below⟩ := outer kept gone
      have removed := children.steps.trans (releaseElement_steps r₁ path)
      exact ⟨other, List.mem_cons_of_mem _ mem, below.mono fun _ _ => removed.under_of_removed⟩

end Run.Clears

namespace Run

variable {r : Run} {rank : Path → Nat}

/-- With enough levels the bound does not show. -/
theorem removeLevels_clears (levels : Nat) {path : Path} (ranked : r.session.Ranked rank)
    (enough : r.session.reach rank path ≤ levels) :
    Clears [path] r (removeLevels levels path r) := by
  -- on the levels, as the elements that are removed leave
  induction levels generalizing r path with
  | zero => exact .absent (Session.element?_of_reach_zero (Nat.le_zero.mp enough)) (.done r)
  | succ levels ih =>
    cases here : r.session.element? path with
    | none =>
      rw [removeLevels_of_none here]
      exact .absent here (.done r)
    | some e =>
      rw [removeLevels_of_some here]
      have cleared := Clears.foldl (f := fun q child => removeLevels levels child q)
        (I := fun q => q.session.Ranked rank
          ∧ ∀ child ∈ r.session.childrenOf path, q.session.reach rank child ≤ levels)
        (r.session.childrenOf path) ?_ ⟨ranked, ranked.reach_childrenOf enough⟩
      · generalize (r.session.childrenOf path).foldl (fun q child => removeLevels levels child q) r
          = r₁ at cleared ⊢
        have still : (r₁.session.element? path).isSome := by
          by_contra gone
          rw [Option.not_isSome_iff_eq_none] at gone
          -- what went is below a child, and the path is above all of them
          obtain ⟨child, mem, above⟩ := cleared.gone_below (Option.isSome_of_eq_some here) gone
          have higher := (ranked _ _ (Session.mem_childrenOf.mp mem)).2
          have lower := ranked.rank_le above
          omega
        exact .present (Option.isSome_of_eq_some here) cleared still (.done _)
      · intro q child hchild kept
        obtain ⟨gone, shed, _⟩ := removeLevels_sheds levels kept.1 (kept.2 child hchild)
        exact ⟨ih kept.1 (kept.2 child hchild), shed.ranked kept.1,
          fun other mem => Nat.le_trans (shed.reach_le other) (kept.2 other mem)⟩

theorem removeTree_clears (path : Path) (ranked : r.session.Ranked rank) :
    Clears [path] r (r.removeTree path) :=
  removeLevels_clears _ ranked Session.reach_le_length

/-! ## 3. What is taken and what is left -/

/-- What the removal of a path does to a run, given the elements in the order in which they left.
The calls and the subscriptions of each are given up in the order in which the session goes through
them. -/
structure TakesSubtree (r : Run) (path : Path) (gone : List (Path × Element)) (after : Run) :
    Prop where
  /-- No element leaves twice, -/
  once : (gone.map Prod.fst).Nodup
  /-- those that leave are the one at the path and those below it, as they were, -/
  taken : ∀ p e, (p, e) ∈ gone ↔ r.session.element? p = some e ∧ r.session.Below path p
  /-- and each leaves after all that were discovered through it. -/
  children_first : ∀ before parent rest, gone = before ++ parent :: rest →
    ∀ child ∈ gone, child.2.parent = some parent.1 → child ∈ before
  events : after.events = r.events ++ gone.map Event.removal
  canceled : after.shown Effect.canceled? = r.shown Effect.canceled?
    ++ gone.flatMap fun left => (r.session.listing.slots left.1 left.2).map Slot.call
  unsubscribed : after.shown Effect.closed? = r.shown Effect.closed?
    ++ gone.flatMap fun left => r.session.listing.subscriptions left.1 left.2
  absent : ∀ p, r.session.Below path p → after.session.element? p = none
  /-- All other elements are as they were. -/
  kept : ∀ p, ¬ r.session.Below path p → after.session.element? p = r.session.element? p

theorem removeTree_takes (path : Path) (forest : r.session.Forest) :
    ∃ gone, r.TakesSubtree path gone (r.removeTree path) := by
  obtain ⟨rank, ranked⟩ := forest
  obtain ⟨gone, shed, left⟩ := removeTree_sheds path ranked
  have cleared := removeTree_clears path ranked
  generalize r.removeTree path = after at shed left cleared
  have absent : ∀ p, r.session.Below path p → after.session.element? p = none := by
    intro p below
    -- from the path downwards: with its parent gone, an element cannot be left
    induction below using Relation.ReflTransGen.head_induction_on with
    | refl => exact left
    | @head child parent under _ ih =>
      by_contra here
      have still : child ∉ gone.map Prod.fst := by
        intro mem
        rw [shed.element?, if_pos mem] at here
        exact here rfl
      have under' : after.session.parent? child = some parent := by
        rw [shed.parent?, if_neg still]
        exact under
      have known := (shed.ranked ranked _ _ under').1
      rw [ih] at known
      cases known
  have below : ∀ p, (r.session.element? p).isSome → after.session.element? p = none →
      r.session.Below path p := by
    intro p here none
    obtain ⟨q, mem, below⟩ := cleared.gone_below here none
    rwa [List.mem_singleton.mp mem] at below
  refine ⟨gone, ?_⟩
  constructor
  · exact shed.nodup
  · intro p e
    rw [shed.mem_iff]
    refine and_congr_right fun here => ⟨below p (Option.isSome_of_eq_some here), absent p⟩
  · exact fun _ _ _ split _ mem under => shed.children_first split mem under
  · exact shed.events
  · exact shed.canceled
  · exact shed.unsubscribed
  · exact absent
  · intro p other
    cases here : r.session.element? p with
    | none => exact cleared.steps.element?_eq_none here
    | some e =>
      cases still : after.session.element? p with
      | none => exact absurd (below p (Option.isSome_of_eq_some here) still) other
      | some e' =>
        rw [cleared.steps.element?_of_removed still] at here
        exact here

end Run

/-- The elements of a session are trees, and removing one of them takes exactly the tree below it.
This holds in every session that a history leads to, in whatever orders it went through its tables
so far and goes through them from here on. Parents are registered, following them never comes back,
the recursion that removes a path comes to an end, and it takes what is below the path, each element
once and before its parent. -/
theorem removal_takes_one_subtree (config : Config) (numbering : Numbering) (listing : Listing)
    (ops : List Operation) (order : Listing) :
    let r := ((Run.start config numbering listing).performAll ops).relist order
    (∀ path e parent, r.session.element? path = some e → e.parent = some parent →
      (r.session.element? parent).isSome)
    ∧ (∀ path, ¬ Relation.TransGen r.session.Under path path)
    ∧ ∀ path,
      let result := (Operation.remove path).perform r
      Run.Clears [path] r result.2
      ∧ (r.session.element? path = none → result = (.ok (.wasThere false), r))
      ∧ ((r.session.element? path).isSome → result.1 = .ok (.wasThere true)
        ∧ ∃ gone, r.TakesSubtree path gone result.2) := by
  intro r
  have forest : r.session.Forest := Run.performAll_forest
    (Run.start_sound config numbering listing) (Run.start_forest config numbering listing) ops
  have after : ∀ path, ((Operation.remove path).perform r).2 = r.removeTree path :=
    fun path => Run.remove_run path r
  refine ⟨?_, forest.acyclic, fun path => ⟨?_, ?_, ?_⟩⟩
  · intro path e parent here above
    obtain ⟨rank, ranked⟩ := forest
    exact (ranked path parent (Session.look_eq_some.mpr ⟨e, here, above⟩)).1
  · obtain ⟨rank, ranked⟩ := forest
    rw [after]
    exact Run.removeTree_clears path ranked
  · intro unregistered
    have nothing : r.remove path = (false, r) := by
      unfold Run.remove
      rw [Session.isRegistered_eq_false_iff.mpr unregistered]
      rfl
    show (Except.ok (Answer.wasThere (r.remove path).1), (r.remove path).2) = _
    rw [nothing]
  · intro registered
    have present : r.session.isRegistered path = true := registered
    refine ⟨?_, ?_⟩
    · show Except.ok (Answer.wasThere (r.remove path).1) = _
      unfold Run.remove
      rw [if_pos present]
    · rw [after]
      exact Run.removeTree_takes path forest

/-- A root with an element that was discovered through it, and one of the application's own. The
root goes with the first and leaves the second, and there is nothing to remove at a path that was
never registered. -/
theorem removal_of_root_leaves_own :
    let config : Config :=
      { service := "net.connman", rootPath := "/", rootInterface := "net.connman.Manager",
        protocol := .legacy,
        lifecycle := [⟨"net.connman.Manager", "TechnologyAdded", .added "net.connman.Technology"⟩] }
    let ops : List Operation :=
      [.init, .dispatch (.ownerChanged ⟨1⟩ "net.connman" "" ":1.5"),
        .dispatch (.signal ⟨3⟩ "/" "TechnologyAdded" [.objectPath "/wifi"]),
        .create "/own" "org.example.Note"]
    let r := ((Run.start config .counting .ascending).performAll ops).relist .ascending
    let result := (Operation.remove "/").perform r
    result.1 = .ok (.wasThere true)
    ∧ result.2.session.element? "/" = none ∧ result.2.session.element? "/wifi" = none
    ∧ result.2.session.element? "/own" = some { interface := "org.example.Note" }
    ∧ (Operation.remove "/absent").perform r = (.ok (.wasThere false), r) := by
  intro config ops
  have evaluated :
      let q := (Run.start config .counting .ascending).performAll ops
      (q.session.parent? "/wifi", q.session.parent? "/own", q.session.isRegistered "/",
        q.session.isRegistered "/absent") = (some "/", none, true, false)
      ∧ q.session.element? "/own" = some { interface := "org.example.Note" } := by
    subst config ops
    exact ⟨rfl, rfl⟩
  obtain ⟨_, _, removal⟩ :=
    removal_takes_one_subtree config .counting .ascending ops .ascending
  generalize (Run.start config .counting .ascending).performAll ops = q at evaluated removal ⊢
  obtain ⟨flags, own⟩ := evaluated
  simp only [Prod.mk.injEq] at flags
  obtain ⟨wifi, top, root, absent⟩ := flags
  obtain ⟨_, _, present⟩ := removal "/"
  obtain ⟨_, missing, _⟩ := removal "/absent"
  obtain ⟨answered, gone, takes⟩ := present root
  have apart : ¬ (q.relist .ascending).session.Below "/" "/own" := by
    intro below
    rcases Relation.ReflTransGen.cases_head below with same | ⟨parent, under, _⟩
    · exact absurd same (by decide)
    · cases top.symm.trans under
  refine ⟨answered, takes.absent "/" .refl, takes.absent "/wifi" (.single wifi), ?_, ?_⟩
  · exact (takes.kept "/own" apart).trans own
  · exact missing (Session.isRegistered_eq_false_iff.mp absent)

end BusCache
