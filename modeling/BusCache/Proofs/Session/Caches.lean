import BusCache.Proofs.Session.Effects

/-!
# Caches — what writes to the properties of an element

A log lists writes of properties in their order, and the last write to a property decides its value.
An act writes to the properties of the element that it names and to no other, and most acts write to
none. Registering, calling and subscribing leave every cache alone, so what follows a write on the
way through a tree of elements does not disturb it.
-/

namespace BusCache

/-! ## 1. Logs -/

/-- A write to a property: a new value, or the loss of its value. -/
structure Write where
  name : String
  value : Option Value

/-- The value of a property after writes, given the one before. -/
def overwrite (old : Option Value) (name : String) (log : List Write) : Option Value :=
  match (log.filter fun w => w.name = name).getLast? with
  | some w => w.value
  | none => old

/-- The value that the last write gave to a property. -/
def lastWrite (name : String) (log : List Write) : Option Value := overwrite none name log

theorem overwrite_nil (old : Option Value) (name : String) : overwrite old name [] = old := rfl

theorem overwrite_append (old : Option Value) (name : String) (first rest : List Write) :
    overwrite old name (first ++ rest) = overwrite (overwrite old name first) name rest := by
  unfold overwrite
  rw [List.filter_append, List.getLast?_append]
  cases (rest.filter fun w => w.name = name).getLast? with
  | some w => rfl
  | none => rw [Option.none_or]

theorem overwrite_cons (old : Option Value) (name : String) (w : Write) (rest : List Write) :
    overwrite old name (w :: rest) =
      overwrite (if w.name = name then w.value else old) name rest := by
  have step : overwrite old name [w] = if w.name = name then w.value else old := by
    unfold overwrite
    by_cases h : w.name = name
    · simp [h]
    · simp [h]
  rw [← step, ← overwrite_append, List.singleton_append]

theorem lastWrite_append (name : String) (first rest : List Write) :
    lastWrite name (first ++ rest) = overwrite (lastWrite name first) name rest :=
  overwrite_append none name first rest

theorem Element.merge_value? (e : Element) (fetched : Cache) (name : String) :
    (Table.get? (e.merge fetched).cache name).map Property.value =
      overwrite ((Table.get? e.cache name).map Property.value) name
        (fetched.map fun p => ⟨p.1, some p.2.value⟩) := by
  unfold merge
  dsimp only
  generalize e.cache = cache
  induction fetched generalizing cache with
  | nil => rfl
  | cons p rest ih =>
    rw [List.foldl_cons, ih, List.map_cons, overwrite_cons]
    congr 1
    rw [Table.get?_set]
    -- an entry decides its own name, and the later entries go on from there
    by_cases h : name = p.1
    · rw [if_pos h, if_pos h.symm, Option.map_some]
    · rw [if_neg h, if_neg (Ne.symm h)]

/-! ## 2. Acts and caches -/

namespace Session

def value? (s : Session) (path : Path) (name : String) : Option Value :=
  (s.cached? path name).map Property.value

variable {s t : Session} {path : Path}

theorem value?_of_element? {e : Element} (h : s.element? path = some e) (name : String) :
    s.value? path name = (Table.get? e.cache name).map Property.value := by
  unfold value? cached?
  rw [look_of_element? h]

theorem value?_of_element?_none (h : s.element? path = none) (name : String) :
    s.value? path name = none := by
  unfold value? cached?
  rw [look_of_element?_none h, Option.map_none]

end Session

namespace Act

/-- The act has nothing to do with the properties of the element at a path. -/
def Bypasses (path : Path) : Act → Prop
  | release p => p ≠ path
  | merge p _ => p ≠ path
  | store p _ _ _ => p ≠ path
  | drop p _ => p ≠ path
  | _ => True

/-- The act writes to no properties. -/
def Quiet : Act → Prop
  | merge _ _ => False
  | store _ _ _ _ => False
  | drop _ _ => False
  | _ => True

theorem Enabled.value?_kept {a : Act} {r : Run} (enabled : a.Enabled r.session) {path : Path}
    (bypasses : a.Bypasses path) (name : String) :
    (a.perform r).session.value? path name = r.session.value? path name := by
  unfold Session.value?
  congr 1
  -- of the acts that modify an element, those that write are about another path
  have modified : ∀ {t : Session} {p : Path} {f : Element → Element},
      t.registry = Table.modify r.session.registry p f → p ≠ path →
        t.cached? path name = r.session.cached? path name := by
    intro t p f h other
    unfold Session.cached?
    rw [Session.look_of_modified h, if_neg (Ne.symm other)]
  cases a with
  | register p interface parent depth =>
    exact Session.look_of_set_blank (r.register_registry p _) enabled.1 rfl path
  | send p kind purpose completion call =>
    exact Session.look_of_modified_kept (r.sendCall_registry p kind purpose completion call)
      (fun _ => rfl) path
  | subscribe p rule route =>
    exact Session.look_of_modified_kept (r.openSubscription_registry p rule route)
      (fun _ => rfl) path
  | closeWatch => exact Session.look_of_registry_eq r.closeWatch_registry path
  | closeQuery => exact Session.look_of_registry_eq r.closeQuery_registry path
  | release p =>
    obtain ⟨e, here⟩ := Option.isSome_iff_exists.mp enabled
    show (r.releaseElement p).session.cached? path name = r.session.cached? path name
    unfold Session.cached?
    rw [Session.look_of_erased (congrArg Session.registry (Run.releaseElement_session here)),
      if_neg (Ne.symm bypasses)]
  | merge p fetched => exact modified (merge_registry p fetched r) bypasses
  | store p n value given => exact modified (store_registry p n value given r) bypasses
  | drop p n => exact modified (drop_registry p n r) bypasses
  | answer call p kind =>
    exact Session.look_of_modified_kept (answer_registry call p kind r) (fun _ => rfl) path
  | _ => rfl

theorem release_value? (r : Run) (path : Path) (name : String) :
    ((release path).perform r).session.value? path name = none := by
  apply Session.value?_of_element?_none
  show (r.releaseElement path).session.element? path = none
  rw [Run.releaseElement_element?, if_pos rfl]

variable {r : Run} {path : Path}

section Written

variable {e : Element} (here : r.session.element? path = some e)

include here

theorem store_element? (name : String) (value : Value) (given : Option Kind) :
    ((store path name value given).perform r).session.element? path =
      some (e.setProperty name value given) :=
  Session.element?_of_modified_self (store_registry path name value given r) here

theorem drop_element? (name : String) :
    ((drop path name).perform r).session.element? path = some (e.removeProperty name) :=
  Session.element?_of_modified_self (drop_registry path name r) here

theorem merge_element? (fetched : Cache) :
    ((merge path fetched).perform r).session.element? path = some (e.merge fetched) :=
  Session.element?_of_modified_self (merge_registry path fetched r) here

end Written

theorem store_value? (here : (r.session.element? path).isSome) (name : String) (value : Value)
    (given : Option Kind) (n : String) :
    ((store path name value given).perform r).session.value? path n =
      overwrite (r.session.value? path n) n [⟨name, some value⟩] := by
  obtain ⟨e, here⟩ := Option.isSome_iff_exists.mp here
  rw [Session.value?_of_element? (store_element? here name value given),
    Session.value?_of_element? here, overwrite_cons, overwrite_nil]
  unfold Element.setProperty
  dsimp only
  rw [Table.get?_set]
  by_cases h : n = name
  · rw [if_pos h, if_pos h.symm, Option.map_some]
  · rw [if_neg h, if_neg (Ne.symm h)]

theorem drop_value? (here : (r.session.element? path).isSome) (name n : String) :
    ((drop path name).perform r).session.value? path n =
      overwrite (r.session.value? path n) n [⟨name, none⟩] := by
  obtain ⟨e, here⟩ := Option.isSome_iff_exists.mp here
  rw [Session.value?_of_element? (drop_element? here name), Session.value?_of_element? here,
    overwrite_cons, overwrite_nil]
  unfold Element.removeProperty
  dsimp only
  rw [Table.get?_erase]
  by_cases h : n = name
  · rw [if_pos h, if_pos h.symm, Option.map_none]
  · rw [if_neg h, if_neg (Ne.symm h)]

theorem merge_value? (here : (r.session.element? path).isSome) (fetched : Cache) (n : String) :
    ((merge path fetched).perform r).session.value? path n =
      overwrite (r.session.value? path n) n (fetched.map fun p => ⟨p.1, some p.2.value⟩) := by
  obtain ⟨e, here⟩ := Option.isSome_iff_exists.mp here
  rw [Session.value?_of_element? (merge_element? here fetched), Session.value?_of_element? here]
  exact e.merge_value? fetched n

end Act

/-! ## 3. Removals -/

/-- From a run to a later one, the removal of the element at a path was announced. -/
def Run.Removed (r r' : Run) (path : Path) : Prop :=
  path ∈ (r'.shown Effect.removed?).drop (r.shown Effect.removed?).length

namespace Run

theorem removed_iff {r r' : Run} {new : List Path}
    (h : r'.shown Effect.removed? = r.shown Effect.removed? ++ new) (path : Path) :
    r.Removed r' path ↔ path ∈ new := by
  unfold Removed
  rw [h, List.drop_left]

theorem unremoved_of_shown {r r' : Run}
    (same : r'.shown Effect.removed? = r.shown Effect.removed?) (path : Path) :
    ¬ r.Removed r' path := by
  rw [removed_iff (same.trans (List.append_nil _).symm)]
  exact List.not_mem_nil

end Run

namespace Act

theorem release_removed {r : Run} {path : Path} {e : Element}
    (here : r.session.element? path = some e) :
    ((release path).shows r).filterMap Effect.removed? = [path] := by
  rw [shows_release here, List.filterMap_append,
    Element.surrenders_unseen _ _ _ (fun _ => rfl) (fun _ => rfl), List.nil_append]
  unfold Element.partings
  show path :: List.filterMap Effect.removed? _ = [path]
  rw [Effect.filterMap_unseen fun _ => rfl]

theorem Enabled.removed {a : Act} {r : Run} (enabled : a.Enabled r.session) (path : Path) :
    path ∈ (a.shows r).filterMap Effect.removed? ↔ a = .release path := by
  cases a with
  | release p =>
    obtain ⟨e, here⟩ := Option.isSome_iff_exists.mp enabled
    rw [release_removed here, List.mem_singleton]
    exact ⟨fun h => by rw [h], fun h => by cases h; rfl⟩
  | closeWatch =>
    rw [closeWatch_unseen fun _ => rfl]
    exact ⟨fun h => absurd h List.not_mem_nil, fun h => by cases h⟩
  | closeQuery =>
    rw [closeQuery_unseen fun _ => rfl]
    exact ⟨fun h => absurd h List.not_mem_nil, fun h => by cases h⟩
  | emit kind p payload =>
    -- only a removal announces a removal
    have other : kind ≠ .elementRemoved := enabled
    cases kind with
    | elementRemoved => exact absurd rfl other
    | _ => exact ⟨fun h => absurd h List.not_mem_nil, fun h => by cases h⟩
  | _ => exact ⟨fun h => absurd h List.not_mem_nil, fun h => by cases h⟩

end Act

namespace Run

theorem Removed.step {r q : Run} {a : Act} (before : r.trace <+: q.trace)
    (enabled : a.Enabled q.session) (path : Path) :
    r.Removed (a.perform q) path ↔ r.Removed q path ∨ a = .release path := by
  obtain ⟨new, trace⟩ := before
  have first := shown_append Effect.removed? trace.symm
  have next := Act.perform_shown Effect.removed? a q
  rw [first, List.append_assoc] at next
  rw [removed_iff first, removed_iff next, List.mem_append, enabled.removed]

theorem not_removed_self (r : Run) (path : Path) : ¬ r.Removed r path :=
  unremoved_of_shown rfl path

end Run

/-- Acts that take no element away. -/
theorem Steps.unremoved {P : Act → Prop} {r r' : Run} (h : Steps P r r')
    (kept : ∀ a, P a → ∀ path, a ≠ .release path) (path : Path) : ¬ r.Removed r' path := by
  have stays : r.trace <+: r'.trace ∧ ¬ r.Removed r' path := by
    apply h.preserves (I := fun q => r.trace <+: q.trace ∧ ¬ r.Removed q path) _
      ⟨List.prefix_refl _, r.not_removed_self path⟩
    intro q a mem enabled ⟨before, stays⟩
    refine ⟨before.trans (Steps.one mem enabled).trace_extends, ?_⟩
    rw [Run.Removed.step before enabled]
    exact not_or.mpr ⟨stays, kept a mem path⟩
  exact stays.2

/-- An element stays registered, where it was discovered, until it is removed. -/
theorem Steps.origin_kept {P : Act → Prop} {r r' : Run} (h : Steps P r r') {p : Path} {e₀ : Element}
    (here : r.session.element? p = some e₀) (stays : ¬ r.Removed r' p) :
    ∃ e, r'.session.element? p = some e ∧ e₀.SameOrigin e := by
  have kept : r.trace <+: r'.trace
      ∧ (¬ r.Removed r' p → ∃ e, r'.session.element? p = some e ∧ e₀.SameOrigin e) := by
    apply h.preserves (I := fun q => r.trace <+: q.trace
      ∧ (¬ r.Removed q p → ∃ e, q.session.element? p = some e ∧ e₀.SameOrigin e))
      _ ⟨List.prefix_refl _, fun _ => ⟨e₀, here, .refl e₀⟩⟩
    intro q a mem enabled ⟨before, known⟩
    refine ⟨before.trans (Steps.one mem enabled).trace_extends, fun stays => ?_⟩
    rw [Run.Removed.step before enabled, not_or] at stays
    obtain ⟨e₁, was, origin⟩ := known stays.1
    obtain ⟨e, after, same⟩ := enabled.origin_kept was stays.2
    exact ⟨e, after, origin.trans same⟩
  exact kept.2 stays

/-- Acts that write nothing leave a cache alone, or drop it with its element. -/
theorem Steps.quiet {r r' : Run} (h : Steps Act.Quiet r r') (path : Path) :
    (¬ r.Removed r' path → ∀ name, r'.session.value? path name = r.session.value? path name)
      ∧ (r.Removed r' path → ∀ name, r'.session.value? path name = none) := by
  have kept : r.trace <+: r'.trace
      ∧ (¬ r.Removed r' path → ∀ name, r'.session.value? path name = r.session.value? path name)
      ∧ (r.Removed r' path → ∀ name, r'.session.value? path name = none) := by
    apply h.preserves (I := fun q => r.trace <+: q.trace
      ∧ (¬ r.Removed q path → ∀ name, q.session.value? path name = r.session.value? path name)
      ∧ (r.Removed q path → ∀ name, q.session.value? path name = none))
    · intro q a quiet enabled ⟨before, same, gone⟩
      have more : q.trace <+: (a.perform q).trace := (Steps.one quiet enabled).trace_extends
      refine ⟨before.trans more, ?_⟩
      rw [Run.Removed.step before enabled]
      -- the removal of the element is announced with it, and any other act leaves its cache alone
      by_cases removal : a = .release path
      · subst removal
        exact ⟨fun h => absurd (.inr rfl) h, fun _ name => Act.release_value? q path name⟩
      · have bypasses : a.Bypasses path := by
          cases a with
          | release p => exact fun he => removal (by rw [he])
          | merge _ _ => exact quiet.elim
          | store _ _ _ _ => exact quiet.elim
          | drop _ _ => exact quiet.elim
          | _ => trivial
        simp only [enabled.value?_kept bypasses, removal, or_false]
        exact ⟨same, gone⟩
    · exact ⟨List.prefix_refl _, fun _ _ => rfl, fun h => absurd h (r.not_removed_self path)⟩
  exact kept.2

/-! ## 4. Writing -/

/-- What a run does to the properties of the element at a path is a log, and nothing is done to the
other properties. Registered elements stay registered. -/
structure Run.Logs (r r' : Run) (path : Path) (log : List Write) : Prop where
  stays : ∀ p, (r.session.element? p).isSome → (r'.session.element? p).isSome
  here : ∀ name, r'.session.value? path name = overwrite (r.session.value? path name) name log
  elsewhere : ∀ p, p ≠ path → ∀ name, r'.session.value? p name = r.session.value? p name
  announced : r'.shown Effect.removed? = r.shown Effect.removed?

namespace Run.Logs

variable {r r' r'' : Run} {path : Path} {first rest : List Write}

theorem nothing (r : Run) (path : Path) : r.Logs r path [] :=
  ⟨fun _ h => h, fun _ => rfl, fun _ _ _ => rfl, rfl⟩

theorem trans (h : r.Logs r' path first) (h' : r'.Logs r'' path rest) :
    r.Logs r'' path (first ++ rest) where
  stays p here := h'.stays p (h.stays p here)
  here name := by rw [h'.here, h.here, overwrite_append]
  elsewhere p hp name := by rw [h'.elsewhere p hp, h.elsewhere p hp]
  announced := h'.announced.trans h.announced

end Run.Logs

theorem Act.Grows.quiet {a : Act} (h : a.Grows) : a.Quiet := by
  cases a <;> first | exact h.elim | trivial

theorem Act.Comes.quiet {a : Act} (h : a.Comes) : a.Quiet := by
  cases a <;> first | exact h.elim | trivial

theorem Steps.grows_logs {r r' : Run} (h : Steps Act.Grows r r') (path : Path) :
    r.Logs r' path [] := by
  have announced : r'.shown Effect.removed? = r.shown Effect.removed? := by
    apply h.shown_eq
    intro q a grows _
    cases a <;> first | exact grows.elim | rfl
  -- growth removes nothing and writes nothing
  have kept : ∀ p name, r'.session.value? p name = r.session.value? p name := by
    intro p
    apply ((h.mono fun _ grows => grows.quiet).quiet p).1
    exact Run.unremoved_of_shown announced p
  exact ⟨fun p => h.element?_isSome, kept path, fun p _ => kept p, announced⟩

namespace Run

theorem logs_of_modified {r : Run} {a : Act} {path : Path} {log : List Write}
    (enabled : a.Enabled r.session) (bypasses : ∀ p, p ≠ path → a.Bypasses p)
    (writes : ∀ name, (a.perform r).session.value? path name =
      overwrite (r.session.value? path name) name log)
    {f : Element → Element}
    (modified : (a.perform r).session.registry = Table.modify r.session.registry path f)
    (unseen : (a.shows r).filterMap Effect.removed? = []) : r.Logs (a.perform r) path log where
  stays p here := by
    rw [Session.element?_of_modified modified]
    split
    · rw [Option.isSome_map]
      exact here
    · exact here
  here := writes
  elsewhere p hp name := enabled.value?_kept (bypasses p hp) name
  announced := by rw [Act.perform_shown, unseen, List.append_nil]

theorem emit_logs {r : Run} (kind : EventKind) (other : kind ≠ .elementRemoved) (p : Path)
    (payload : Payload) (path : Path) : r.Logs (r.emit kind p payload) path [] := by
  refine ⟨fun _ h => h, fun _ => rfl, fun _ _ _ => rfl, ?_⟩
  have enabled : (Act.emit kind p payload).Enabled r.session := other
  have shown := Act.perform_shown Effect.removed? (.emit kind p payload) r
  rw [show ((Act.emit kind p payload).shows r).filterMap Effect.removed? = [] by
    cases kind <;> first | exact absurd rfl other | rfl, List.append_nil] at shown
  exact shown

variable {r : Run} {path : Path}

theorem storeChange_logs (here : (r.session.element? path).isSome) (name : String) (value : Value)
    (given : Option Kind) :
    r.Logs (r.storeChange path name value given) path [⟨name, some value⟩] := by
  -- the announcement and the children found in the new value write nothing
  have stored : r.Logs ((Act.store path name value given).perform r) path [⟨name, some value⟩] :=
    logs_of_modified here (fun _ hp => Ne.symm hp) (Act.store_value? here name value given)
      (Act.store_registry path name value given r) rfl
  have told := stored.trans (emit_logs .elementUpdated (by decide) path
    (.changed name (some value)) path)
  exact told.trans ((cascade_steps _ path (some name)).grows_logs path)

theorem change_logs (here : (r.session.element? path).isSome) (name : String) (value : Value)
    (given : Option Kind) :
    r.Logs (Attempt.change path name value given r).2 path [⟨name, some value⟩] := by
  obtain ⟨e, he⟩ := Option.isSome_iff_exists.mp here
  rw [change_apply, he]
  exact storeChange_logs here name value given

theorem invalidate_logs (here : (r.session.element? path).isSome) (name : String) :
    r.Logs (r.invalidate path name) path [⟨name, none⟩] := by
  unfold invalidate
  cases held : (r.session.element? path).bind fun e => Table.get? e.cache name with
  | none =>
    -- there was no value to lose
    refine ⟨fun _ h => h, fun n => ?_, fun _ _ _ => rfl, rfl⟩
    rw [overwrite_cons, overwrite_nil]
    by_cases h : name = n
    · rw [if_pos h, ← h]
      show ((r.session.element? path).bind fun e => Table.get? e.cache name).map _ = none
      rw [held, Option.map_none]
    · rw [if_neg h]
  | some p =>
    have enabled : (Act.drop path name).Enabled r.session := by
      show ((r.session.element? path).bind fun e => Table.get? e.cache name).isSome
      rw [held]
      rfl
    have dropped : r.Logs ((Act.drop path name).perform r) path [⟨name, none⟩] :=
      logs_of_modified enabled (fun _ hp => Ne.symm hp) (Act.drop_value? here name)
        (Act.drop_registry path name r) rfl
    exact dropped.trans (emit_logs .elementUpdated (by decide) path (.changed name none) path)

theorem foldl_logs {β : Type} {f : Run → β → Run} {w : β → Write}
    (round : ∀ (q : Run) x, (q.session.element? path).isSome → q.Logs (f q x) path [w x])
    (xs : List β) (here : (r.session.element? path).isSome) :
    r.Logs (xs.foldl f r) path (xs.map w) := by
  induction xs generalizing r with
  | nil => exact Logs.nothing r path
  | cons x xs ih =>
    have first := round r x here
    exact first.trans (ih (first.stays path here))

theorem applyChanges_logs {e : Element} (here : r.session.element? path = some e)
    (changes : PropertyChanges) :
    r.Logs (r.applyChanges path changes) path
      (if e.interface = changes.interface then
        (r.session.listing.entries changes.changed).map (fun p => ⟨p.1, some p.2.value⟩)
          ++ changes.invalidated.map fun name => ⟨name, none⟩
      else []) := by
  unfold applyChanges
  rw [here]
  dsimp only
  split
  · -- a round needs the element, and writing keeps it registered
    have registered : (r.session.element? path).isSome := Option.isSome_of_eq_some here
    have storing : ∀ (q : Run) (p : String × Property), (q.session.element? path).isSome →
        q.Logs (Attempt.change path p.1 p.2.value (some p.2.kind) q).2 path
          [⟨p.1, some p.2.value⟩] := by
      intro q p known
      exact change_logs known p.1 p.2.value (some p.2.kind)
    have dropping : ∀ (q : Run) (name : String), (q.session.element? path).isSome →
        q.Logs (q.invalidate path name) path [⟨name, none⟩] := by
      intro q name known
      exact invalidate_logs known name
    have stored := foldl_logs storing (r.session.listing.entries changes.changed) registered
    have dropped := foldl_logs dropping changes.invalidated (stored.stays path registered)
    exact stored.trans dropped
  · exact Logs.nothing r path

theorem mergeFetched_logs (here : (r.session.element? path).isSome) (fetched : Cache) :
    r.Logs (r.mergeFetched path fetched) path (fetched.map fun p => ⟨p.1, some p.2.value⟩) := by
  obtain ⟨e, he⟩ := Option.isSome_iff_exists.mp here
  unfold mergeFetched
  rw [he]
  dsimp only
  -- as above: only the merge writes
  have merged : r.Logs ((Act.merge path fetched).perform r) path
      (fetched.map fun p => ⟨p.1, some p.2.value⟩) :=
    logs_of_modified here (fun _ hp => Ne.symm hp) (Act.merge_value? here fetched)
      (Act.merge_registry path fetched r) rfl
  have told : ∀ q : Run,
      q.Logs (q.emit (if e.synced then EventKind.elementUpdated else .elementAdded) path
        (.snapshot (e.merge fetched).properties)) path [] := by
    intro q
    split
    · exact emit_logs .elementUpdated (by decide) path _ path
    · exact emit_logs .elementAdded (by decide) path _ path
  have announced := merged.trans (told ((Act.merge path fetched).perform r))
  have followed := announced.trans ((cascade_steps _ path none).grows_logs path)
  rw [List.append_nil, List.append_nil] at followed
  exact followed

end Run

end BusCache
