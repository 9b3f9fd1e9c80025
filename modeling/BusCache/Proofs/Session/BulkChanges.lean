import BusCache.Proofs.Session.Alterations
import BusCache.Proofs.Session.Hearing
import BusCache.Proofs.Session.Rerouting
import BusCache.Proofs.Undecodable

/-!
# Bulk changes — one signal for several changes is several signals for one each

In one of the protocols a signal announces the changes of all properties that changed, and names
those that lost their values; in the other one there is a signal for each property. A session takes
both for the same: it goes through the new values in some order, does for each what the signal of
this property alone would do, and then drops what lost its value.
-/

namespace BusCache

/-! ## 1. Reading the changed properties -/

namespace WireValue

theorem decodePropertyEntries_ordered (es : List (WireValue × WireValue)) {into : Cache}
    (before : Table.Ordered into) : Yields Table.Ordered (decodePropertyEntries es into) := by
  induction es generalizing into with
  | nil => exact .ok before
  | cons e es ih => exact .after fun key => .after fun p => ih (before.set key p)

theorem decodeProperties_ordered (w : WireValue) : Yields Table.Ordered (decodeProperties w) := by
  cases w with
  | dict k v entries => exact decodePropertyEntries_ordered entries Table.ordered_nil
  | _ => exact .error _

/-- Every property that is read is that of an entry. -/
theorem decodePropertyEntries_mem (es : List (WireValue × WireValue)) (into : Cache) :
    Yields (fun c => ∀ p ∈ c, p ∈ into ∨ ∃ e ∈ es, keyText e.1 = .ok p.1
      ∧ decodeTyped e.2 = .ok p.2) (decodePropertyEntries es into) := by
  induction es generalizing into with
  | nil => exact .ok fun p mem => .inl mem
  | cons e es ih =>
    obtain ⟨k, w⟩ := e
    rw [decodePropertyEntries]
    refine .bind (P := fun name => keyText k = .ok name) (fun _ h => h) fun name key => ?_
    refine .bind (P := fun p => decodeTyped w = .ok p) (fun _ h => h) fun p typed => ?_
    intro c read q mem
    rcases ih _ c read q mem with new | ⟨e, later, found⟩
    · rcases Table.mem_of_mem_set new with rfl | old
      · exact .inr ⟨(k, w), List.mem_cons_self, key, typed⟩
      · exact .inl old
    · exact .inr ⟨e, List.mem_cons_of_mem _ later, found⟩

end WireValue

theorem propertyChangesOf_decoded {interface changed : WireValue} {rest : List WireValue}
    {changes : PropertyChanges}
    (read : propertyChangesOf (interface :: changed :: rest) = .ok (some changes)) :
    changed.decodeProperties = .ok changes.changed := by
  have yields : Yields (fun c => ∀ changes, c = some changes →
      changed.decodeProperties = .ok changes.changed)
      (propertyChangesOf (interface :: changed :: rest)) := by
    rw [propertyChangesOf_cons]
    refine .after fun i => .bind (P := fun c => changed.decodeProperties = .ok c)
      (fun _ h => h) fun c found => .after fun names => ?_
    split
    · exact .ok fun _ same => Option.some.inj same ▸ found
    · exact .ok fun _ same => by cases same
  exact yields _ read changes rfl

/-- The properties that changed are read off the second argument: each is that of an entry. -/
theorem propertyChangesOf_changed {args : List WireValue} {changes : PropertyChanges}
    (read : propertyChangesOf args = .ok (some changes)) :
    Table.Ordered changes.changed ∧ ∃ key value entries, args[1]? = some (.dict key value entries)
      ∧ ∀ p ∈ changes.changed, ∃ entry ∈ entries,
        entry.1.keyText = .ok p.1 ∧ entry.2.decodeTyped = .ok p.2 := by
  match args with
  | [] => cases read
  | [_] => cases read
  | interface :: second :: rest =>
    have changed := propertyChangesOf_decoded read
    refine ⟨second.decodeProperties_ordered _ changed, ?_⟩
    cases second with
    | dict key value entries =>
      refine ⟨key, value, entries, rfl, fun p mem => ?_⟩
      exact (WireValue.decodePropertyEntries_mem entries [] _ changed p mem).resolve_left
        List.not_mem_nil
    | _ => cases changed

theorem Listing.entries_ascending {c : Cache} (distinct : Table.Distinct c) :
    Listing.ascending.entries c = c := by
  have found : ∀ e ∈ c, (Table.get? c e.1).map (fun p => (e.1, p)) = some e := fun e mem => by
    rw [distinct.get?_of_mem mem, Option.map_some]
  show (c.map Prod.fst).filterMap (fun name => (Table.get? c name).map fun p => (name, p)) = c
  rw [List.filterMap_map]
  exact (List.filterMap_congr found).trans List.filterMap_some

/-- A session goes through each change of a message once. -/
theorem Listing.entries_perm_self (l : Listing) {c : Cache} (distinct : Table.Distinct c) :
    (l.entries c).Perm c := by
  have perm := l.entries_perm Listing.ascending c
  rwa [entries_ascending distinct] at perm

/-! ## 2. Losing values -/

/-- A property loses its value. -/
def Write.loss (name : String) : Write := ⟨name, none⟩

theorem overwrite_losses (old : Option Value) (name : String) (names : List String) :
    overwrite old name (names.map Write.loss) = if name ∈ names then none else old := by
  induction names generalizing old with
  | nil => rfl
  | cons first rest ih =>
    rw [List.map_cons, overwrite_cons, ih]
    show (if name ∈ rest then none else if first = name then none else old) = _
    by_cases later : name ∈ rest
    · rw [if_pos later, if_pos (List.mem_cons_of_mem _ later)]
    · rw [if_neg later]
      by_cases here : first = name
      · rw [if_pos here, if_pos (here ▸ List.mem_cons_self)]
      · rw [if_neg here, if_neg (by simp [later, Ne.symm here])]

/-- New values are all announced. -/
theorem effective_values (old : String → Option Value) (entries : List (String × Property)) :
    effective old (Write.values entries) = Write.values entries := by
  induction entries generalizing old with
  | nil => rfl
  | cons p rest ih =>
    show effective old (⟨p.1, some p.2.value⟩ :: Write.values rest) = _
    rw [effective_cons, if_neg fun h => Option.some_ne_none _ h.1, ih]
    rfl

/-- The values without that of one property. -/
def without (old : String → Option Value) (name : String) : String → Option Value :=
  fun other => if other = name then none else old other

theorem effective_loss (old : String → Option Value) (name : String) (rest : List Write) :
    effective old (Write.loss name :: rest) =
      (if (old name).isSome then [Write.loss name] else [])
        ++ effective (without old name) rest := by
  have after : (fun other => overwrite (old other) other [Write.loss name]) = without old name := by
    funext other
    rw [overwrite_cons, overwrite_nil]
    show (if name = other then none else old other) = _
    unfold without
    simp only [eq_comm]
  rw [effective_cons, after]
  congr 1
  cases before : old name <;> simp [Write.loss, before]

/-- What is lost already is not lost again. -/
theorem effective_without (old : String → Option Value) (name : String) (names : List String) :
    effective (without old name) (names.map Write.loss) =
      effective old ((names.filter fun other => !other == name).map Write.loss) := by
  induction names generalizing old with
  | nil => rfl
  | cons first rest ih =>
    rw [List.map_cons, effective_loss]
    by_cases again : first = name
    · subst again
      have lost : without old first first = none := if_pos rfl
      have twice : without (without old first) first = without old first := by
        funext other
        unfold without
        split <;> rfl
      rw [lost, twice, ih]
      simp
    · have held : without old name first = old first := if_neg again
      have swapped : without (without old name) first = without (without old first) name := by
        funext other
        unfold without
        by_cases h : other = first <;> by_cases h' : other = name <;> simp [h, h']
      rw [held, swapped, ih, List.filter_cons_of_pos (by simpa using again), List.map_cons,
        effective_loss]

/-- Of losses the first of each property is announced, if the property had a value. -/
theorem effective_losses (old : String → Option Value) (names : List String) :
    effective old (names.map Write.loss) =
      (names.eraseDups.filter fun name => (old name).isSome).map Write.loss := by
  match names with
  | [] => rfl
  | name :: rest =>
    rw [List.map_cons, effective_loss, effective_without, effective_losses old, List.eraseDups_cons,
      List.filter_cons]
    split <;> rfl
termination_by names.length
decreasing_by exact Nat.lt_succ_of_le (List.length_filter_le _ _)

/-! ## 3. One signal and several -/

namespace Run

variable {r : Run} {path : Path} {changes : PropertyChanges}

theorem handleSignal_of_bulk {id : SubscriptionId} {args : List WireValue}
    (routed : Table.get? r.session.signalRoutes id = some (.propertiesChanged path))
    (read : propertyChangesOf args = .ok (some changes)) (member : String) :
    r.handleSignal id member args = r.applyChanges path changes := by
  unfold handleSignal
  rw [routed]
  dsimp only
  rw [read]

/-- The new values are stored first, in the order of the listing. -/
theorem applyChanges_eq {e : Element} (here : r.session.element? path = some e)
    (interface : e.interface = changes.interface) :
    r.applyChanges path changes =
      changes.invalidated.foldl (fun q name => q.invalidate path name)
        ((r.session.listing.entries changes.changed).foldl
          (fun q p => (Attempt.change path p.1 p.2.value (some p.2.kind) q).2) r) := by
  unfold applyChanges
  rw [here]
  exact if_pos interface

theorem applyChanges_of_other {e : Element} (here : r.session.element? path = some e)
    (other : e.interface ≠ changes.interface) : r.applyChanges path changes = r := by
  unfold applyChanges
  rw [here]
  exact if_neg other

/-- The signal of a single change does what the change of the property does. -/
theorem Parallels.single {q q' : Run} {id : SubscriptionId}
    (h : q.Parallels id (.propertyChanged path) q') {w : WireValue} {p : Property}
    (typed : w.decodeTyped = .ok p) (name : String) (sender : Path) (member : String) :
    (Attempt.change path name p.value (some p.kind) q).2.Parallels id (.propertyChanged path)
      ((Operation.dispatch (.signal id sender member [.string name, w])).perform q').2 := by
  have read : propertyChangeOf [.string name, w] = .ok (some (name, p)) := by
    show (w.decodeTyped >>= fun p => pure (some (name, p))) = _
    rw [typed]
    rfl
  rw [Operation.perform_signal]
  unfold handleSignal
  rw [h.routed]
  dsimp only
  rw [read]
  exact h.change path name p.value (some p.kind)

/-- The signals of all single changes do what the changes do. -/
theorem Parallels.singles {q q' : Run} {id : SubscriptionId}
    (h : q.Parallels id (.propertyChanged path) q') {wire : String → WireValue}
    (order : List (String × Property)) (typed : ∀ p ∈ order, (wire p.1).decodeTyped = .ok p.2)
    (sender : Path) (member : String) :
    (order.foldl (fun q p => (Attempt.change path p.1 p.2.value (some p.2.kind) q).2) q).Parallels
      id (.propertyChanged path)
      (order.foldl (fun q p => ((Operation.dispatch
        (.signal id sender member [.string p.1, wire p.1])).perform q).2) q') := by
  induction order generalizing q q' with
  | nil => exact h
  | cons p order ih =>
    obtain ⟨first, rest⟩ := List.forall_mem_cons.mp typed
    exact ih (h.single first p.1 sender member) rest

end Run

/-! ## 4. Histories -/

/-- In every session that a history leads to, an element is told of changes of several properties by
one signal. If they are for another interface than the element's, nothing happens. Otherwise all is
as if the subscription had the route of single changes, a signal came for each of the new values, in
some order, and the properties that lost their values were dropped then: the same elements are
registered with the same caches, the same calls are sent and subscriptions made, and the application
is told the same. Each new value is announced, and then each loss, in the order of the signal and
once for each property that had a value then. What lost its value has none, even if it got a new
one. -/
theorem bulk_change_is_single_changes (config : Config) (numbering : Numbering)
    (listing : Listing) (ops : List Operation) (id : SubscriptionId) (path sender : Path)
    (member : String) (args : List WireValue) (changes : PropertyChanges) :
    let r := (Run.start config numbering listing).performAll ops
    Table.get? r.session.signalRoutes id = some (.propertiesChanged path) →
    propertyChangesOf args = .ok (some changes) →
    let bulk := ((Operation.dispatch (.signal id sender member args)).perform r).2
    ∃ e, r.session.element? path = some e
      ∧ (e.interface ≠ changes.interface → bulk = r)
      ∧ (e.interface = changes.interface → ∃ order : List (String × Property),
        order.Perm changes.changed
        ∧ (∀ p ∈ order, ∃ key value entries entry, args[1]? = some (.dict key value entries)
          ∧ entry ∈ entries ∧ entry.1.keyText = .ok p.1 ∧ entry.2.decodeTyped = .ok p.2)
        ∧ ∀ wire : String → WireValue, (∀ p ∈ order, (wire p.1).decodeTyped = .ok p.2) →
          let other := r.update fun s => s.reroute id (.propertyChanged path)
          let singles := order.foldl (fun q p => ((Operation.dispatch
            (.signal id sender "PropertyChanged" [.string p.1, wire p.1])).perform q).2) other
          let dropped := changes.invalidated.foldl (fun q name => q.invalidate path name) singles
          dropped.session = bulk.session.reroute id (.propertyChanged path)
          ∧ dropped.shown some = bulk.shown some
          ∧ bulk.events = r.events
            ++ order.map (fun p => ⟨.elementUpdated, path, .changed p.1 (some p.2.value)⟩)
            ++ (changes.invalidated.eraseDups.filter fun name =>
                (singles.session.value? path name).isSome).map
              (fun name => ⟨.elementUpdated, path, .changed name none⟩)
          ∧ ∀ name ∈ changes.invalidated, bulk.session.value? path name = none) := by
  intro r routed read bulk
  have sound := Run.performAll_sound (Run.start_sound config numbering listing) ops
  obtain ⟨e, here⟩ := Option.isSome_iff_exists.mp (Operation.signalled_registered sound routed rfl)
  have applied : bulk = r.applyChanges path changes := by
    show ((Operation.dispatch (.signal id sender member args)).perform r).2 = _
    rw [Operation.perform_signal, Run.handleSignal_of_bulk routed read]
  refine ⟨e, here, fun other => ?_, fun interface => ?_⟩
  · rw [applied, Run.applyChanges_of_other here other]
  · let order := r.session.listing.entries changes.changed
    let stored := order.foldl
      (fun q p => (Attempt.change path p.1 p.2.value (some p.2.kind) q).2) r
    obtain ⟨ordered, key, value, entries, second, listed⟩ := propertyChangesOf_changed read
    have perm : order.Perm changes.changed := r.session.listing.entries_perm_self ordered.distinct
    refine ⟨order, perm, fun p mem => ?_, fun wire typed => ?_⟩
    · obtain ⟨entry, found⟩ := listed p (perm.mem_iff.mp mem)
      exact ⟨key, value, entries, entry, second, found⟩
    · intro other singles dropped
      have start : r.Parallels id (.propertyChanged path) other :=
        .start sound.routed (Option.isSome_of_eq_some routed)
      have single : stored.Parallels id (.propertyChanged path) singles :=
        start.singles order typed sender "PropertyChanged"
      have both : bulk.Parallels id (.propertyChanged path) dropped := by
        rw [applied, Run.applyChanges_eq here interface]
        exact single.foldl (fun _ _ name h => h.invalidate path name) changes.invalidated
      have announced := Run.applyChanges_changes here changes
      rw [← applied, if_pos interface] at announced
      change r.Changes bulk path (Write.values order ++ changes.invalidated.map Write.loss)
        at announced
      refine ⟨both.session, both.effects, ?_, fun name lost => ?_⟩
      · -- what is lost is judged by the values that the changes left
        have stores : r.Changes stored path (Write.values order) :=
          Run.Changes.foldl (fun q p known => Run.change_changes known p.1 p.2.value
            (some p.2.kind)) order (Option.isSome_of_eq_some here)
        have values : (fun name => overwrite (r.session.value? path name) name
            (Write.values order)) = singles.session.value? path := by
          funext name
          rw [← stores.logs.here name]
          unfold Session.value? Session.cached? Session.look
          rw [single.element?]
        rw [announced.events, effective_append, effective_values, values, effective_losses,
          List.map_append, ← List.append_assoc, List.map_map]
        unfold Write.values
        rw [List.map_map]
        rfl
      · rw [announced.logs.here name, overwrite_append, overwrite_losses, if_pos lost]

/-- A manager lists a device, and gets a state that it loses again by the same signal, which also
names a property that it never had. -/
theorem listed_device_and_lost_state :
    let interface := "org.freedesktop.NetworkManager"
    let config : Config :=
      { service := interface, rootPath := "/nm", rootInterface := interface,
        protocol := .freedesktop,
        children := [⟨interface, "Devices", "org.freedesktop.NetworkManager.Device"⟩] }
    let ops : List Operation := [.init, .dispatch (.ownerChanged ⟨1⟩ interface "" ":1.9")]
    let devices : WireValue := .array (.basic .objectPath) [.objectPath "/nm/1"]
    let state : WireValue := .scalar (.uint32 70)
    let changed : Cache :=
      [("Devices", ⟨.array [.objectPath "/nm/1"], .array (.basic .objectPath)⟩),
        ("State", ⟨.scalar (.uint32 70), .basic .uint32⟩)]
    let args : List WireValue :=
      [.string interface,
        .dict (.basic .string) .variant
          [(.string "Devices", .variant devices), (.string "State", .variant state)],
        .array (.basic .string) [.string "State", .string "Ghost"]]
    let r := (Run.start config .counting .ascending).performAll ops
    let bulk := ((Operation.dispatch (.signal ⟨3⟩ "/nm" "PropertiesChanged" args)).perform r).2
    ∃ order : List (String × Property), order.Perm changed
      ∧ let single := fun (q : Run) (p : String × Property) => ((Operation.dispatch
          (.signal ⟨3⟩ "/nm" "PropertyChanged"
            [.string p.1, if p.1 = "State" then state else devices])).perform q).2
        let singles := order.foldl single (r.update fun s => s.reroute ⟨3⟩ (.propertyChanged "/nm"))
        let dropped := (singles.invalidate "/nm" "State").invalidate "/nm" "Ghost"
        dropped.session = bulk.session.reroute ⟨3⟩ (.propertyChanged "/nm")
        ∧ dropped.shown some = bulk.shown some
        ∧ bulk.session.value? "/nm" "State" = none := by
  intro interface config ops devices state changed args
  have evaluated : let r := (Run.start config .counting .ascending).performAll ops
      (Table.get? r.session.signalRoutes ⟨3⟩,
        (r.session.element? "/nm").map Element.interface) =
          (some (.propertiesChanged "/nm"), some interface) := by subst interface config ops; rfl
  have read : propertyChangesOf args =
      .ok (some ⟨interface, changed, ["State", "Ghost"]⟩) := by
    subst interface devices state changed args
    rfl
  have typed : ∀ p ∈ changed, (if p.1 = "State" then state else devices).decodeTyped = .ok p.2 := by
    intro p mem
    rcases List.mem_pair.mp mem with rfl | rfl
    · rfl
    · rfl
  have bulk := bulk_change_is_single_changes config .counting .ascending ops ⟨3⟩ "/nm" "/nm"
    "PropertiesChanged" args ⟨interface, changed, ["State", "Ghost"]⟩
  dsimp only at evaluated bulk ⊢
  generalize (Run.start config .counting .ascending).performAll ops = r at evaluated bulk ⊢
  obtain ⟨routed, known⟩ : _ ∧ _ := by simpa only [Prod.mk.injEq] using evaluated
  obtain ⟨e, here, _, applies⟩ := bulk routed read
  rw [here, Option.map_some, Option.some.injEq] at known
  obtain ⟨order, perm, _, same⟩ := applies known
  obtain ⟨session, effects, _, lost⟩ := same (fun name => if name = "State" then state else devices)
    fun p mem => typed p (perm.mem_iff.mp mem)
  exact ⟨order, perm, session, effects, lost "State" List.mem_cons_self⟩

end BusCache
