import BusCache.Proofs.Session.Deliveries
import BusCache.Proofs.Session.Departures
import BusCache.Proofs.Session.Subtrees
import BusCache.Proofs.Session.Unasked

/-!
# Roots — what a present service keeps

As long as the application leaves the elements alone, all elements of a present service were
discovered through its root. So nothing takes the root away but the service itself: its owner
leaves, or it tells that the object at the root's path is gone. Until then the root hears of what it
was subscribed to when the owner came, and nothing but a fetch that is under way keeps it from being
fetched. Without the root nothing is left, and it does not come back before the next owner.
-/

namespace BusCache

/-! ## 1. The time of an owner -/

/-- Starts or ends the use of a session, or passes on what comes from the bus. -/
def Operation.ofBus : Operation → Bool
  | init => true
  | shutdown => true
  | relist _ => true
  | dispatch _ => true
  | _ => false

namespace Run

/-- From here on the service has one owner, through some operations and after them. -/
def Serves (r : Run) (owner : String) (ops : List Operation) : Prop :=
  ∀ first rest, ops = first ++ rest → (r.performAll first).session.state = .present owner

/-- Among some operations, the service does not tell that the object at a path is gone. -/
def Spares (r : Run) (path : Path) (ops : List Operation) : Prop :=
  ∀ first op rest, ops = first ++ op :: rest → ¬ (r.performAll first).session.Dismisses path op

variable {r : Run} {owner : String} {path : Path} {ops : List Operation} {op : Operation}

theorem Serves.first (h : r.Serves owner ops) : r.session.state = .present owner :=
  h [] ops rfl

theorem Serves.last (h : r.Serves owner ops) :
    (r.performAll ops).session.state = .present owner :=
  h ops [] (List.append_nil _).symm

theorem serves_nil (present : r.session.state = .present owner) : r.Serves owner [] := by
  intro first rest split
  rw [(List.append_eq_nil_iff.mp split.symm).1]
  exact present

theorem serves_concat_iff : r.Serves owner (ops ++ [op]) ↔
    r.Serves owner ops ∧ (r.performAll (ops ++ [op])).session.state = .present owner := by
  constructor
  · intro h
    refine ⟨fun first rest split => h first (rest ++ [op]) ?_, h.last⟩
    rw [split, List.append_assoc]
  · rintro ⟨before, last⟩ first rest split
    rcases List.eq_nil_or_concat rest with rfl | ⟨rest, y, rfl⟩
    · rw [List.append_nil] at split
      rwa [← split]
    · rw [List.concat_eq_append, ← List.append_assoc] at split
      exact before first rest (List.append_inj_left' split rfl)

theorem spares_concat_iff : r.Spares path (ops ++ [op]) ↔
    r.Spares path ops ∧ ¬ (r.performAll ops).session.Dismisses path op := by
  constructor
  · intro h
    refine ⟨fun first x rest split => h first x (rest ++ [op]) ?_, h ops op [] rfl⟩
    rw [split, List.append_assoc, List.cons_append]
  · rintro ⟨before, last⟩ first x rest split
    rcases concat_eq_append_cons_iff.mp split with ⟨rfl, rfl, rfl⟩ | ⟨rest, rfl, earlier⟩
    · exact last
    · exact before first x rest earlier

/-- Who is the owner in the end came at some point and stayed from then on. -/
theorem exists_arrival (other : r.session.state ≠ .present owner)
    (present : (r.performAll ops).session.state = .present owner) :
    ∃ before op since, ops = before ++ op :: since
      ∧ (r.performAll before).session.state ≠ .present owner
      ∧ (r.performAll (before ++ [op])).Serves owner since := by
  -- on the last operation: it brings the owner unless an earlier one did
  induction ops using List.reverseRecOn with
  | nil => exact absurd present other
  | append_singleton ops last ih =>
    by_cases known : (r.performAll ops).session.state = .present owner
    · obtain ⟨before, op, since, rfl, unknown, serves⟩ := ih known
      refine ⟨before, op, since ++ [last], ?_, unknown, serves_concat_iff.mpr ⟨serves, ?_⟩⟩
      · rw [List.append_assoc, List.cons_append]
      · rw [← performAll_split]
        rwa [List.append_assoc, List.cons_append] at present
    · exact ⟨ops, last, [], rfl, known, serves_nil present⟩

/-! ## 2. What happens while an owner stays -/

/-- A notification that leaves the owner leaves everything. -/
theorem ownerChanged_stays {oldOwner newOwner : String} (present : r.session.state = .present owner)
    (still : (r.ownerChanged oldOwner newOwner).session.state = .present owner) :
    r.ownerChanged oldOwner newOwner = r := by
  unfold ownerChanged at still ⊢
  split at still
  · rename_i name enters
    rw [present] at enters
    cases (ServiceState.classify_enter enters).1
  · rw [exit_state] at still
    cases still
  · rename_i name replaces
    rw [enter_state] at still
    cases still
    obtain ⟨_, rfl, named⟩ := ServiceState.classify_replace replaces
    rw [present, ServiceState.classify_known named] at replaces
    cases replaces
  · rfl

/-- The removal of a tree removes what is below its top. -/
theorem removeTree_removed_iff (forest : r.session.Forest) (path p : Path) :
    r.Removed (r.removeTree path) p ↔ (r.session.element? p).isSome ∧ r.session.Below path p := by
  obtain ⟨gone, takes⟩ := removeTree_takes path forest
  have shown : (r.removeTree path).shown Effect.removed? =
      r.shown Effect.removed? ++ gone.map Prod.fst := by
    rw [shown_removed, shown_removed, takes.events, List.filterMap_append, List.filterMap_map,
      show Event.left? ∘ Event.removal = some ∘ Prod.fst from rfl, List.filterMap_eq_map]
  rw [removed_iff shown, List.mem_map]
  constructor
  · rintro ⟨⟨p, e⟩, mem, rfl⟩
    obtain ⟨here, below⟩ := (takes.taken p e).mp mem
    exact ⟨Option.isSome_of_eq_some here, below⟩
  · rintro ⟨here, below⟩
    obtain ⟨e, here⟩ := Option.isSome_iff_exists.mp here
    exact ⟨(p, e), (takes.taken p e).mpr ⟨here, below⟩, rfl⟩

end Run

namespace Operation

variable {r : Run} {op : Operation} {owner : String} {path : Path}

/-- The object that a delivery tells to be gone is removed with all that is below it. -/
theorem perform_dismisses (dismisses : r.session.Dismisses path op) :
    (op.perform r).2 = r.removeTree path := by
  cases op with
  | dispatch event =>
    cases event with
    | signal subscription sender member args =>
      obtain ⟨routed, rest, decoded⟩ := dismisses
      have after := congrArg Prod.snd
        (perform_dispatch (.signal subscription sender member args) r)
      rw [after]
      show r.handleSignal subscription member args = _
      unfold Run.handleSignal
      rw [routed]
      dsimp only
      rw [decoded]
      exact Run.remove_run path r
    | _ => exact dismisses.elim
  | _ => exact dismisses.elim

/-- What an operation means for the owner and for the elements. -/
inductive Passage (op : Operation) (r : Run) : Prop
  /-- The owner stays, or there is none, and what is removed is a tree of elements. -/
  | stays (state : (op.perform r).2.session.state = r.session.state)
      (removals : (∀ p, ¬ r.Removed (op.perform r).2 p)
        ∨ ∃ target, (op.perform r).2 = r.removeTree target
          ∧ (op = .remove target ∨ r.session.Dismisses target op))
  | comes (absent : r.session.state = .absent) (q : Run) (owner : String)
      (registry : q.session.registry = r.session.registry)
      (config : q.session.config = r.session.config) (after : (op.perform r).2 = q.enter owner)
      (unremoved : ∀ p, ¬ r.Removed (op.perform r).2 p)
  /-- The owner leaves with all elements. -/
  | leaves (state : (op.perform r).2.session.state = .absent)
      (empty : ∀ p, (op.perform r).2.session.element? p = none)
  /-- All elements are removed, and another owner comes. -/
  | replaced (q : Run) (owner : String) (other : r.session.state ≠ .present owner)
      (empty : ∀ p, q.session.element? p = none) (after : (op.perform r).2 = q.enter owner)
      (removed : ∀ p, (r.session.element? p).isSome → r.Removed (op.perform r).2 p)

theorem passage_of_notice {q : Run} {oldOwner newOwner : String} (trace : q.trace = r.trace)
    (registry : q.session.registry = r.session.registry)
    (config : q.session.config = r.session.config) (state : q.session.state = r.session.state)
    (after : (op.perform r).2 = q.ownerChanged oldOwner newOwner) : op.Passage r := by
  have shown : q.shown Effect.removed? = r.shown Effect.removed? := by
    unfold Run.shown
    rw [trace]
  unfold Run.ownerChanged at after
  split at after
  · rename_i owner enters
    refine .comes (state ▸ (ServiceState.classify_enter enters).1) q owner registry config after ?_
    rw [after]
    have entered := Run.removed_of_events (Run.enter_events owner q) (by simp)
    exact Run.unremoved_of_shown (entered.trans shown)
  · refine .leaves ?_ ?_
    · rw [after]
      exact Run.exit_state q
    · rw [after]
      exact Run.removeAll_element? q
  · rename_i owner replaces
    refine .replaced q.exit owner ?_ (Run.removeAll_element? q) after fun p here => ?_
    · -- a notification that names the owner again is ignored
      intro known
      obtain ⟨_, rfl, named⟩ := ServiceState.classify_replace replaces
      rw [state, known, ServiceState.classify_known named] at replaces
      cases replaces
    · have gone := q.exit_removes (p := p) (by rwa [Session.element?_of_registry_eq registry])
      rw [after]
      have later := (Run.removed_trans (Run.exit_steps q).trace_extends
        (Run.enter_steps owner q.exit).trace_extends p).mpr (.inl gone)
      unfold Run.Removed at later ⊢
      rwa [shown] at later
  · refine .stays (by rw [after]; exact state) (.inl ?_)
    rw [after]
    exact Run.unremoved_of_shown shown

theorem passage (sound : r.session.Sound) (op : Operation) : op.Passage r := by
  cases op.turn sound with
  | works steps =>
    refine .stays ?_ (.inl (steps.unremoved fun a works path he => by subst he; exact works))
    unfold Session.state
    rw [steps.works_inside.inside_ownership]
  | removes target after cause =>
    refine .stays ?_ (.inr ⟨target, after, cause⟩)
    rw [after]
    unfold Session.state
    rw [(Run.removeTree_inside target r).inside_ownership]
  | starts unused after =>
    refine .stays (by rw [after]; rfl) (.inl ?_)
    rw [after]
    exact Run.unremoved_of_shown (Run.removed_of_same (Run.opened_events r))
  | counts users before left after =>
    refine .stays (by rw [after]; rfl) (.inl ?_)
    rw [after]
    exact Run.unremoved_of_shown rfl
  | ends last shut after =>
    refine .leaves ?_ ?_
    · rw [after]
      exact Run.shutdown_last_state last
    · rw [after]
      exact (Run.shutdown_last last).1
  | notified subscription oldOwner newOwner event watched after =>
    exact passage_of_notice rfl rfl rfl rfl after
  | answered call result event enabled after =>
    rcases after with after | ⟨name, after⟩
    · refine .stays (by rw [after]; rfl) (.inl ?_)
      rw [after]
      exact Run.unremoved_of_shown rfl
    · refine passage_of_notice ?_ ?_ ?_ ?_ after <;> rfl

/-- While the owner stays, elements are removed as a tree, by the application or by the service. -/
theorem stay_cases (sound : r.session.Sound) (present : r.session.state = .present owner)
    (still : (op.perform r).2.session.state = .present owner) :
    (∀ p, ¬ r.Removed (op.perform r).2 p)
      ∨ ∃ target, (op.perform r).2 = r.removeTree target
        ∧ (op = .remove target ∨ r.session.Dismisses target op) := by
  cases op.passage sound with
  | stays _ removals => exact removals
  | comes absent =>
    rw [absent] at present
    cases present
  | leaves state =>
    rw [state] at still
    cases still
  | replaced q name other _ after =>
    rw [after, Run.enter_state] at still
    cases still
    exact absurd present other

end Operation

/-! ## 3. Roots -/

/-- Every element but the root was discovered through another one. -/
def Session.Rooted (s : Session) : Prop :=
  ∀ path e, s.element? path = some e → e.parent = none → path = s.config.rootPath

namespace Session

variable {s : Session} {path : Path}

theorem Rooted.below (rooted : s.Rooted) (forest : s.Forest) (here : (s.element? path).isSome) :
    s.Below s.config.rootPath path
      ∧ ∃ root, s.element? s.config.rootPath = some root ∧ root.parent = none := by
  obtain ⟨rank, ranked⟩ := forest
  -- on the rank: following parents, one comes to the top, and that is the root
  induction ranked_path : rank path using Nat.strong_induction_on generalizing path with
  | _ bound ih =>
    obtain ⟨e, here⟩ := Option.isSome_iff_exists.mp here
    cases above : e.parent with
    | none =>
      have top := rooted path e here above
      rw [← top]
      exact ⟨.refl, e, here, above⟩
    | some parent =>
      have under : s.Under path parent := look_eq_some.mpr ⟨e, here, above⟩
      obtain ⟨known, lower⟩ := ranked path parent under
      obtain ⟨chain, root⟩ := ih _ (ranked_path ▸ lower) known rfl
      exact ⟨.head under chain, root⟩

/-- Without the root there is nothing. -/
theorem Rooted.empty (rooted : s.Rooted) (forest : s.Forest)
    (gone : s.element? s.config.rootPath = none) (path : Path) : s.element? path = none := by
  by_contra here
  obtain ⟨_, root, there, _⟩ := rooted.below forest (Option.isSome_iff_ne_none.mpr here)
  rw [gone] at there
  cases there

theorem Rooted.top (rooted : s.Rooted) (forest : s.Forest) {root : Element}
    (here : s.element? s.config.rootPath = some root) : root.parent = none := by
  obtain ⟨_, root', there, top⟩ := rooted.below forest (Option.isSome_of_eq_some here)
  rw [here] at there
  cases there
  exact top

end Session

namespace Operation

variable {r : Run} {op : Operation} {owner : String}

/-- What comes from the bus grows the session, or tells of a change of owners. -/
theorem ofBus_cases (sound : r.session.Sound) (silent : r.session.Silent) (bus : op.ofBus = true) :
    r.Grew (op.perform r).2
      ∨ ∃ (q : Run) (oldOwner newOwner : String),
        (op.perform r).2 = q.ownerChanged oldOwner newOwner
        ∧ q.session.registry = r.session.registry ∧ q.session.state = r.session.state := by
  have unasked : op.asks = false := by
    cases op <;> first | rfl | cases bus
  rcases op.grew_or_told sound silent unasked with grew | ⟨seeds, _⟩
    | ⟨q, oldOwner, newOwner, after, _, registry, _, state⟩
  · exact .inl grew
  · cases op <;> first | exact seeds.elim | cases bus
  · exact .inr ⟨q, oldOwner, newOwner, after, registry, state⟩

/-- While the owner stays, what comes from the bus registers only what was discovered through other
elements. -/
theorem ofBus_discovers (sound : r.session.Sound) (silent : r.session.Silent)
    (bus : op.ofBus = true) (present : r.session.state = .present owner)
    (still : (op.perform r).2.session.state = .present owner) {p : Path} {e : Element}
    (new : r.session.element? p = none) (here : (op.perform r).2.session.element? p = some e) :
    e.parent ≠ none := by
  rcases ofBus_cases sound silent bus with
    (⟨nothing, _⟩ | ⟨_, spreads⟩) | ⟨q, oldOwner, newOwner, after, registry, state⟩
  · rw [nothing p new] at here
    cases here
  · rcases spreads.new p new with ⟨none, _⟩ | ⟨e', made, below, _⟩
    · rw [none] at here
      cases here
    · rw [made] at here
      cases here
      exact below
  · rw [after] at still here
    rw [Run.ownerChanged_stays (state.trans present) still,
      Session.element?_of_registry_eq registry, new] at here
    cases here

/-- Without an owner, what comes from the bus leaves no element where there was none. -/
theorem ofBus_absent (sound : r.session.Sound) (silent : r.session.Silent)
    (bus : op.ofBus = true) (empty : r.session.state = .absent → ∀ p, r.session.element? p = none)
    (absent : (op.perform r).2.session.state = .absent) (p : Path) :
    (op.perform r).2.session.element? p = none := by
  rcases op.absent_after sound absent with before | gone
  · have none := empty before p
    rcases ofBus_cases sound silent bus with
      (⟨nothing, _⟩ | ⟨present, _⟩) | ⟨q, oldOwner, newOwner, after, registry, state⟩
    · exact nothing p none
    · rw [before] at present
      cases present
    · rcases Run.ownerChanged_absent (state.trans before) oldOwner newOwner with same | entered
      · rw [after, same, Session.element?_of_registry_eq registry]
        exact none
      · rw [after, entered, Run.enter_state] at absent
        cases absent
  · exact gone p

/-- While the owner stays, and the application leaves the elements alone, the root goes only with a
delivery that tells so. -/
theorem perform_rooted (sound : r.session.Sound) (silent : r.session.Silent)
    (forest : r.session.Forest) (bus : op.ofBus = true)
    (present : r.session.state = .present owner)
    (still : (op.perform r).2.session.state = .present owner) (rooted : r.session.Rooted) :
    (op.perform r).2.session.Rooted
      ∧ ((r.session.element? r.session.config.rootPath).isSome →
        ¬ r.session.Dismisses r.session.config.rootPath op →
        ¬ r.Removed (op.perform r).2 r.session.config.rootPath)
      ∧ (((op.perform r).2.session.element? r.session.config.rootPath).isSome →
        (r.session.element? r.session.config.rootPath).isSome
          ∧ ¬ r.session.Dismisses r.session.config.rootPath op) := by
  have acts := op.perform_acts sound
  have setup : (op.perform r).2.session.config = r.session.config := acts.sameSetup.config
  have after : (op.perform r).2.session.Rooted := by
    intro p e here top
    rw [setup]
    -- what is new was discovered through another element, and what stays keeps its parent
    cases was : r.session.element? p with
    | none => exact absurd top (ofBus_discovers sound silent bus present still was here)
    | some e₀ =>
      by_cases removed : r.Removed (op.perform r).2 p
      · rcases stay_cases sound present still with stays | ⟨target, tree, _⟩
        · exact absurd removed (stays p)
        · obtain ⟨_, takes⟩ := Run.removeTree_takes target forest
          rw [tree] at removed here
          rw [takes.absent p ((Run.removeTree_removed_iff forest target p).mp removed).2] at here
          cases here
      · obtain ⟨e', now, origin⟩ := acts.origin_kept was removed
        rw [here] at now
        cases now
        exact rooted p e₀ was (origin.parent ▸ top)
  refine ⟨after, fun here undismissed removed => ?_, fun now => ⟨?_, fun dismissed => ?_⟩⟩
  · rcases stay_cases sound present still with stays | ⟨target, tree, rfl | cause⟩
    · exact stays _ removed
    · cases bus
    · -- only the root itself is above the root
      rw [tree] at removed
      obtain ⟨_, below⟩ := (Run.removeTree_removed_iff forest target _).mp removed
      obtain ⟨root, there⟩ := Option.isSome_iff_exists.mp here
      rcases Relation.ReflTransGen.cases_head below with rfl | ⟨parent, under, _⟩
      · exact undismissed cause
      · obtain ⟨root', there', above⟩ := Session.look_eq_some.mp under
        rw [there] at there'
        cases there'
        rw [rooted.top forest there] at above
        cases above
  · by_contra gone
    obtain ⟨root, now⟩ := Option.isSome_iff_exists.mp now
    have below := ofBus_discovers sound silent bus present still
      (Option.not_isSome_iff_eq_none.mp gone) now
    rw [← setup] at now
    exact below (after.top (op.perform_forest sound forest) now)
  · -- the tree of a path takes the path itself
    rw [perform_dismisses dismissed, Run.removeTree_element?] at now
    cases now

/-- The root of a present service is fetched, unless a fetch of it is under way. -/
theorem syncRoot_answer (present : r.session.state.isPresent) {root : Element}
    (here : r.session.element? r.session.config.rootPath = some root) :
    (syncRoot.perform r).1 = if root.isPending .propertiesGet
      then .error (.alreadyPending r.session.config.rootPath .propertiesGet) else .ok .done := by
  have known : r.session.ensurePresent = .ok () := if_pos present
  have asked : Attempt.syncRoot r = Attempt.sync r.session.config.rootPath none r := by
    unfold Attempt.syncRoot
    rw [Attempt.check_bind_apply, known]
    rfl
  show (silent Attempt.syncRoot r).1 = _
  rw [silent_apply, asked]
  by_cases pending : root.isPending .propertiesGet = true
  · rw [if_pos pending]
    unfold Attempt.sync Session.ensureAdmissible
    rw [Attempt.check_bind_apply, Session.element_eq here]
    dsimp only
    rw [Attempt.check_bind_apply, if_pos pending]
    rfl
  · have free : r.session.slot? r.session.config.rootPath .propertiesGet = none := by
      unfold Session.slot?
      rw [Session.look_of_element? here]
      exact Option.not_isSome_iff_eq_none.mp pending
    rw [if_neg pending, Attempt.sync_eq present here free]
    rfl

end Operation

/-! ## 4. Histories -/

namespace Run

variable {r : Run} {owner : String}

/-- An owner that finds no elements finds a root that was discovered through no other one. -/
theorem arrival_rooted {op : Operation} (sound : r.session.Sound) (silent : r.session.Silent)
    (empty : r.session.state = .absent → ∀ p, r.session.element? p = none)
    (present : (op.perform r).2.session.state = .present owner)
    (other : r.session.state ≠ .present owner) :
    (op.perform r).2.session.Rooted
      ∧ ∃ root, (op.perform r).2.session.element? r.session.config.rootPath = some root
        ∧ root.interface = r.session.config.rootInterface := by
  obtain ⟨q, finds, entered⟩ := op.perform_enters sound silent present other
  obtain ⟨_, root, arrives⟩ := finds.arrives owner
  have none : ∀ p, q.session.element? p = none := by
    rcases finds.elements with ⟨absent, registry⟩ | none
    · intro p
      rw [Session.element?_of_registry_eq registry]
      exact empty absent p
    · exact none
  have only : ∀ p e, (q.enter owner).session.element? p = some e →
      p = r.session.config.rootPath ∧ e.interface = r.session.config.rootInterface := by
    intro p e here
    rcases enter_registers here with ⟨e₀, was, _⟩ | ⟨self, interface, _⟩
    · rw [none p] at was
      cases was
    · rw [finds.config] at self interface
      exact ⟨self, interface⟩
  have setup : (q.enter owner).session.config = r.session.config :=
    (enter_steps owner q).sameSetup.config.trans finds.config
  rw [entered]
  refine ⟨fun p e here _ => ?_, root, arrives.registered, (only _ _ arrives.registered).2⟩
  rw [setup]
  exact (only p e here).1

/-- While an owner stays, and the application leaves the elements alone, the root stays until it is
told to be gone, and then it does not come back. -/
theorem Serves.rooted {since : List Operation} (serves : r.Serves owner since)
    (sound : r.session.Sound) (heard : r.session.Silent ∧ r.Truthful) (forest : r.session.Forest)
    (bus : ∀ op ∈ since, op.ofBus = true) (rooted : r.session.Rooted)
    (here : (r.session.element? r.session.config.rootPath).isSome) :
    (r.performAll since).session.Rooted
      ∧ (r.Spares r.session.config.rootPath since →
        ¬ r.Removed (r.performAll since) r.session.config.rootPath)
      ∧ (((r.performAll since).session.element? r.session.config.rootPath).isSome →
        r.Spares r.session.config.rootPath since) := by
  -- on the last operation: before it, the root was there exactly if it was not told to be gone
  induction since using List.reverseRecOn with
  | nil =>
    refine ⟨rooted, fun _ => not_removed_self r _, fun _ first op rest split => ?_⟩
    exact absurd split (by simp)
  | append_singleton since op ih =>
    obtain ⟨before, still⟩ := serves_concat_iff.mp serves
    obtain ⟨rooted, stays, spared⟩ := ih before fun x mem => bus x (List.mem_append_left _ mem)
    have acts := performAll_acts sound since
    have setup : (r.performAll since).session.config = r.session.config := acts.sameSetup.config
    have soundSince := performAll_sound sound since
    rw [performAll_concat] at still ⊢
    have step := Operation.perform_rooted soundSince (performAll_silent sound heard since)
      (performAll_forest sound forest since) (bus op (by simp)) before.last still rooted
    rw [setup] at step
    obtain ⟨rooted', stays', spared'⟩ := step
    rw [spares_concat_iff, removed_concat_iff sound]
    refine ⟨rooted', fun ⟨spares, undismissed⟩ => ?_, fun now => ?_⟩
    · obtain ⟨root, here⟩ := Option.isSome_iff_exists.mp here
      obtain ⟨_, there, _⟩ := acts.origin_kept here (stays spares)
      exact not_or.mpr ⟨stays spares, stays' (Option.isSome_of_eq_some there) undismissed⟩
    · exact ⟨spared (spared' now).1, (spared' now).2⟩

variable (config : Config) (numbering : Numbering) (listing : Listing)

/-- If the application leaves the elements alone, there are none without an owner. -/
theorem performAll_ofBus_absent (ops : List Operation) (bus : ∀ op ∈ ops, op.ofBus = true) :
    ((start config numbering listing).performAll ops).session.state = .absent →
      ∀ p, ((start config numbering listing).performAll ops).session.element? p = none := by
  induction ops using List.reverseRecOn with
  | nil => exact fun _ _ => rfl
  | append_singleton ops op ih =>
    have before := ih fun x mem => bus x (List.mem_append_left _ mem)
    rw [performAll_concat]
    exact Operation.ofBus_absent (performAll_sound (start_sound config numbering listing) ops)
      (performAll_heard config numbering listing ops).1 (bus op (by simp)) before

/-- When an owner comes, the root hears of its changes, unless a configured signal has the name of
the signal that announces them. -/
theorem performAll_arrival_hears (ops : List Operation) (op : Operation) {owner : String}
    (present : (op.perform ((start config numbering listing).performAll ops)).2.session.state =
      .present owner)
    (other : ((start config numbering listing).performAll ops).session.state ≠ .present owner)
    (unnamed : ∀ signal ∈ config.lifecycle, signal.member ≠ config.protocol.changeSignal) :
    ∃ id, ((start config numbering listing).performAll (ops ++ [op])).HearsChanges
      config.rootPath id := by
  have sound := performAll_sound (start_sound config numbering listing) ops
  have silent := (performAll_heard config numbering listing ops).1
  obtain ⟨q, finds, entered⟩ := op.perform_enters sound silent present other
  have opened := (enter_listens finds.routed finds.still owner).2
  rw [finds.config, performAll_config, ← entered, ← performAll_concat] at opened
  obtain ⟨id, route⟩ := opened unnamed
  exact ⟨id, (performAll_hearsChanges_iff config numbering listing _ _ id).mpr route⟩

/-- If the application leaves the elements alone, an owner that came and stayed found a root. From
then on the root is registered exactly as long as it is not told to be gone. -/
theorem performAll_keeps_root (before since : List Operation) (op : Operation) {owner : String}
    (bus : ∀ x ∈ before ++ op :: since, x.ofBus = true)
    (other : ((start config numbering listing).performAll before).session.state ≠ .present owner)
    (serves : ((start config numbering listing).performAll (before ++ [op])).Serves owner since) :
    let came := (start config numbering listing).performAll (before ++ [op])
    let r := came.performAll since
    r.session.Rooted
      ∧ ((r.session.element? config.rootPath).isSome ↔ came.Spares config.rootPath since)
      ∧ ∀ e, r.session.element? config.rootPath = some e →
        e.interface = config.rootInterface ∧ ¬ came.Removed r config.rootPath := by
  intro came r
  have started := start_sound config numbering listing
  have setup : ∀ ops, ((start config numbering listing).performAll ops).session.config = config :=
    performAll_config config numbering listing
  have brought := serves.first
  rw [performAll_concat] at brought
  obtain ⟨rooted, found, there, interface⟩ :=
    arrival_rooted (performAll_sound started before)
      (performAll_heard config numbering listing before).1
      (performAll_ofBus_absent config numbering listing before fun x mem =>
        bus x (List.mem_append_left _ mem))
      brought other
  rw [← performAll_concat] at rooted there
  rw [setup] at there interface
  -- what the owner found is carried through the operations since
  have sound : came.session.Sound := performAll_sound started (before ++ [op])
  have kept := serves.rooted sound (performAll_heard config numbering listing (before ++ [op]))
    (performAll_forest started (start_forest config numbering listing) (before ++ [op]))
    (fun x mem => bus x (List.mem_append_right _ (List.mem_cons_of_mem _ mem))) rooted
    (by rw [setup, there]; rfl)
  rw [setup] at kept
  obtain ⟨rooted', stays, spares⟩ := kept
  have acts : Steps (fun _ => True) came r := performAll_acts sound since
  refine ⟨rooted', ⟨spares, fun spared => ?_⟩, fun e here => ?_⟩
  · obtain ⟨e, here, _⟩ := acts.origin_kept there (stays spared)
    exact Option.isSome_of_eq_some here
  · have unremoved := stays (spares (Option.isSome_of_eq_some here))
    obtain ⟨e', here', origin⟩ := acts.origin_kept there unremoved
    rw [here] at here'
    cases here'
    exact ⟨origin.interface.trans interface, unremoved⟩

/-- The subscriptions that the root gets when an owner comes last as long as the root does. The one
for its changes is among them, unless another one takes its name. -/
theorem performAll_root_listens (before since : List Operation) (op : Operation) {owner : String}
    (other : ((start config numbering listing).performAll before).session.state ≠ .present owner)
    (present : ((start config numbering listing).performAll (before ++ [op])).session.state =
      .present owner) :
    let came := (start config numbering listing).performAll (before ++ [op])
    let r := came.performAll since
    ¬ came.Removed r config.rootPath →
    ((∃ id, r.HearsChanges config.rootPath id) ↔
      ∀ signal ∈ config.lifecycle, signal.member ≠ config.protocol.changeSignal)
    ∧ ∀ signal, config.Leads signal →
      ∃ id, r.Listens config.rootPath (signal.rule owner config.rootPath)
          (.lifecycle signal.action) id
        ∧ ∀ sender member args target rest,
          WireValue.decodeAll args = .ok (.objectPath target :: rest) →
          (Operation.dispatch (.signal id sender member args)).perform r =
            (.ok .done, r.applyLifecycle signal.action target) := by
  intro came r stays
  rw [performAll_concat] at present
  have led : ∀ signal, config.Leads signal →
      ∃ id, r.Listens config.rootPath (signal.rule owner config.rootPath)
        (.lifecycle signal.action) id := by
    intro signal leads
    have configured : signal ∈ config.lifecycle := List.mem_of_find?_eq_some leads
    obtain ⟨id, listens⟩ := (performAll_leads_iff config numbering listing before op
      present other configured).mpr leads
    rw [← performAll_concat] at listens
    exact ⟨id, performAll_listens_lasts config numbering listing _ since listens rfl stays⟩
  refine ⟨⟨fun ⟨_, hears⟩ signal configured => ?_, fun unnamed => ?_⟩, fun signal leads => ?_⟩
  · -- the first configured signal of a name leads to no change of a property
    obtain ⟨first, leads, named⟩ := Config.exists_leader configured
    obtain ⟨_, listens⟩ := led first leads
    have unled := hears.unled listens
    rw [show r = (start config numbering listing).performAll _ from (performAll_append ..).symm,
      performAll_config] at unled
    exact named ▸ unled
  · obtain ⟨id, hears⟩ :=
      performAll_arrival_hears config numbering listing before op present other unnamed
    exact ⟨id, performAll_hearsChanges_lasts config numbering listing _ since hears stays⟩
  · obtain ⟨id, listens⟩ := led signal leads
    exact ⟨id, listens, fun sender member args target rest decoded =>
      listens.applied sender member decoded⟩

end Run

/-- If the application leaves the elements alone, the owner of a present service came with some
operation and stayed since. Since then the root is registered exactly as long as the service does
not tell that the object at its path is gone. As long as the root is registered, it is at the top,
and a fetch of it is refused only while another one is under way. It hears of its changes exactly if
no configured signal has the name of the signal that announces them. The first configured signal of
each name is delivered to it, and does what it is configured for to the object that it names. -/
theorem present_service_keeps_root_iff (config : Config) (numbering : Numbering)
    (listing : Listing) (ops : List Operation) (owner : String) :
    let start := Run.start config numbering listing
    let r := start.performAll ops
    let root := config.rootPath
    (∀ op ∈ ops, op.ofBus = true) → r.session.state = .present owner →
    ∃ before op since, ops = before ++ op :: since
      ∧ (start.performAll before).session.state ≠ .present owner
      ∧ (start.performAll (before ++ [op])).Serves owner since
      ∧ ((r.session.element? root).isSome ↔
        (start.performAll (before ++ [op])).Spares root since)
      ∧ ∀ e, r.session.element? root = some e →
        e.interface = config.rootInterface ∧ e.parent = none
        ∧ (Operation.syncRoot.perform r).1 = (if e.isPending .propertiesGet
            then .error (.alreadyPending root .propertiesGet) else .ok .done)
        ∧ ((∃ id, r.HearsChanges root id) ↔
          ∀ signal ∈ config.lifecycle, signal.member ≠ config.protocol.changeSignal)
        ∧ ∀ signal, config.Leads signal →
          ∃ id, r.Listens root (signal.rule owner root) (.lifecycle signal.action) id
            ∧ ∀ sender member args target rest,
              WireValue.decodeAll args = .ok (.objectPath target :: rest) →
              (Operation.dispatch (.signal id sender member args)).perform r =
                (.ok .done, r.applyLifecycle signal.action target) := by
  intro start r root bus present
  have absent : start.session.state ≠ .present owner := ServiceState.noConfusion
  obtain ⟨before, op, since, rfl, other, serves⟩ := Run.exists_arrival absent present
  have whole : r = (start.performAll (before ++ [op])).performAll since :=
    Run.performAll_split before since op start
  obtain ⟨rooted, spared_iff, keeps⟩ :=
    Run.performAll_keeps_root config numbering listing before since op bus other serves
  rw [← whole] at rooted spared_iff keeps
  refine ⟨before, op, since, rfl, other, serves, spared_iff, fun e here => ?_⟩
  obtain ⟨interface, unremoved⟩ := keeps e here
  obtain ⟨hears, listens⟩ := Run.performAll_root_listens config numbering listing before since op
    other serves.first (by rwa [← whole])
  rw [← whole] at hears listens
  have setup : r.session.config = config := Run.performAll_config config numbering listing _
  have forest : r.session.Forest :=
    Run.performAll_forest (Run.start_sound config numbering listing)
      (Run.start_forest config numbering listing) _
  refine ⟨interface, rooted.top forest (by rwa [setup]), ?_, hears, listens⟩
  have answer := @Operation.syncRoot_answer r (by rw [present]; rfl) e (by rwa [setup])
  rwa [setup] at answer

/-- An adapter comes and goes. The root hears of the next one to go. -/
theorem root_outlives_adapters :
    let config : Config :=
      { service := "org.bluez", rootPath := "/", rootInterface := "org.bluez.Manager",
        protocol := .legacy,
        lifecycle := [⟨"org.bluez.Manager", "AdapterAdded", .added "org.bluez.Adapter"⟩,
          ⟨"org.bluez.Manager", "AdapterRemoved", .removed⟩] }
    let ops : List Operation :=
      [.init, .dispatch (.ownerChanged ⟨1⟩ "org.bluez" "" ":1.7"),
        .dispatch (.signal ⟨3⟩ "/" "AdapterAdded" [.objectPath "/hci0"]),
        .dispatch (.signal ⟨4⟩ "/" "AdapterRemoved" [.objectPath "/hci0"])]
    let r := (Run.start config .counting .ascending).performAll ops
    (Operation.syncRoot.perform r).1 = .error (.alreadyPending "/" .propertiesGet)
    ∧ (∃ id, r.HearsChanges "/" id)
    ∧ ∃ id, r.Listens "/" ⟨":1.7", "/", "org.bluez.Manager", "AdapterRemoved"⟩
        (.lifecycle .removed) id := by
  intro config ops
  have evaluated : let r := (Run.start config .counting .ascending).performAll ops
      (r.session.state, (r.session.element? "/").map fun e => e.isPending .propertiesGet) =
        (.present ":1.7", some true) := by subst config ops; rfl
  have keeps := present_service_keeps_root_iff config .counting .ascending ops ":1.7"
  dsimp only at evaluated keeps ⊢
  generalize (Run.start config .counting .ascending).performAll ops = r at evaluated keeps ⊢
  obtain ⟨present, pending⟩ := Prod.mk.inj evaluated
  obtain ⟨root, here, pending⟩ := Option.map_eq_some_iff.mp pending
  obtain ⟨_, _, _, _, _, _, _, rooted⟩ := keeps (by decide) present
  obtain ⟨_, _, refused, hears, listens⟩ := rooted root here
  rw [if_pos pending] at refused
  refine ⟨refused, hears.mpr (by decide), ?_⟩
  obtain ⟨id, removal, _⟩ :=
    listens ⟨"org.bluez.Manager", "AdapterRemoved", .removed⟩ (by decide)
  exact ⟨id, removal⟩

/-- The service tells that the object at the path of its root is gone. It is still present, without
a root to fetch. -/
theorem dismissed_root_is_gone :
    let config : Config :=
      { service := "org.bluez", rootPath := "/", rootInterface := "org.bluez.Manager",
        protocol := .legacy,
        lifecycle := [⟨"org.bluez.Manager", "AdapterRemoved", .removed⟩] }
    let ops : List Operation :=
      [.init, .dispatch (.ownerChanged ⟨1⟩ "org.bluez" "" ":1.7"),
        .dispatch (.signal ⟨3⟩ "/" "AdapterRemoved" [.objectPath "/"])]
    let r := (Run.start config .counting .ascending).performAll ops
    (∀ op ∈ ops, op.ofBus = true) ∧ r.session.state = .present ":1.7"
    ∧ r.session.element? "/" = none
    ∧ (Operation.syncRoot.perform r).1 = .error (.staleReference "/") :=
  ⟨by decide, rfl, rfl, rfl⟩

end BusCache
