import BusCache.Proofs.Session.Effects
import BusCache.Proofs.Session.Routing

/-!
# Rerouting — a subscription's route is read when it delivers, and at no other time

A session whose subscription leads somewhere else does the same in all that it does without a
delivery of that subscription: it sends the same calls under the same numbers, makes the same
subscriptions, registers the same elements, and keeps the same caches. So what is done for one route
can be compared with what would have been done for another.
-/

namespace BusCache

/-! ## 1. Another route -/

/-- The session with another route for a subscription. -/
def Session.reroute (s : Session) (id : SubscriptionId) (route : SignalRoute) : Session :=
  { s with signalRoutes := Table.modify s.signalRoutes id fun _ => route }

namespace Run

/-- A run that did the same as another one in a session where a subscription, which both know, has
another route. -/
structure Parallels (id : SubscriptionId) (route : SignalRoute) (r r' : Run) : Prop where
  session : r'.session = r.session.reroute id route
  effects : r'.shown some = r.shown some
  known : (Table.get? r.session.signalRoutes id).isSome
  old : ∀ n, r.session.issued ≤ n → r.session.numbering.subscription n ≠ id

end Run

namespace Run.Parallels

variable {id : SubscriptionId} {route : SignalRoute} {r r' : Run}

theorem start (routed : r.session.Routed) (known : (Table.get? r.session.signalRoutes id).isSome) :
    r.Parallels id route (r.update fun s => s.reroute id route) where
  session := rfl
  effects := rfl
  known := known
  old n new := by
    rintro rfl
    rw [routed.signals.fresh n new] at known
    cases known

/-- The subscription delivers to its other route. -/
theorem routed (h : r.Parallels id route r') :
    Table.get? r'.session.signalRoutes id = some route := by
  obtain ⟨old, found⟩ := Option.isSome_iff_exists.mp h.known
  rw [h.session]
  show Table.get? (Table.modify r.session.signalRoutes id fun _ => route) id = some route
  rw [Table.get?_modify, if_pos rfl, found, Option.map_some]

/-! ## 2. Acts -/

/-- An act that belongs to a change of properties shows the same and changes the same. -/
theorem act {a : Act} (changes : a.Changes) (h : r.Parallels id route r') :
    (a.perform r).Parallels id route (a.perform r') := by
  have shows : a.shows r' = a.shows r := by
    obtain ⟨s, trace⟩ := r'
    obtain rfl : s = r.session.reroute id route := h.session
    cases a <;> first | exact changes.elim | rfl
  have effects : (a.perform r').shown some = (a.perform r).shown some := by
    rw [Act.perform_shown, Act.perform_shown, shows, h.effects]
  obtain ⟨s, trace⟩ := r'
  obtain rfl : s = r.session.reroute id route := h.session
  have next : r.nextSubscription ≠ id := h.old _ (Nat.le_refl _)
  cases a with
  | subscribe path rule given =>
    -- the new subscription has a number of its own, so its route is filed beside the other one
    have beside := Table.modify_set_of_ne r.session.signalRoutes next given fun _ => route
    refine ⟨?_, effects, ?_, fun n new => h.old n (Nat.le_of_succ_le new)⟩
    · exact congrArg (fun routes => { ((Act.subscribe path rule given).perform r).session with
        signalRoutes := routes }) beside.symm
    · exact (Table.isSome_get?_set _ _ _ _).mpr (.inr h.known)
  | send path kind purpose completion call =>
    exact ⟨rfl, effects, h.known, fun n new => h.old n (Nat.le_of_succ_le new)⟩
  | _ => first | exact changes.elim | exact ⟨rfl, effects, h.known, h.old⟩

end Run.Parallels

/-! ## 3. Attempts -/

namespace Attempt

variable {α β : Type} {id : SubscriptionId} {route : SignalRoute}

/-- The attempt gives the same answer and does the same, whatever the route of a subscription. -/
def Blind (id : SubscriptionId) (route : SignalRoute) (a : Attempt α) : Prop :=
  ∀ r r' : Run, r.Parallels id route r' →
    (a r').1 = (a r).1 ∧ (a r).2.Parallels id route (a r').2

namespace Blind

theorem bind {a : Attempt α} {f : α → Attempt β} (first : a.Blind id route)
    (rest : ∀ x, (f x).Blind id route) : (a >>= f).Blind id route := by
  intro r r' h
  obtain ⟨answer, after⟩ := first r r' h
  rw [bind_apply, bind_apply]
  generalize a r = done at answer after ⊢
  generalize a r' = done' at answer after ⊢
  obtain ⟨outcome, q⟩ := done
  obtain ⟨_, q'⟩ := done'
  cases answer
  cases outcome with
  | ok x => exact rest x q q' after
  | error e => exact ⟨rfl, after⟩

theorem check {f : Session → Except BusError α} (same : ∀ s, f (s.reroute id route) = f s) :
    (check f).Blind id route := by
  intro r r' h
  refine ⟨?_, h⟩
  show f r'.session = f r.session
  rw [h.session, same]

theorem perform {f : Run → Run}
    (does : ∀ r r', r.Parallels id route r' → (f r).Parallels id route (f r')) :
    (perform f).Blind id route :=
  fun r r' h => ⟨rfl, does r r' h⟩

end Blind

theorem subscribeChanges_blind (path : Path) : (subscribeChanges path).Blind id route := by
  refine .bind (.check fun _ => rfl) fun config => .bind (.check fun _ => rfl) fun _ =>
    .bind (.check fun _ => rfl) fun e => .perform fun r r' h => ?_
  dsimp only
  rw [h.session]
  show Run.Parallels id route (if _ then r else _)
    (if e.hasSubscription (r.session.config.protocol.changes r.session.destination path
      e.interface).member then r' else _)
  split
  · exact h
  · exact h.act (a := .subscribe path _ _) trivial

theorem sync_blind (path : Path) : (sync path none).Blind id route := by
  refine .bind (.check fun _ => rfl) fun e => .bind (.check fun _ => rfl) fun _ =>
    .bind (subscribeChanges_blind path) fun _ => .bind (.check fun _ => rfl) fun config =>
    .bind (.check fun _ => rfl) fun _ => .bind (.check fun _ => rfl) fun e =>
    .bind (.check fun _ => rfl) fun _ => .perform fun r r' h => ?_
  rw [show r'.session.destination = r.session.destination by rw [h.session]; rfl]
  exact h.act (a := .send path _ _ _ _) ⟨rfl, rfl⟩

end Attempt

/-! ## 4. Changes -/

namespace Run.Parallels

variable {id : SubscriptionId} {route : SignalRoute} {r r' : Run}

theorem foldl {β : Type} {f : Run → β → Run}
    (round : ∀ q q' x, Parallels id route q q' → Parallels id route (f q x) (f q' x))
    (xs : List β) (h : r.Parallels id route r') :
    (xs.foldl f r).Parallels id route (xs.foldl f r') := by
  induction xs generalizing r r' with
  | nil => exact h
  | cons x xs ih => exact ih (round r r' x h)

theorem element? (h : r.Parallels id route r') (path : Path) :
    r'.session.element? path = r.session.element? path := by
  rw [h.session]
  rfl

theorem adopt (h : r.Parallels id route r') (path : Path) (interface : String) (parent : Path)
    (depth : Nat) :
    (r.adopt path interface parent depth).Parallels id route
      (r'.adopt path interface parent depth) := by
  have registered : r'.session.isRegistered path = r.session.isRegistered path := by
    rw [h.session]
    rfl
  unfold Run.adopt getOrCreate
  rw [registered]
  cases r.session.isRegistered path with
  | true => exact h
  | false =>
    have made := h.act (a := .register path interface (some parent) depth) trivial
    exact (Attempt.sync_blind path _ _ made).2

theorem cascade (h : r.Parallels id route r') (path : Path) (changed : Option String) :
    (r.cascade path changed).Parallels id route (r'.cascade path changed) := by
  unfold Run.cascade
  rw [h.element? path]
  cases r.session.element? path with
  | none => exact h
  | some e =>
    dsimp only
    rw [h.session]
    show Parallels id route (if _ then r else _) (if e.depth + 1 > r.session.config.maxDepth.toNat
      then r' else (r.session.unregisteredChildren e changed).foldl _ r')
    split
    · exact h
    · exact h.foldl (fun q q' child between => between.adopt child.1 child.2 path _) _

/-- A change of a property is the same whatever the route of the subscription that tells of it. -/
theorem change (h : r.Parallels id route r') (path : Path) (name : String) (value : Value)
    (given : Option Kind) :
    (Attempt.change path name value given r).2.Parallels id route
      (Attempt.change path name value given r').2 := by
  have blind : (Attempt.change path name value given).Blind id route := by
    refine .bind (.check fun _ => rfl) fun _ => .perform fun r r' h => ?_
    have stored := h.act (a := .store path name value given) trivial
    exact (stored.act (a := .emit .elementUpdated path (.changed name (some value)))
      trivial).cascade path (some name)
  exact (blind r r' h).2

theorem invalidate (h : r.Parallels id route r') (path : Path) (name : String) :
    (r.invalidate path name).Parallels id route (r'.invalidate path name) := by
  unfold Run.invalidate
  rw [h.element? path]
  split
  · exact h
  · exact (h.act (a := .drop path name) trivial).act
      (a := .emit .elementUpdated path (.changed name none)) trivial

end Run.Parallels

end BusCache
