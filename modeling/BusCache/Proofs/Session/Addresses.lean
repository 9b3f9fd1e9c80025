import BusCache.Proofs.Session.Subscriptions
import BusCache.Proofs.Session.Waiting
import Mathlib.Data.List.Pairwise

/-!
# Addresses — who is asked

Calls are sent to the owner of the service and subscriptions are made to its signals, and both are
about the element that they are for. When an owner goes, every call under way is canceled and every
subscription given back, and while there is none nothing is asked for. So an owner finds no request
of an earlier one when it comes, and all that elements await or hold was asked of the owner that the
service has.
-/

namespace BusCache

/-! ## 1. Requests and their numbers -/

theorem Effect.placed?_of_call {e : Effect} {id : CallId} {call : MethodCall}
    (sent : e.call? = some (id, call)) : e.placed? = some id := by
  cases e with
  | call => cases sent; rfl
  | _ => cases sent

theorem Effect.opened?_of_subscribed {e : Effect} {id : SubscriptionId} {rule : SignalRule}
    (made : e.subscribed? = some (id, rule)) : e.opened? = some id := by
  cases e with
  | subscribe => cases made; rfl
  | _ => cases made

/-- What is shown under a number is shown once, if no number was given out twice. -/
theorem Run.shown_unique {r : Run} {ι β : Type} {number : Effect → Option ι}
    (once : (r.shown number).Nodup) {f : Effect → Option (ι × β)}
    (numbered : ∀ {e id x}, f e = some (id, x) → number e = some id) {id : ι} {x y : β}
    (hx : (id, x) ∈ r.shown f) (hy : (id, y) ∈ r.shown f) : x = y := by
  obtain ⟨m, hm, first⟩ := List.mem_filterMap.mp hx
  obtain ⟨n, hn, second⟩ := List.mem_filterMap.mp hy
  have same : m = n := by
    by_contra other
    have symmetric : Std.Symm fun m n : Moment => ∀ a, number m.effect = some a →
        ∀ b, number n.effect = some b → a ≠ b :=
      ⟨fun _ _ apart a ha b hb => (apart b hb a ha).symm⟩
    have apart := (List.pairwise_filterMap.mp once).forall hm hn other
    exact apart id (numbered first) id (numbered second) rfl
  rw [same, second] at first
  cases first
  rfl

/-! ## 2. Calls -/

/-- Every call that an element awaits was sent to the owner, for the element. -/
def Run.CallsAddressed (r : Run) : Prop :=
  ∀ path kind slot, r.session.slot? path kind = some slot →
    ∃ call, (slot.call, call) ∈ r.shown Effect.call?
      ∧ call.destination = r.session.destination ∧ call.path = path

theorem Act.Enabled.callsAddressed {a : Act} {r : Run} (enabled : a.Enabled r.session)
    (destination : (a.perform r).session.destination = r.session.destination)
    (h : r.CallsAddressed) : (a.perform r).CallsAddressed := by
  intro path kind slot held
  have old : r.session.slot? path kind = some slot →
      ∃ call, (slot.call, call) ∈ (a.perform r).shown Effect.call?
        ∧ call.destination = (a.perform r).session.destination ∧ call.path = path := by
    intro before
    obtain ⟨call, sent, asked, about⟩ := h path kind slot before
    refine ⟨call, ?_, asked.trans destination.symm, about⟩
    rw [Act.perform_shown]
    exact List.mem_append_left _ sent
  rcases enabled.slot_old_or_sent held with before | ⟨purpose, call, rfl⟩
  · exact old before
  · obtain ⟨_, here, _, asked, about, _⟩ := enabled
    refine ⟨call, ?_, asked.trans destination.symm, about⟩
    have tracked := Session.slot?_of_tracked
      (r.sendCall_registry path kind purpose slot.completion call) here path kind
    rw [if_pos ⟨rfl, rfl⟩] at tracked
    have same := Option.some.inj (tracked.symm.trans held)
    rw [Act.perform_shown, ← congrArg Slot.call same]
    exact List.mem_append_right _ (List.mem_singleton_self _)

theorem Run.callsAddressed_followsOwner : FollowsOwner CallsAddressed where
  still _ still path kind slot held := by
    rw [still.slot] at held
    cases held
  act {q a} enabled _ state := by
    apply enabled.callsAddressed
    unfold Session.destination
    rw [state, (a.perform_sameSetup q).config]

/-! ## 3. Histories -/

/-- Traffic goes to the owner that the service has, in every session that a history leads to. Every
call that an element awaits was sent to this owner and to the path of the element. Every
subscription that an element holds was made for signals that this owner sends from the path of the
element. So of what was asked of other names, an earlier owner's or the service's, nothing is left.
-/
theorem traffic_goes_to_owner (config : Config) (numbering : Numbering) (listing : Listing)
    (ops : List Operation) (owner : String)
    (present : ((Run.start config numbering listing).performAll ops).session.state =
      .present owner) :
    let r := (Run.start config numbering listing).performAll ops
    ∀ path e, r.session.element? path = some e →
      (∀ kind slot, Table.get? e.pending kind = some slot →
        (∃ call, (slot.call, call) ∈ r.shown Effect.call?)
        ∧ ∀ call, (slot.call, call) ∈ r.shown Effect.call? →
          call.destination = owner ∧ call.path = path)
      ∧ ∀ member id, Table.get? e.subscriptions member = some id →
        (∃ rule, (id, rule) ∈ r.shown Effect.subscribed?)
        ∧ ∀ rule, (id, rule) ∈ r.shown Effect.subscribed? →
          rule.sender = owner ∧ rule.path = path := by
  intro r path e here
  have books : r.Books _ := Run.performAll_books config numbering listing ops
  have calls : r.CallsAddressed :=
    Run.callsAddressed_followsOwner.performAll config numbering listing ops
  have subscriptions : r.Addressed := Run.performAll_addressed config numbering listing ops
  have destination : r.session.destination = owner := by
    unfold Session.destination
    rw [show r.session.state = .present owner from present]
    rfl
  constructor
  · intro kind slot awaited
    obtain ⟨call, sent, asked, about⟩ :=
      calls path kind slot ((Session.look_of_element? here).trans awaited)
    refine ⟨⟨call, sent⟩, fun other also => ?_⟩
    rw [Run.shown_unique books.calls.opened_once Effect.placed?_of_call also sent]
    exact ⟨asked.trans destination, about⟩
  · intro member id held
    obtain ⟨route, found, target⟩ := (books.routed.signals.element id path).mpr
      ⟨member, (Session.look_of_element? here).trans held⟩
    obtain ⟨rule, made⟩ := subscriptions id route path found target
    refine ⟨⟨rule, made.shown⟩, fun other also => ?_⟩
    rw [Run.shown_unique books.subscriptions.opened_once Effect.opened?_of_subscribed also
      made.shown]
    exact ⟨made.sender.trans destination, made.about⟩

/-- The owner was replaced while the root was fetched. The fetch that is under way now went to the
new one. -/
theorem replaced_owner_is_not_asked :
    let config : Config :=
      { service := "net.connman", rootPath := "/", rootInterface := "net.connman.Manager",
        protocol := .legacy }
    let ops : List Operation :=
      [.init, .dispatch (.ownerChanged ⟨1⟩ "net.connman" "" ":1.5"),
        .dispatch (.ownerChanged ⟨1⟩ "net.connman" ":1.5" ":1.7")]
    let r := (Run.start config .counting .ascending).performAll ops
    r.session.state = .present ":1.7"
    ∧ ∃ e slot, r.session.element? "/" = some e
        ∧ Table.get? e.pending .propertiesGet = some slot
        ∧ (∃ call, (slot.call, call) ∈ r.shown Effect.call?)
        ∧ ∀ call, (slot.call, call) ∈ r.shown Effect.call? →
          call.destination = ":1.7" ∧ call.path = "/" := by
  intro config ops r
  have evaluated : (r.session.state, r.session.slot? "/" .propertiesGet) =
      (.present ":1.7", some ⟨⟨6⟩, none⟩) := by subst config ops r; rfl
  obtain ⟨present, held⟩ := Prod.mk.inj evaluated
  obtain ⟨e, here, awaited⟩ := Session.slot?_eq_some.mp held
  obtain ⟨calls, _⟩ :=
    traffic_goes_to_owner config .counting .ascending ops ":1.7" present "/" e here
  exact ⟨present, e, _, here, awaited, calls _ _ awaited⟩

end BusCache
