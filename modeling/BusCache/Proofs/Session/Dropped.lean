import BusCache.Proofs.Session.WriteLog
import BusCache.Proofs.Undecodable

/-!
# Dropped input — what cannot be read changes nothing

A message is read as a whole before anything is done about it. So a signal that cannot be read does
nothing at all, however much of it is fine, and a reply that cannot be read is no more than the end
of its call: the call is not under way any longer, and whoever waits for it is told what went wrong.
-/

namespace BusCache

namespace Run

variable {r : Run}

/-! ## 1. Signals -/

theorem handleSignal_of_malformed {id : SubscriptionId} {route : SignalRoute}
    {args : List WireValue} (routed : Table.get? r.session.signalRoutes id = some route)
    (malformed : route.Malformed args) (member : String) : r.handleSignal id member args = r := by
  unfold handleSignal
  rw [routed]
  cases route with
  | nameOwner => rfl
  | propertyChanged path =>
    dsimp only
    split
    · rename_i read
      cases propertyChangeOf_of_malformed malformed _ read
    · rfl
  | propertiesChanged path =>
    dsimp only
    split
    · rename_i read
      cases propertyChangesOf_of_malformed malformed _ read
    · rfl
  | lifecycle action =>
    dsimp only
    split
    · rename_i target _ read
      exact absurd rfl (malformed.decodeAll _ read (.objectPath target) rfl)
    · rfl
  | forward path =>
    obtain ⟨e, fails⟩ := (WireValue.decodeAll_fails_iff_undecodable args).mpr malformed
    dsimp only
    rw [fails]
    exact ite_self r

/-! ## 2. Replies -/

/-- A reply that cannot be read ends its call. -/
theorem handleReply_of_unreadable {call : CallId} {path : Path} {kind : CallKind}
    {purpose : CallPurpose} {completion : Option Completion}
    (routed : Table.get? r.session.callRoutes call = some (.element path kind purpose))
    (held : r.session.slot? path kind = some ⟨call, completion⟩)
    {result : Except BusError (List WireValue)} {error : BusError}
    (fails : purpose.outcome result = .error error) :
    r.handleReply call result =
      ((Act.answer call path kind).perform r).complete completion (.error error) := by
  rw [handleReply_call routed held, fails]
  cases purpose with
  | call => rfl
  | sync =>
    rw [CallPurpose.outcome_sync] at fails
    cases read : fetchedOf result with
    | error e => rfl
    | ok both =>
      rw [read] at fails
      cases fails

/-- An answer that names no owner settles the question, and no more. -/
theorem handleReply_query_of_unreadable {call : CallId}
    (routed : Table.get? r.session.callRoutes call = some .nameOwner)
    (asked : r.session.ownership.query = some call) {result : Except BusError (List WireValue)}
    (unreadable : CallRoute.nameOwner.Unreadable result) :
    r.handleReply call result = (Act.answerQuery call).perform r := by
  rw [handleReply_query routed asked]
  cases result with
  | error e => rfl
  | ok body =>
    split
    · rename_i owner _ read
      exact absurd rfl (unreadable.decodeAll _ read (.string owner) rfl)
    · rfl

end Run

/-! ## 3. Histories -/

/-- In every session that a history leads to, input that cannot be read is dropped whole. A signal
leaves the session as it is and has no effect. A reply takes its call out of the routes and out of
the slot of its kind, or ends the question who owns the service's name; it has no other effect than
that the completion of its call, if there is one, is told an error: the one that the reply is, or
why it cannot be read. A reply to no call that is under way does nothing. -/
theorem unreadable_input_is_dropped (config : Config) (numbering : Numbering) (listing : Listing)
    (ops : List Operation) :
    let r := (Run.start config numbering listing).performAll ops
    (∀ id sender member args route, Table.get? r.session.signalRoutes id = some route →
      route.Malformed args →
      (Operation.dispatch (.signal id sender member args)).perform r = (.ok .done, r))
    ∧ (∀ call path kind purpose result,
        Table.get? r.session.callRoutes call = some (.element path kind purpose) →
        purpose.Unreadable result →
        ∃ completion error, r.session.slot? path kind = some ⟨call, completion⟩
          ∧ purpose.outcome result = .error error
          ∧ (∀ reported, result = .error reported → error = reported)
          ∧ (Operation.dispatch (.reply call result)).perform r = (.ok .done,
              (r.update fun s => { s with
                callRoutes := Table.erase s.callRoutes call
                registry := Table.modify s.registry path fun e => e.freeSlot kind }).complete
                  completion (.error error)))
    ∧ (∀ call result, Table.get? r.session.callRoutes call = some .nameOwner →
        CallRoute.nameOwner.Unreadable result →
        (Operation.dispatch (.reply call result)).perform r = (.ok .done,
          r.update fun s => { s with
            callRoutes := Table.erase s.callRoutes call
            ownership := { s.ownership with query := none } }))
    ∧ ∀ call result, Table.get? r.session.callRoutes call = none →
        (Operation.dispatch (.reply call result)).perform r = (.ok .done, r) := by
  intro r
  have routed := (Run.performAll_sound (Run.start_sound config numbering listing) ops).routed
  refine ⟨?_, ?_, ?_, ?_⟩
  · intro id sender member args route found malformed
    rw [Operation.perform_dispatch]
    exact congrArg _ (Run.handleSignal_of_malformed found malformed member)
  · intro call path kind purpose result found unreadable
    obtain ⟨⟨_, completion⟩, held, rfl⟩ :=
      (routed.calls.element call path kind).mp ⟨purpose, found⟩
    obtain ⟨error, fails⟩ := (purpose.outcome_fails_iff result).mpr unreadable
    refine ⟨completion, error, held, fails, ?_, ?_⟩
    · rintro reported rfl
      cases purpose <;> exact (Except.error.inj fails).symm
    · rw [Operation.perform_dispatch]
      exact congrArg _ (Run.handleReply_of_unreadable found held fails)
  · intro call result found unreadable
    rw [Operation.perform_dispatch]
    exact congrArg _ (Run.handleReply_query_of_unreadable found
      ((routed.calls.owner call).mp found) unreadable)
  · intro call result unrouted
    rw [Operation.perform_dispatch]
    exact congrArg _ (Run.handleReply_of_none unrouted result)

/-- A fetch of a technology is answered with a property that could be taken over and, after it, with
a list of file handles. All that comes of it is that the completion is told the error. A change to
such a list does nothing. -/
theorem half_readable_answer_is_dropped :
    let config : Config :=
      { service := "net.connman", rootPath := "/", rootInterface := "net.connman.Manager",
        protocol := .legacy }
    let ops : List Operation :=
      [.init, .dispatch (.ownerChanged ⟨1⟩ "net.connman" "" ":1.5"),
        .create "/wifi" "net.connman.Technology", .sync "/wifi" (some ⟨7⟩)]
    let properties : WireValue :=
      .dict (.basic .string) .variant [(.string "Powered", .variant (.scalar (.bool true)))]
    let files : WireValue := .array .handle [.handle 0]
    let r := (Run.start config .counting .ascending).performAll ops
    let replied := ((Operation.dispatch (.reply ⟨6⟩ (.ok [properties, files]))).perform r).2
    let changed := ((Operation.dispatch
      (.signal ⟨5⟩ "/wifi" "PropertyChanged" [.string "Files", files])).perform r).2
    changed = r
    ∧ replied.session.value? "/wifi" "Powered" = none
    ∧ replied.session.slot? "/wifi" .propertiesGet = none
    ∧ replied.trace = r.trace
      ++ [⟨.complete ⟨7⟩ (.error (.typeMismatch "representable value" "h")), replied.session⟩] := by
  intro config ops properties files
  have evaluated : let r := (Run.start config .counting .ascending).performAll ops
      (Table.get? r.session.signalRoutes ⟨5⟩, Table.get? r.session.callRoutes ⟨6⟩,
        r.session.slot? "/wifi" .propertiesGet, r.session.value? "/wifi" "Powered") =
          (some (.propertyChanged "/wifi"), some (.element "/wifi" .propertiesGet .sync),
            some ⟨⟨6⟩, some ⟨7⟩⟩, none) := by subst config ops; rfl
  have reason : CallPurpose.sync.outcome (.ok [properties, files]) =
      .error (.typeMismatch "representable value" "h") := by subst properties files; rfl
  have handles : files.Undecodable := .item (List.mem_singleton_self _) (.handle 0)
  obtain ⟨signals, replies, _⟩ := unreadable_input_is_dropped config .counting .ascending ops
  dsimp only at evaluated signals replies ⊢
  generalize (Run.start config .counting .ascending).performAll ops = r at *
  obtain ⟨heard, asked, waiting, unknown⟩ : _ ∧ _ ∧ _ ∧ _ := by
    simpa only [Prod.mk.injEq] using evaluated
  have dropped := signals ⟨5⟩ "/wifi" "PropertyChanged" [.string "Files", files] _ heard
    (.inr (.inl handles))
  obtain ⟨completion, error, held, told, _, ended⟩ := replies ⟨6⟩ "/wifi" .propertiesGet .sync
    (.ok [properties, files]) asked (.inr ⟨files, by simp, handles⟩)
  rw [waiting] at held
  rw [reason] at told
  cases held
  cases told
  rw [dropped, ended]
  have registry := Act.answer_registry ⟨6⟩ "/wifi" .propertiesGet r
  refine ⟨rfl, ?_, ?_, rfl⟩
  · rw [← unknown]
    exact congrArg (Option.map Property.value)
      (Session.look_of_modified_kept registry (fun _ => rfl) "/wifi")
  · exact (Session.slot?_of_freed registry "/wifi" .propertiesGet).trans (if_pos ⟨rfl, rfl⟩)

end BusCache
