import BusCache.Proofs.Arguments
import BusCache.Proofs.Session.Admission
import BusCache.Proofs.Session.WriteBack

/-!
# Sending — what a session hands over can be sent

A session gives values to the transport, which encodes them when it sends the call. A write is
checked before, on the value alone, and this check says exactly what the transport would say of the
call. So no write that was accepted fails to be sent, nor does any fetch, and what arrives is what
was given.
-/

namespace BusCache

/-! ## 1. Messages about properties -/

namespace PropertyProtocol

/-- The arguments of a call about properties: the freedesktop protocol has the interface of the
element before what else there is. -/
def addressed (p : PropertyProtocol) (interface : String) (values : List Value) : List Value :=
  match p with
  | legacy => values
  | freedesktop => .string interface :: values

variable {p : PropertyProtocol} {destination interface name : String} {path : Path} {value : Value}
  {kind : Kind}

theorem string_sent (s : String) :
    ¬ Fails ((Argument.string s).value.encode (Argument.string s).kind) :=
  Fails.not_iff.2 ⟨.string s, rfl⟩

theorem fetch_arrives :
    (p.fetch destination path interface).Arrives (p.addressed interface []) := by
  cases p with
  | legacy => exact MethodCall.arrives (by simp [fetch])
  | freedesktop => exact MethodCall.arrives (by simpa [fetch] using string_sent interface)

theorem write_arrives (sent : ¬ Fails (value.encode kind)) :
    (p.write destination path interface name value kind).Arrives
      (p.addressed interface [.string name, value.canonical]) := by
  cases p with
  | legacy =>
    refine MethodCall.arrives ?_
    simpa [write] using ⟨string_sent name, sent⟩
  | freedesktop =>
    refine MethodCall.arrives ?_
    simpa [write] using ⟨string_sent interface, string_sent name, sent⟩

theorem write_send_error {error : BusError} (failed : value.encode kind = .error error) :
    (p.write destination path interface name value kind).send = .error error := by
  have body : Argument.encodeBody (p.write destination path interface name value kind).args
      = .error error := by
    cases p with
    | legacy =>
      show Argument.encodeBody ([.string name] ++ [.variant value kind]) = _
      exact Argument.encodeBody_error (by simpa using string_sent name) failed
    | freedesktop =>
      show Argument.encodeBody ([.string interface, .string name] ++ [.variant value kind]) = _
      exact Argument.encodeBody_error (by simpa using ⟨string_sent interface, string_sent name⟩)
        failed
  rw [MethodCall.send, body]
  rfl

/-- The transport refuses a write just as the value is refused, and for the same reason. -/
theorem write_send_error_iff (error : BusError) :
    (p.write destination path interface name value kind).send = .error error
      ↔ value.encode kind = .error error := by
  cases encoded : value.encode kind with
  | ok w =>
    have arrives : (p.write destination path interface name value kind).Arrives _ :=
      write_arrives (Fails.not_iff.2 ⟨w, encoded⟩)
    obtain ⟨sent, ok, _⟩ := arrives
    rw [ok]
    simp
  | error e =>
    rw [write_send_error encoded]
    simp

theorem fetch_addressed : (p.fetch destination path interface).path = path
    ∧ (p.fetch destination path interface).destination = destination := by
  cases p <;> exact ⟨rfl, rfl⟩

theorem write_addressed : (p.write destination path interface name value kind).path = path
    ∧ (p.write destination path interface name value kind).destination = destination := by
  cases p <;> exact ⟨rfl, rfl⟩

end PropertyProtocol

/-! ## 2. What an operation asks for -/

/-- From a run to a later one, one call was sent to an element and no other call. Its arguments
arrive as some values, with the interface of the element before them if the protocol has it there.
-/
def Run.Requests (r r' : Run) (path : Path) (values : List Value) : Prop :=
  ∃ e id call, r.session.element? path = some e
    ∧ r'.shown Effect.call? = r.shown Effect.call? ++ [(id, call)]
    ∧ call.path = path ∧ call.destination = r.session.destination
    ∧ call.Arrives (r.session.config.protocol.addressed e.interface values)

/-- The kind that a write of a property is sent under: the one that is given with it, or else the
one that the property was last received with. -/
inductive Session.WritesAs (s : Session) : Operation → Path → String → Value → Kind → Prop
  | given (path : Path) (name : String) (value : Value) (kind : Kind)
      (completion : Option Completion) :
      WritesAs s (.setPropertyAs path name value kind completion) path name value kind
  | known {path : Path} {e : Element} {name : String} {kind : Kind} (value : Value)
      (completion : Option Completion) (here : s.element? path = some e)
      (signed : e.signature name = .ok kind) :
      WritesAs s (.setProperty path name value completion) path name value kind

namespace Run

variable {r : Run} {path : Path} {e : Element}

/-- A call is sent for an element, and no call was sent before it. -/
theorem requests_of_sent {r₁ : Run} {kind : CallKind} {purpose : CallPurpose} {call : MethodCall}
    {values : List Value} (completion : Option Completion)
    (here : r.session.element? path = some e)
    (before : r₁.shown Effect.call? = r.shown Effect.call?)
    (addressed : call.path = path ∧ call.destination = r.session.destination)
    (arrives : call.Arrives (r.session.config.protocol.addressed e.interface values)) :
    r.Requests (r₁.sendCall path kind purpose completion call) path values := by
  have sent := Act.perform_shown Effect.call? (.send path kind purpose completion call) r₁
  rw [before] at sent
  exact ⟨e, r₁.nextCall, call, here, sent, addressed.1, addressed.2, arrives⟩

end Run

namespace Operation

variable {r : Run} {op : Operation} {path : Path} {answer : Answer}

theorem write_requests {name : String} {value : Value}
    (writes : (∃ completion, op = .setProperty path name value completion)
      ∨ ∃ kind completion, op = .setPropertyAs path name value kind completion)
    (accepted : (op.perform r).1 = .ok answer) :
    r.Requests (op.perform r).2 path [.string name, value.canonical] := by
  rcases writes with ⟨completion, rfl⟩ | ⟨kind, completion, rfl⟩
  · obtain ⟨e, p, w, here, _, encoded, sent⟩ := setProperty_accepted accepted
    rw [sent]
    exact Run.requests_of_sent completion here rfl PropertyProtocol.write_addressed
      (PropertyProtocol.write_arrives (Fails.not_iff.2 ⟨w, encoded⟩))
  · obtain ⟨e, w, here, encoded, sent⟩ := Attempt.setPropertyAs_ok (silent_ok accepted)
    have performed : ((setPropertyAs path name value kind completion).perform r).2 = _ :=
      congrArg Prod.snd (silent_apply _ r)
    rw [performed, sent]
    exact Run.requests_of_sent completion here rfl PropertyProtocol.write_addressed
      (PropertyProtocol.write_arrives (Fails.not_iff.2 ⟨w, encoded⟩))

/-- A write that could not be sent is refused when it is asked for. -/
theorem write_refused {name : String} {value : Value} {kind : Kind} {error : BusError}
    (writes : r.session.WritesAs op path name value kind)
    (failed : value.encode kind = .error error) : op.perform r = (.error error, r) := by
  have refused : ∀ completion,
      Attempt.setPropertyAs path name value kind completion r = (.error error, r) := by
    intro completion
    unfold Attempt.setPropertyAs
    rw [Attempt.check_bind_apply, failed]
  cases writes with
  | given _ _ _ _ completion =>
    show silent (Attempt.setPropertyAs path name value kind completion) r = _
    rw [silent_apply, refused]
    rfl
  | known _ completion here signed =>
    show silent (Attempt.setProperty path name value completion) r = _
    rw [silent_apply, Attempt.setProperty_signed here signed, refused]
    rfl

theorem sync_requests {completion : Option Completion} {u : Unit}
    (ok : (Attempt.sync path completion r).1 = .ok u) :
    r.Requests (Attempt.sync path completion r).2 path [] := by
  rcases Attempt.sync_cases path completion r with ⟨error, refused⟩ | ⟨e, present, here, free⟩
  · rw [refused] at ok
    cases ok
  · -- before the call there is at most a subscription
    have subscribes := (Attempt.subscribeChanges_steps path r).mono Act.Subscribes.prepares
    rw [Attempt.sync_eq present here free]
    exact Run.requests_of_sent completion here subscribes.prepares_calls
      PropertyProtocol.fetch_addressed PropertyProtocol.fetch_arrives

theorem fetch_requests (fetches : (∃ completion, op = .sync path completion)
      ∨ op = .syncRoot ∧ path = r.session.config.rootPath)
    (accepted : (op.perform r).1 = .ok answer) :
    r.Requests (op.perform r).2 path [] := by
  rcases fetches with ⟨completion, rfl⟩ | ⟨rfl, rfl⟩
  · have performed : ((sync path completion).perform r).2 = _ :=
      congrArg Prod.snd (silent_apply _ r)
    rw [performed]
    exact sync_requests (silent_ok accepted)
  · have ok : (Attempt.syncRoot r).1 = .ok () := silent_ok accepted
    have performed : (syncRoot.perform r).2 = (Attempt.syncRoot r).2 :=
      congrArg Prod.snd (silent_apply _ r)
    rw [performed]
    unfold Attempt.syncRoot at ok ⊢
    obtain ⟨_, -, present⟩ := Attempt.check_bind_ok ok
    rw [present] at ok ⊢
    obtain ⟨config, same, found⟩ := Attempt.check_bind_ok ok
    cases same
    rw [found] at ok ⊢
    exact sync_requests ok

end Operation

/-! ## 3. What arrives -/

/-- What a session hands over can be sent, and arrives as it was given. A body is made exactly if
every argument can be encoded; it is none exactly if there are no arguments, and else it has one
field for each, in order, that is decoded to the value. In every session that a history leads to, a
write of a property that is accepted sends one call, whose arguments arrive as the name and the
value. A fetch that is accepted sends one call without such arguments, and what the session asks for
on its own is a fetch. In the freedesktop protocol, the interface of the element comes before these.
What the transport would say against the call of a write, the session says at once, when the write
is asked for. -/
theorem requests_arrive_as_given (config : Config) (numbering : Numbering) (listing : Listing)
    (ops : List Operation) :
    let r := (Run.start config numbering listing).performAll ops
    (∀ args : List Argument,
      ((∃ body, Argument.encodeBody args = .ok body) ↔
        ∀ a ∈ args, ∃ w, a.value.encode a.kind = .ok w)
      ∧ (Argument.encodeBody args = .ok none ↔ args = [])
      ∧ ∀ fields, Argument.encodeBody args = .ok (some fields) →
        List.Forall₂ (fun a w => a.encode = .ok w ∧ w.decode = .ok a.value.canonical) args fields)
    ∧ (∀ (op : Operation) (path : Path) (name : String) (value : Value) (answer : Answer),
      ((∃ completion, op = .setProperty path name value completion)
        ∨ ∃ kind completion, op = .setPropertyAs path name value kind completion) →
      (op.perform r).1 = .ok answer →
      r.Requests (op.perform r).2 path [.string name, value.canonical])
    ∧ (∀ (op : Operation) (path : Path) (answer : Answer),
      ((∃ completion, op = .sync path completion) ∨ op = .syncRoot ∧ path = config.rootPath) →
      (op.perform r).1 = .ok answer → r.Requests (op.perform r).2 path [])
    ∧ (∀ (op : Operation) (path : Path), op.asks = false →
      (op.perform r).2.callsTo path = r.callsTo path
      ∨ ∃ interface call, (op.perform r).2.callsTo path = r.callsTo path ++ [call]
        ∧ call.Arrives (config.protocol.addressed interface []))
    ∧ (∀ op path name value kind, r.session.WritesAs op path name value kind →
      ∀ destination interface error,
        ((config.protocol.write destination path interface name value kind).send = .error error
          ↔ value.encode kind = .error error)
        ∧ (value.encode kind = .error error → op.perform r = (.error error, r)))
    ∧ ∀ value : Value, value.isCanonical = true → value.canonical = value := by
  intro r
  have setup : r.session.config = config :=
    Run.performAll_config config numbering listing ops
  refine ⟨fun args => ⟨?bodies, Argument.encodeBody_eq_none_iff args, ?fields⟩, ?writes, ?fetches,
    ?unasked, ?refusals, Value.canonical_of_isCanonical⟩
  case bodies =>
    simp only [← Fails.not_iff]
    rw [Argument.encodeBody_fails_iff]
    simp
  case fields =>
    intro fields encoded
    refine (Argument.encodeBody_each args _ encoded).imp fun a w sent => ?_
    exact ⟨sent, (a.encode_yields w sent).1⟩
  case writes => exact fun op path name value answer => Operation.write_requests
  case fetches =>
    rw [← setup]
    exact fun op path answer => Operation.fetch_requests
  case unasked =>
    intro op path unasked
    have sound := Run.performAll_sound (Run.start_sound config numbering listing) ops
    have silent := (Run.performAll_heard config numbering listing ops).1
    refine (Operation.unasked_calls sound silent unasked path).imp_right fun fetches => ?_
    obtain ⟨interface, sent⟩ := fetches.call
    have kept : (op.perform r).2.session.config = config := by
      rw [← Run.performAll_concat]
      exact Run.performAll_config config numbering listing (ops ++ [op])
    refine ⟨interface, _, sent, ?_⟩
    unfold Session.fetch
    rw [kept]
    exact PropertyProtocol.fetch_arrives
  case refusals =>
    intro op path name value kind writes destination interface error
    exact ⟨PropertyProtocol.write_send_error_iff error, Operation.write_refused writes⟩

/-- Once the first fetch of the root has failed, a write is accepted, and so is another fetch. What
does not fit the given kind is refused. -/
theorem wireless_write_and_fetch_arrive :
    let config : Config :=
      { service := "org.freedesktop.NetworkManager", rootPath := "/org/freedesktop/NetworkManager",
        rootInterface := "org.freedesktop.NetworkManager", protocol := .freedesktop }
    let ops : List Operation :=
      [.init, .dispatch (.ownerChanged ⟨1⟩ "org.freedesktop.NetworkManager" "" ":1.7"),
        .dispatch (.reply ⟨4⟩ (.error (.bus "no answer")))]
    let write (value : Value) : Operation :=
      .setPropertyAs config.rootPath "WirelessEnabled" value (.basic .bool) none
    ∃ r, r = (Run.start config .counting .ascending).performAll ops
      ∧ ((write (.scalar (.bool true))).perform r).1 = .ok .done
      ∧ r.Requests ((write (.scalar (.bool true))).perform r).2 config.rootPath
        [.string "WirelessEnabled", .scalar (.bool true)]
      ∧ (Operation.syncRoot.perform r).1 = .ok .done
      ∧ r.Requests (Operation.syncRoot.perform r).2 config.rootPath []
      ∧ (write (.string "true")).perform r = (.error (.signatureMismatch "b" "s"), r) := by
  intro config ops write
  have evaluated : (((Run.start config .counting .ascending).performAll ops).session.state,
      ((Run.start config .counting .ascending).performAll ops).session.isRegistered config.rootPath,
      ((Run.start config .counting .ascending).performAll ops).session.slot? config.rootPath
        .propertySet,
      ((Run.start config .counting .ascending).performAll ops).session.slot? config.rootPath
        .propertiesGet) = (.present ":1.7", true, none, none) := by subst config ops; rfl
  have setup := Run.performAll_config config .counting .ascending ops
  have sound := Run.performAll_sound (Run.start_sound config .counting .ascending) ops
  obtain ⟨_, writes, fetches, _, refusals, _⟩ :=
    requests_arrive_as_given config .counting .ascending ops
  refine ⟨_, rfl, ?_⟩
  generalize (Run.start config .counting .ascending).performAll ops = r
    at evaluated setup sound writes fetches refusals ⊢
  obtain ⟨state, registered, unwritten, unfetched⟩ : _ ∧ _ ∧ _ ∧ _ := by
    simpa only [Prod.mk.injEq] using evaluated
  obtain ⟨e, here⟩ : ∃ e, r.session.element? config.rootPath = some e :=
    Option.isSome_iff_exists.mp registered
  have present : r.session.state.isPresent := by
    rw [state]
    rfl
  have written : ((write (.scalar (.bool true))).perform r).1 = .ok .done :=
    (Operation.request_accepted sound rfl rfl present here unwritten).1
  have fetched : (Operation.syncRoot.perform r).1 = .ok .done :=
    (Operation.request_accepted sound (by rw [setup]; rfl) rfl present here unfetched).1
  exact ⟨written, writes _ _ _ _ _ (.inr ⟨_, _, rfl⟩) written, fetched,
    fetches _ _ _ (.inr ⟨rfl, rfl⟩) fetched,
    (refusals _ _ _ _ _ (.given _ _ _ _ _) ":1.7" config.rootInterface _).2 rfl⟩

end BusCache
