import BusCache.Proofs.Encoding
import BusCache.Proofs.Session.Decomposition
import BusCache.Proofs.Session.History

/-!
# Refusals — operations check before they act

Whether an operation is refused depends on the session before it alone. All checks come before the
first act, but for a fetch: it subscribes, and then its call makes checks of its own. By then the
fetch has made the same checks, and subscribing does not change what they find.
-/

namespace BusCache

/-! ## 1. The checks -/

namespace Session

/-- Whether a call of a kind is admitted on the element at a path. -/
def admitCall (s : Session) (path : Path) (kind : CallKind) : Except BusError Unit := do
  s.ensurePresent
  let e ← s.element path
  ensureAdmissible path e kind

/-- Whether a fetch is admitted, which looks for the owner last. -/
def admitFetch (s : Session) (path : Path) : Except BusError Unit := do
  let e ← s.element path
  ensureAdmissible path e .propertiesGet
  s.ensurePresent

/-- Whether the element at a path can be subscribed to. -/
def admitSubscription (s : Session) (path : Path) : Except BusError Unit := do
  s.ensurePresent
  let _ ← s.element path
  return ()

end Session

namespace Operation

/-- The checks of what an operation is given, which come before those of its call. -/
def checkArguments (s : Session) : Operation → Except BusError Unit
  | setProperty path name value _ => do
      let e ← s.element path
      let kind ← e.signature name
      let _ ← value.encode kind
      return ()
  | setPropertyAs _ _ value kind _ => do
      let _ ← value.encode kind
      return ()
  | _ => .ok ()

/-- All checks of an operation, in their order. -/
def check (s : Session) (op : Operation) : Except BusError Unit :=
  match op with
  | setProperty path _ _ _ => do
      op.checkArguments s
      s.admitCall path .propertySet
  | setPropertyAs path _ _ _ _ => do
      op.checkArguments s
      s.admitCall path .propertySet
  | call path kind _ _ _ => s.admitCall path kind
  | callOn path _ kind _ _ _ => s.admitCall path kind
  | sync path _ => s.admitFetch path
  | syncRoot => do
      s.ensurePresent
      s.admitFetch s.config.rootPath
  | subscribeSignal path _ _ => s.admitSubscription path
  | change path _ _ => do
      let _ ← s.element path
      return ()
  | _ => .ok ()

end Operation

/-- The service or the element is not there, or the element is busy. -/
def BusError.Unavailable : BusError → Prop
  | staleReference _ => True
  | alreadyPending _ _ => True
  | _ => False

/-- The errors of a check that fails. -/
def BusError.IsRefusal : BusError → Prop
  | staleReference _ => True
  | notFound _ => True
  | alreadyPending _ _ => True
  | signatureMismatch _ _ => True
  | unsupportedSignature _ => True
  | typeMismatch _ _ => True
  | _ => False

/-! ## 2. What a check fails with -/

theorem BusError.Unsendable.isRefusal (e : BusError) (h : e.Unsendable) : e.IsRefusal := by
  cases e <;> first | exact h.elim | trivial

theorem BusError.Unavailable.isRefusal (e : BusError) (h : e.Unavailable) : e.IsRefusal := by
  cases e <;> first | exact h.elim | trivial

theorem Value.encode_refused (v : Value) (kind : Kind) :
    OnlyFails BusError.IsRefusal (v.encode kind) := by
  intro error failed
  rcases encode_error failed with ⟨_, rfl⟩ | ⟨_, unsendable⟩
  · trivial
  · exact unsendable.isRefusal

namespace Session

variable (s : Session) (path : Path)

theorem ensurePresent_fails : OnlyFails BusError.Unavailable s.ensurePresent := by
  unfold ensurePresent
  split
  · exact .ok ()
  · exact .error trivial

theorem element_fails : OnlyFails BusError.Unavailable (s.element path) := by
  unfold element
  split
  · exact .ok _
  · exact .error trivial

theorem ensureAdmissible_fails (e : Element) (kind : CallKind) :
    OnlyFails BusError.Unavailable (ensureAdmissible path e kind) := by
  unfold ensureAdmissible
  split
  · exact .error trivial
  · exact .ok ()

theorem admitCall_fails (kind : CallKind) :
    OnlyFails BusError.Unavailable (s.admitCall path kind) :=
  s.ensurePresent_fails.bind fun _ _ =>
    (s.element_fails path).bind fun e _ => ensureAdmissible_fails path e kind

theorem admitFetch_fails : OnlyFails BusError.Unavailable (s.admitFetch path) :=
  (s.element_fails path).bind fun e _ =>
    (ensureAdmissible_fails path e .propertiesGet).bind fun _ _ => s.ensurePresent_fails

theorem admitSubscription_fails : OnlyFails BusError.Unavailable (s.admitSubscription path) :=
  s.ensurePresent_fails.bind fun _ _ => (s.element_fails path).bind fun _ _ => .ok ()

end Session

theorem Element.signature_refused (e : Element) (name : String) :
    OnlyFails BusError.IsRefusal (e.signature name) := by
  unfold signature
  split
  · exact .ok _
  · exact .error trivial

namespace Operation

theorem checkArguments_refused (s : Session) (op : Operation) :
    OnlyFails BusError.IsRefusal (op.checkArguments s) := by
  cases op with
  | setProperty path name value completion =>
    exact ((s.element_fails path).mono BusError.Unavailable.isRefusal).bind fun e _ =>
      (e.signature_refused name).bind fun kind _ =>
        (value.encode_refused kind).bind fun _ _ => .ok ()
  | setPropertyAs path name value kind completion =>
    exact (value.encode_refused kind).bind fun _ _ => .ok ()
  | _ => exact .ok ()

theorem check_refused (s : Session) (op : Operation) :
    OnlyFails BusError.IsRefusal (op.check s) := by
  have refused : ∀ {checks : Except BusError Unit}, OnlyFails BusError.Unavailable checks →
      OnlyFails BusError.IsRefusal checks := fun fails => fails.mono BusError.Unavailable.isRefusal
  cases op with
  | setProperty path name value completion =>
    exact (checkArguments_refused s _).bind fun _ _ => refused (s.admitCall_fails path _)
  | setPropertyAs path name value kind completion =>
    exact (checkArguments_refused s _).bind fun _ _ => refused (s.admitCall_fails path _)
  | call path kind method args completion => exact refused (s.admitCall_fails path kind)
  | callOn path interface kind method args completion => exact refused (s.admitCall_fails path kind)
  | sync path completion => exact refused (s.admitFetch_fails path)
  | syncRoot =>
    exact refused (s.ensurePresent_fails.bind fun _ _ => s.admitFetch_fails _)
  | subscribeSignal path interface member => exact refused (s.admitSubscription_fails path)
  | change path name value =>
    exact refused ((s.element_fails path).bind fun _ _ => .ok ())
  | _ => exact .ok ()

end Operation

/-! ## 3. Checks first -/

namespace Attempt

variable {α β : Type}

/-- An attempt fails exactly if its checks do, and then it does nothing. -/
structure ChecksFirst (a : Attempt α) (r : Run) (checks : Except BusError Unit) : Prop where
  refused : ∀ error, checks = .error error → a r = (.error error, r)
  admitted : checks = .ok () → ∃ x, (a r).1 = .ok x

section ChecksFirst

variable {r : Run}

/-- An attempt without checks. -/
theorem ChecksFirst.of_ok {a : Attempt α} (ok : ∃ x, (a r).1 = .ok x) :
    ChecksFirst a r (.ok ()) where
  refused error failed := by cases failed
  admitted _ := ok

theorem ChecksFirst.check_bind {f : Session → Except BusError β} {next : β → Attempt Unit}
    {rest : β → Except BusError Unit}
    (h : ∀ x, f r.session = .ok x → ChecksFirst (next x) r (rest x)) :
    ChecksFirst (check f >>= next) r (f r.session >>= rest) := by
  cases hf : f r.session with
  | error e =>
    have stopped : (check f >>= next) r = (.error e, r) := by rw [check_bind_apply, hf]
    constructor
    · intro error failed
      cases failed
      exact stopped
    · intro passed
      cases passed
  | ok x =>
    have goes : (check f >>= next) r = next x r := by rw [check_bind_apply, hf]
    obtain ⟨refused, admitted⟩ := h x hf
    exact ⟨fun error failed => goes.trans (refused error failed),
      fun passed => goes ▸ admitted passed⟩

/-- The last check before an attempt acts. -/
theorem ChecksFirst.check_perform (f : Session → Except BusError Unit) (g : Run → Run) :
    ChecksFirst (check f >>= fun _ => perform g) r (f r.session) := by
  have checks : ChecksFirst (check f >>= fun _ => perform g) r (f r.session >>= fun _ => .ok ()) :=
    .check_bind fun _ _ => .of_ok ⟨(), rfl⟩
  cases hf : f r.session with
  | error e => rwa [hf] at checks
  | ok _ => rwa [hf] at checks

theorem ChecksFirst.silent {a : Attempt Unit} {checks : Except BusError Unit}
    (h : ChecksFirst a r checks) : ChecksFirst (Operation.silent a) r checks where
  refused error failed := by
    rw [Operation.silent_apply, h.refused error failed]
    rfl
  admitted passed := by
    obtain ⟨x, ok⟩ := h.admitted passed
    rw [Operation.silent_apply, ok]
    exact ⟨.done, rfl⟩

variable (path : Path) (completion : Option Completion)

theorem startCall_checks (kind : CallKind) (purpose : CallPurpose)
    (build : Element → String → MethodCall) :
    ChecksFirst (startCall path kind purpose completion build) r (r.session.admitCall path kind) :=
  .check_bind fun _ _ => .check_bind fun _ _ => .check_perform _ _

theorem setPropertyAs_checks (name : String) (value : Value) (kind : Kind) :
    ChecksFirst (setPropertyAs path name value kind completion) r
      (value.encode kind >>= fun _ => r.session.admitCall path .propertySet) :=
  .check_bind fun _ _ => .check_bind (f := fun s => .ok s.config) fun _ _ =>
    startCall_checks path completion _ _ _

theorem setProperty_checks (name : String) (value : Value) :
    ChecksFirst (setProperty path name value completion) r
      (r.session.element path >>= fun e => e.signature name >>= fun kind =>
        value.encode kind >>= fun _ => r.session.admitCall path .propertySet) :=
  .check_bind fun _ _ => .check_bind fun kind _ =>
    setPropertyAs_checks path completion name value kind

theorem openUnlessHeld_checks (rule : Session → Element → SignalRule) (route : SignalRoute) :
    ChecksFirst (openUnlessHeld path rule route) r (r.session.admitSubscription path) :=
  .check_bind fun _ _ => .check_bind fun _ _ => .of_ok ⟨(), rfl⟩

theorem change_checks (name : String) (value : Value) (given : Option Kind) :
    ChecksFirst (change path name value given) r (r.session.element path >>= fun _ => .ok ()) :=
  .check_bind fun _ _ => .of_ok ⟨(), rfl⟩

theorem sync_checks :
    ChecksFirst (sync path completion) r (r.session.admitFetch path) := by
  refine .check_bind fun e known => .check_bind fun _ admitted => ?_
  have here := Session.element_ok known
  have free : r.session.slot? path .propertiesGet = none := by
    unfold Session.slot?
    rw [Session.look_of_element? here]
    exact Session.ensureAdmissible_ok admitted
  constructor
  · -- without an owner the fetch cannot subscribe, and that is the end of it
    intro error absent
    have unsubscribed : r.session.admitSubscription path = .error error := by
      unfold Session.admitSubscription
      rw [absent]
      rfl
    rw [bind_apply, subscribeChanges_apply,
      (openUnlessHeld_checks path _ _).refused error unsubscribed]
  · -- with one, the checks of the call find after the subscription what was found before it
    intro present
    have sent : sync path completion r = _ :=
      sync_eq (Session.ensurePresent_ok present) here free
    unfold sync at sent
    rw [check_bind_apply, known] at sent
    dsimp only at sent
    rw [check_bind_apply, admitted] at sent
    exact ⟨(), congrArg Prod.fst sent⟩

theorem syncRoot_checks :
    ChecksFirst syncRoot r
      (r.session.ensurePresent >>= fun _ => r.session.admitFetch r.session.config.rootPath) := by
  refine .check_bind fun _ _ => ?_
  have fetches : ChecksFirst
      (check (fun s => .ok s.config) >>= fun config => sync config.rootPath none) r
      (Except.ok r.session.config >>= fun config => r.session.admitFetch config.rootPath) :=
    .check_bind fun config _ => sync_checks config.rootPath none
  exact fetches

end ChecksFirst

end Attempt

/-! ## 4. Operations -/

namespace Operation

/-- The element that was asked for is there in the end, whoever registered it. -/
theorem create_ok (path : Path) (interface : String) (r : Run) :
    ∃ answer, ((create path interface).perform r).1 = .ok answer := by
  obtain ⟨e, here⟩ := Option.isSome_iff_exists.mp (Run.getOrCreate_isSome r path { interface })
  refine ⟨.interface e.interface, ?_⟩
  show ((Attempt.perform _ >>= _ : Attempt Answer) r).1 = _
  rw [Attempt.bind_apply, Attempt.perform_apply]
  dsimp only
  rw [Attempt.bind_apply, Attempt.check_apply, Session.element_eq here]
  rfl

theorem perform_checks (op : Operation) (r : Run) :
    Attempt.ChecksFirst op.perform r (op.check r.session) := by
  cases op with
  | setProperty path name value completion =>
    have checks := (Attempt.setProperty_checks (r := r) path completion name value).silent
    simp only [check, checkArguments, bind_assoc, pure_bind]
    exact checks
  | setPropertyAs path name value kind completion =>
    have checks := (Attempt.setPropertyAs_checks (r := r) path completion name value kind).silent
    simp only [check, checkArguments, bind_assoc, pure_bind]
    exact checks
  | call path kind method args completion =>
    exact (Attempt.startCall_checks path completion kind _ _).silent
  | callOn path interface kind method args completion =>
    exact (Attempt.startCall_checks path completion kind _ _).silent
  | sync path completion => exact (Attempt.sync_checks path completion).silent
  | syncRoot => exact Attempt.syncRoot_checks.silent
  | subscribeSignal path interface member =>
    exact (Attempt.openUnlessHeld_checks path _ _).silent
  | change path name value => exact (Attempt.change_checks path name value none).silent
  | create path interface => exact .of_ok (create_ok path interface r)
  | init => exact .of_ok ⟨_, rfl⟩
  | shutdown => exact .of_ok ⟨_, rfl⟩
  | remove path => exact .of_ok ⟨_, rfl⟩
  | setHandler kind handler => exact .of_ok ⟨_, rfl⟩
  | relist order => exact .of_ok ⟨_, rfl⟩
  | dispatch event => exact .of_ok ⟨_, rfl⟩

theorem check_of_failed {op : Operation} {r : Run} {error : BusError}
    (failed : (op.perform r).1 = .error error) : op.check r.session = .error error := by
  have checks := op.perform_checks r
  cases checked : op.check r.session with
  | ok _ =>
    obtain ⟨answer, passed⟩ := checks.admitted checked
    rw [passed] at failed
    cases failed
  | error cause =>
    rw [checks.refused cause checked] at failed
    exact congrArg Except.error (Except.error.inj failed)

end Operation

/-- An operation that fails leaves no trace, whatever the run. Which error it fails with is decided
by its checks of the session before it, and then the run is what it was: the session is the same,
nothing was asked of the transport, no event was emitted and no completion was told anything. -/
theorem failed_operations_leave_no_trace (r : Run) (op : Operation) (error : BusError)
    (failed : (op.perform r).1 = .error error) :
    op.perform r = (.error error, r) ∧ op.check r.session = .error error ∧ error.IsRefusal := by
  have checked := Operation.check_of_failed failed
  exact ⟨(op.perform_checks r).refused error checked, checked,
    op.check_refused r.session error checked⟩

/-- Without an owner a fetch passes its first two checks and is refused where it would subscribe. -/
theorem fetch_without_owner_refused :
    let config : Config :=
      { service := "net.connman", rootPath := "/", rootInterface := "net.connman.Manager",
        protocol := .legacy }
    let r := (Run.start config .counting .ascending).performAll
      [.init, .create "/wifi" "net.connman.Service"]
    let fetch : Operation := .sync "/wifi" (some ⟨7⟩)
    (fetch.perform r).1 = .error (.staleReference "net.connman")
    ∧ fetch.perform r = (.error (.staleReference "net.connman"), r) := by
  intro config r fetch
  have failed : (fetch.perform r).1 = .error (.staleReference "net.connman") := by
    subst config r fetch
    rfl
  exact ⟨failed, (failed_operations_leave_no_trace r fetch _ failed).1⟩

end BusCache
