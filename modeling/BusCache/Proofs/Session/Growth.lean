import BusCache.Proofs.Session.Act
import BusCache.Session.Presence

/-!
# Growth — asking for calls and subscriptions, and discovering elements

An operation that sends a call for an element fails and leaves the run as it was, or it sends one
call, after at most one subscription. Discovery registers elements and fetches them, and does
nothing else.
-/

namespace BusCache

namespace Act

def Subscribes : Act → Prop
  | subscribe _ _ _ => True
  | _ => False

/-- Adds an element or a subscription. -/
def Prepares : Act → Prop
  | register _ _ _ _ => True
  | subscribe _ _ _ => True
  | _ => False

/-- Adds an element, a fetch that nobody waits for, or a subscription. -/
def Grows : Act → Prop
  | register _ _ _ _ => True
  | subscribe _ _ _ => True
  | send _ kind _ completion _ => completion = none ∧ kind = .propertiesGet
  | _ => False

theorem Subscribes.prepares (a : Act) (h : a.Subscribes) : a.Prepares := by
  cases a <;> first | exact h.elim | trivial

theorem Prepares.grows (a : Act) (h : a.Prepares) : a.Grows := by
  cases a <;> first | exact h.elim | trivial

theorem Subscribes.grows (a : Act) (h : a.Subscribes) : a.Grows :=
  Prepares.grows a (prepares a h)

theorem Grows.element?_isSome {a : Act} (h : a.Grows) {r : Run} {p : Path}
    (here : (r.session.element? p).isSome) : ((a.perform r).session.element? p).isSome :=
  a.element?_isSome (fun path he => by subst he; exact h) here

end Act

theorem Steps.element?_isSome {r r' : Run} (h : Steps Act.Grows r r') {p : Path}
    (here : (r.session.element? p).isSome) : (r'.session.element? p).isSome :=
  h.preserves (I := fun q => (q.session.element? p).isSome)
    (fun _ _ grows _ => grows.element?_isSome) here

theorem Steps.level {r r' : Run} (h : Steps Act.Grows r r') {parent : Option Path} {depth : Nat}
    (level : r.session.Level parent depth) : r'.session.Level parent depth :=
  h.preserves (I := fun q => q.session.Level parent depth)
    (fun _ _ grows enabled => enabled.level_kept fun _ _ he => by subst he; exact grows) level

/-- Growth leaves what is known about the owner alone. -/
theorem Steps.ownership_eq {r r' : Run} (h : Steps Act.Grows r r') :
    r'.session.ownership = r.session.ownership := by
  apply h.preserves (I := fun q => q.session.ownership = r.session.ownership) _ rfl
  intro q a grows _ kept
  rw [← kept]
  cases a <;> first | exact grows.elim | rfl

/-! ## 1. Attempts that send a call -/

namespace Session

theorem ensurePresent_ok {s : Session} {u : Unit} (h : s.ensurePresent = .ok u) :
    s.state.isPresent = true := by
  unfold ensurePresent at h
  by_cases hp : s.state.isPresent = true
  · exact hp
  · rw [if_neg hp] at h
    cases h

theorem element_ok {s : Session} {path : Path} {e : Element} (h : s.element path = .ok e) :
    s.element? path = some e := by
  unfold element at h
  cases he : s.element? path with
  | none =>
    rw [he] at h
    cases h
  | some e' =>
    rw [he] at h
    rw [Except.ok.inj h]

theorem ensureAdmissible_ok {path : Path} {e : Element} {kind : CallKind} {u : Unit}
    (h : ensureAdmissible path e kind = .ok u) : Table.get? e.pending kind = none := by
  unfold ensureAdmissible at h
  by_cases hp : e.isPending kind = true
  · rw [if_pos hp] at h
    cases h
  · unfold Element.isPending Table.contains at hp
    rwa [Option.not_isSome_iff_eq_none] at hp

theorem element_eq {s : Session} {path : Path} {e : Element} (here : s.element? path = some e) :
    s.element path = .ok e := by
  unfold element
  rw [here]

theorem ensureAdmissible_eq {s : Session} {path : Path} {e : Element} {kind : CallKind}
    (here : s.element? path = some e) (free : s.slot? path kind = none) :
    ensureAdmissible path e kind = .ok () := by
  unfold slot? at free
  rw [look_of_element? here] at free
  unfold ensureAdmissible Element.isPending Table.contains
  rw [free]
  rfl

end Session

namespace Attempt

/-- The attempt fails and leaves the run as it was, or subscribes if it has to and sends one call,
which the conditions for sending hold for. -/
def Sends (path : Path) (kind : CallKind) (purpose : CallPurpose) (completion : Option Completion)
    (a : Attempt Unit) (r : Run) : Prop :=
  (∃ error, a r = (.error error, r)) ∨
    ∃ r₁ call, Steps Act.Subscribes r r₁
      ∧ (Act.send path kind purpose completion call).Enabled r₁.session
      ∧ a r = (.ok (), r₁.sendCall path kind purpose completion call)

section Sends

variable {α : Type} {path : Path} {kind : CallKind} {purpose : CallPurpose}
  {completion : Option Completion} {r : Run}

theorem check_bind_apply (f : Session → Except BusError α) (next : α → Attempt Unit) (r : Run) :
    (check f >>= next) r =
      match f r.session with
      | .ok x => next x r
      | .error e => (.error e, r) := by
  rw [bind_apply, check_apply]
  cases f r.session <;> rfl

theorem Sends.check_bind {f : Session → Except BusError α} {next : α → Attempt Unit}
    (h : ∀ x, f r.session = .ok x → Sends path kind purpose completion (next x) r) :
    Sends path kind purpose completion (check f >>= next) r := by
  cases hf : f r.session with
  | error e =>
    left
    refine ⟨e, ?_⟩
    rw [check_bind_apply, hf]
  | ok x =>
    have hx : (check f >>= next) r = next x r := by rw [check_bind_apply, hf]
    rcases h x hf with ⟨e, he⟩ | ⟨r₁, call, steps, enabled, hs⟩
    · exact .inl ⟨e, hx.trans he⟩
    · exact .inr ⟨r₁, call, steps, enabled, hx.trans hs⟩

theorem startCall_sends {build : Element → String → MethodCall}
    (addressed : ∀ e destination,
      (build e destination).destination = destination ∧ (build e destination).path = path) :
    Sends path kind .call completion (startCall path kind .call completion build) r := by
  unfold startCall
  apply Sends.check_bind
  intro _ hpresent
  apply Sends.check_bind
  intro e he
  apply Sends.check_bind
  intro _ hadm
  have here := Session.element_ok he
  -- all three checks passed, and they are what the call needs
  refine .inr ⟨r, build e r.session.destination, .refl, ?_, rfl⟩
  refine ⟨Session.ensurePresent_ok hpresent, ?_, ?_, (addressed _ _).1, (addressed _ _).2, trivial⟩
  · rw [here]
    rfl
  · unfold Session.slot?
    rw [Session.look_of_element? here]
    exact Session.ensureAdmissible_ok hadm

theorem startCall_eq {build : Element → String → MethodCall} {e : Element}
    (present : r.session.state.isPresent) (here : r.session.element? path = some e)
    (free : r.session.slot? path kind = none) :
    startCall path kind purpose completion build r =
      (.ok (), r.sendCall path kind purpose completion (build e r.session.destination)) := by
  have hp : r.session.ensurePresent = .ok () := if_pos present
  unfold startCall
  rw [check_bind_apply, hp]
  dsimp only
  rw [check_bind_apply, Session.element_eq here]
  dsimp only
  rw [check_bind_apply, Session.ensureAdmissible_eq here free]
  rfl

theorem call_sends (method : String) (args : List Argument) :
    Sends path kind .call completion (call path kind method args completion) r :=
  startCall_sends fun _ _ => ⟨rfl, rfl⟩

theorem callOn_sends (interface method : String) (args : List Argument) :
    Sends path kind .call completion (callOn path interface kind method args completion) r :=
  startCall_sends fun _ _ => ⟨rfl, rfl⟩

theorem setPropertyAs_sends (name : String) (value : Value) (type : Kind) :
    Sends path .propertySet .call completion (setPropertyAs path name value type completion) r := by
  unfold setPropertyAs
  apply Sends.check_bind
  intro _ _
  apply Sends.check_bind
  intro config _
  apply startCall_sends
  intro e destination
  cases hp : config.protocol <;> exact ⟨rfl, rfl⟩

theorem setProperty_sends (name : String) (value : Value) :
    Sends path .propertySet .call completion (setProperty path name value completion) r := by
  unfold setProperty
  apply Sends.check_bind
  intro _ _
  apply Sends.check_bind
  intro type _
  exact setPropertyAs_sends name value type

theorem openUnlessHeld_eq {rule : Session → Element → SignalRule} {route : SignalRoute}
    {e : Element} (present : r.session.state.isPresent) (here : r.session.element? path = some e) :
    openUnlessHeld path rule route r =
      (.ok (), if e.hasSubscription (rule r.session e).member then r
        else r.openSubscription path (rule r.session e) route) := by
  have hp : r.session.ensurePresent = .ok () := if_pos present
  unfold openUnlessHeld
  rw [check_bind_apply, hp]
  dsimp only
  rw [check_bind_apply, Session.element_eq here]
  rfl

/-- What the conditions for opening a subscription come down to. -/
theorem openUnlessHeld_cases (rule : Session → Element → SignalRule) (route : SignalRoute) :
    (∃ error, openUnlessHeld path rule route r = (.error error, r)) ∨
      ∃ e, r.session.state.isPresent ∧ r.session.element? path = some e
        ∧ ((r.session.subscription? path (rule r.session e).member).isSome
            ∧ openUnlessHeld path rule route r = (.ok (), r)
          ∨ r.session.subscription? path (rule r.session e).member = none
            ∧ openUnlessHeld path rule route r =
              (.ok (), r.openSubscription path (rule r.session e) route)) := by
  unfold openUnlessHeld
  rw [check_bind_apply]
  cases hpresent : r.session.ensurePresent with
  | error error => exact .inl ⟨error, rfl⟩
  | ok u =>
    dsimp only
    rw [check_bind_apply]
    cases he : r.session.element path with
    | error error => exact .inl ⟨error, rfl⟩
    | ok e =>
      have here := Session.element_ok he
      refine .inr ⟨e, Session.ensurePresent_ok hpresent, here, ?_⟩
      dsimp only
      rw [perform_apply]
      unfold Session.subscription?
      rw [Session.look_of_element? here]
      -- the element knows a subscription by the name of its signal only
      by_cases hheld : e.hasSubscription (rule r.session e).member = true
      · exact .inl ⟨hheld, by rw [if_pos hheld]⟩
      · refine .inr ⟨?_, by rw [if_neg hheld]⟩
        unfold Element.hasSubscription Table.contains at hheld
        rwa [Option.not_isSome_iff_eq_none] at hheld

theorem openUnlessHeld_steps {rule : Session → Element → SignalRule} {route : SignalRoute}
    (addressed : ∀ s e, (rule s e).sender = s.destination ∧ (rule s e).path = path)
    (target : route.target? r.session.config = some path)
    (suits : ∀ e, r.session.element? path = some e →
      route.Suits r.session path (rule r.session e)) :
    Steps Act.Subscribes r (openUnlessHeld path rule route r).2 := by
  rcases openUnlessHeld_cases (r := r) rule route with
    ⟨error, h⟩ | ⟨e, present, here, ⟨_, h⟩ | ⟨free, h⟩⟩
  · rw [h]
    exact .refl
  · rw [h]
    exact .refl
  · rw [h]
    refine Steps.one (a := .subscribe path (rule r.session e) route) trivial ?_
    refine ⟨present, ?_, free, (addressed _ _).1, (addressed _ _).2, target, suits e here⟩
    rw [here]
    rfl

end Sends

/-! ## 2. Fetching -/

/-- The route of the changes of an element's properties. -/
def changesRoute (config : Config) (path : Path) : SignalRoute :=
  match config.protocol with
  | .legacy => .propertyChanged path
  | .freedesktop => .propertiesChanged path

theorem subscribeChanges_apply (path : Path) (r : Run) :
    subscribeChanges path r =
      openUnlessHeld path
        (fun s e => s.config.protocol.changes s.destination path e.interface)
        (changesRoute r.session.config path) r := by
  unfold subscribeChanges
  rw [check_bind_apply]
  rfl

theorem subscribeChanges_steps (path : Path) (r : Run) :
    Steps Act.Subscribes r (subscribeChanges path r).2 := by
  rw [subscribeChanges_apply]
  apply openUnlessHeld_steps
  · intro s e
    cases hp : s.config.protocol <;> exact ⟨rfl, rfl⟩
  · unfold changesRoute
    cases hp : r.session.config.protocol <;> rfl
  · intro e here
    unfold changesRoute
    split <;> exact ⟨e, here, rfl⟩

theorem subscribeSignal_steps (path : Path) (interface member : String) (r : Run) :
    Steps Act.Subscribes r (subscribeSignal path interface member r).2 :=
  openUnlessHeld_steps (fun _ _ => ⟨rfl, rfl⟩) rfl fun _ _ => trivial

end Attempt

/-- Registering and subscribing touch no call under way. -/
theorem Steps.slot?_eq {r r' : Run} (h : Steps Act.Prepares r r') (p : Path) (k : CallKind) :
    r'.session.slot? p k = r.session.slot? p k := by
  apply h.preserves (I := fun q => q.session.slot? p k = r.session.slot? p k) _ rfl
  intro q a prepares enabled kept
  rw [← kept]
  cases a with
  | register path interface parent depth =>
    exact Session.look_of_set_blank (q.register_registry path _) enabled.1 rfl p
  | subscribe path rule route =>
    exact Session.look_of_modified_kept (q.openSubscription_registry path rule route)
      (fun _ => rfl) p
  | _ => exact prepares.elim

namespace Attempt

variable {path : Path} {completion : Option Completion} {r : Run}

theorem subscribeChanges_cases (path : Path) (r : Run) :
    (∃ error, subscribeChanges path r = (.error error, r)) ∨
      r.session.state.isPresent ∧ (subscribeChanges path r).1 = .ok () := by
  rw [subscribeChanges_apply]
  rcases @openUnlessHeld_cases path r _ _ with
    ⟨error, h⟩ | ⟨e, present, _, ⟨_, h⟩ | ⟨_, h⟩⟩
  · exact .inl ⟨error, h⟩
  · exact .inr ⟨present, by rw [h]⟩
  · exact .inr ⟨present, by rw [h]⟩

/-- Subscribing to the changes of an element changes neither its interface nor who is asked. -/
theorem subscribeChanges_asks {e : Element} (present : r.session.state.isPresent)
    (here : r.session.element? path = some e) :
    (subscribeChanges path r).1 = .ok ()
      ∧ (subscribeChanges path r).2.session.config = r.session.config
      ∧ (subscribeChanges path r).2.session.ownership = r.session.ownership
      ∧ ∃ e₁, (subscribeChanges path r).2.session.element? path = some e₁
        ∧ e₁.interface = e.interface := by
  rw [subscribeChanges_apply, openUnlessHeld_eq present here]
  refine ⟨rfl, ?_⟩
  dsimp only
  split
  · exact ⟨rfl, rfl, e, here, rfl⟩
  · -- the element is the one found, with one subscription more
    exact ⟨rfl, rfl, _,
      Session.element?_of_modified_self (r.openSubscription_registry path _ _) here, rfl⟩

/-- Afterwards the element holds a subscription under the name of the signal, whoever made it. -/
theorem subscribeChanges_holds {e : Element} (present : r.session.state.isPresent)
    (here : r.session.element? path = some e) :
    ((subscribeChanges path r).2.session.subscription? path
      r.session.config.protocol.changeSignal).isSome := by
  rw [subscribeChanges_apply, openUnlessHeld_eq present here]
  dsimp only
  unfold Session.subscription?
  split
  · rename_i held
    rw [PropertyProtocol.changes_member] at held
    rw [Session.look_of_element? here]
    exact held
  · rw [Session.look_of_element?
      (Session.element?_of_modified_self (r.openSubscription_registry path _ _) here)]
    unfold Element.addSubscription
    rw [PropertyProtocol.changes_member, Table.get?_set_self]
    rfl

/-- A fetch that is admitted subscribes to the changes if it has to, and then sends its call. -/
theorem sync_eq {e : Element} (present : r.session.state.isPresent)
    (here : r.session.element? path = some e)
    (free : r.session.slot? path .propertiesGet = none) :
    sync path completion r =
      (.ok (), (subscribeChanges path r).2.sendCall path .propertiesGet .sync completion
        (r.session.config.protocol.fetch r.session.destination path e.interface)) := by
  obtain ⟨ok, config, ownership, e₁, here₁, interface⟩ := subscribeChanges_asks present here
  have prepares := (subscribeChanges_steps path r).mono Act.Subscribes.prepares
  have free₁ := (prepares.slot?_eq path .propertiesGet).trans free
  unfold sync
  rw [check_bind_apply, Session.element_eq here]
  dsimp only
  rw [check_bind_apply, Session.ensureAdmissible_eq here free]
  dsimp only
  rw [bind_apply]
  generalize subscribeChanges path r = opened at ok config ownership here₁ free₁ ⊢
  obtain ⟨outcome, r₁⟩ := opened
  dsimp only at ok config ownership here₁ free₁ ⊢
  subst ok
  dsimp only
  rw [check_bind_apply]
  -- the checks made before the subscription still hold after it, so the call is sent
  have present₁ : r₁.session.state.isPresent := by
    unfold Session.state
    rw [ownership]
    exact present
  have destination : r₁.session.destination = r.session.destination := by
    unfold Session.destination Session.state
    rw [ownership, config]
  dsimp only
  rw [startCall_eq present₁ here₁ free₁, config, destination, interface]

/-- What the conditions for a fetch come down to. -/
theorem sync_cases (path : Path) (completion : Option Completion) (r : Run) :
    (∃ error, sync path completion r = (.error error, r)) ∨
      ∃ e, r.session.state.isPresent ∧ r.session.element? path = some e
        ∧ r.session.slot? path .propertiesGet = none := by
  cases known : r.session.element path with
  | error error =>
    refine .inl ⟨error, ?_⟩
    unfold sync
    rw [check_bind_apply, known]
  | ok e =>
    have here := Session.element_ok known
    cases admitted : Session.ensureAdmissible path e .propertiesGet with
    | error error =>
      refine .inl ⟨error, ?_⟩
      unfold sync
      rw [check_bind_apply, known]
      dsimp only
      rw [check_bind_apply, admitted]
    | ok _ =>
      rcases subscribeChanges_cases path r with ⟨error, refused⟩ | ⟨present, _⟩
      · refine .inl ⟨error, ?_⟩
        unfold sync
        rw [check_bind_apply, known]
        dsimp only
        rw [check_bind_apply, admitted]
        dsimp only
        rw [bind_apply, refused]
      · refine .inr ⟨e, present, here, ?_⟩
        unfold Session.slot?
        rw [Session.look_of_element? here]
        exact Session.ensureAdmissible_ok admitted

theorem sync_sends : Sends path .propertiesGet .sync completion (sync path completion) r := by
  rcases sync_cases path completion r with refused | ⟨e, present, here, free⟩
  · exact .inl refused
  · have steps := subscribeChanges_steps path r
    obtain ⟨_, config, ownership, e₁, here₁, _⟩ := subscribeChanges_asks present here
    refine .inr ⟨_, _, steps, ⟨?_, ?_, ?_, ?_, ?_, rfl, ?_⟩, sync_eq present here free⟩
    · unfold Session.state
      rw [ownership]
      exact present
    · rw [here₁]
      rfl
    · rw [(steps.mono Act.Subscribes.prepares).slot?_eq]
      exact free
    · unfold Session.destination Session.state
      rw [ownership, config]
      cases r.session.config.protocol <;> rfl
    · cases r.session.config.protocol <;> rfl
    · rw [config]
      exact subscribeChanges_holds present here

theorem syncRoot_sends :
    Sends r.session.config.rootPath .propertiesGet .sync none syncRoot r := by
  unfold syncRoot
  apply Sends.check_bind
  intro _ _
  -- the root is fetched like any other element
  apply Sends.check_bind
  intro config hconfig
  rw [← Except.ok.inj hconfig]
  exact sync_sends

/-- Acts of an attempt whose call is a fetch that nobody waits for. -/
theorem Sends.steps {purpose : CallPurpose} {a : Attempt Unit}
    (h : Sends path .propertiesGet purpose none a r) : Steps Act.Grows r (a r).2 := by
  rcases h with ⟨error, he⟩ | ⟨r₁, call, steps, enabled, hs⟩
  · rw [he]
    exact .refl
  · rw [hs]
    exact (steps.mono Act.Subscribes.grows).trans
      (Steps.one (a := .send path .propertiesGet purpose none call) ⟨rfl, rfl⟩ enabled)

/-- An attempt that sends a call registers nothing. -/
theorem Sends.registered_before {kind : CallKind} {purpose : CallPurpose} {a : Attempt Unit}
    (h : Sends path kind purpose completion a r) {p : Path} {e : Element}
    (here : (a r).2.session.element? p = some e) :
    ∃ e₀, r.session.element? p = some e₀ ∧ e₀.SameOrigin e := by
  rcases h with ⟨error, he⟩ | ⟨r₁, call, steps, enabled, hs⟩
  · rw [he] at here
    exact ⟨e, here, .refl e⟩
  · rw [hs] at here
    let sending := Act.send path kind purpose completion call
    have sent : Steps (fun a => a.Subscribes ∨ a = sending) r (sending.perform r₁) :=
      (steps.mono fun _ => .inl).trans (Steps.one (.inr rfl) enabled)
    refine sent.registered_before ?_ here
    rintro _ either _ _ _ rfl
    exact either.elim id Act.noConfusion

end Attempt

/-! ## 3. Discovery -/

namespace Run

theorem getOrCreate_prepares {r : Run} {path : Path} {interface : String} (parent : Option Path)
    (depth : Nat) (level : r.session.Level parent depth) :
    Steps Act.Prepares r (r.getOrCreate path { interface, parent, depth }).2 := by
  unfold getOrCreate
  by_cases here : r.session.isRegistered path = true
  · rw [if_pos here]
    exact .refl
  · rw [if_neg here]
    -- a path that is not registered can be
    refine Steps.one (a := .register path interface parent depth) trivial ⟨?_, level⟩
    rwa [Bool.not_eq_true, Session.isRegistered_eq_false_iff] at here

theorem getOrCreate_steps {r : Run} {path : Path} {interface : String} (parent : Option Path)
    (depth : Nat) (level : r.session.Level parent depth) :
    Steps Act.Grows r (r.getOrCreate path { interface, parent, depth }).2 :=
  (getOrCreate_prepares parent depth level).mono Act.Prepares.grows

theorem getOrCreate_isSome (r : Run) (path : Path) (e : Element) :
    ((r.getOrCreate path e).2.session.element? path).isSome := by
  unfold getOrCreate
  split
  · rename_i here
    exact here
  · show ((r.register path e).session.element? path).isSome
    rw [Session.element?_of_set (r.register_registry path e), if_pos rfl]
    rfl

theorem adopt_steps {r : Run} {path : Path} {interface : String} {parent : Path} {depth : Nat}
    (level : r.session.Level (some parent) depth) :
    Steps Act.Grows r (r.adopt path interface parent depth) := by
  have first :
      Steps Act.Grows r (r.getOrCreate path { interface, parent := some parent, depth }).2 :=
    getOrCreate_steps (some parent) depth level
  unfold adopt
  cases hc : r.getOrCreate path { interface, parent := some parent, depth } with
  | mk new r₁ =>
    rw [hc] at first
    cases new with
    | false => exact first
    -- a new element is fetched at once, and if that is refused nothing is done
    | true => exact first.trans Attempt.sync_sends.steps

theorem cascade_steps (r : Run) (path : Path) (changed : Option String) :
    Steps Act.Grows r (r.cascade path changed) := by
  unfold cascade
  cases here : r.session.element? path with
  | none => exact .refl
  | some e =>
    dsimp only
    split
    · exact .refl
    · rename_i allowed
      have level : r.session.Level (some path) (e.depth + 1) :=
        ⟨Nat.le_of_not_gt allowed, e.depth, Session.look_of_element? here, .inl rfl⟩
      -- growth keeps the level below the parent open from child to child
      refine (Steps.foldl (I := fun q => q.session.Level (some path) (e.depth + 1)) _ ?_ level).1
      intro q child _ level
      have round : Steps Act.Grows q (q.adopt child.1 child.2 path (e.depth + 1)) :=
        adopt_steps level
      exact ⟨round, round.level level⟩

theorem subscribeLifecycle_steps {r : Run} (present : r.session.state.isPresent) :
    Steps Act.Subscribes r (r.subscribeLifecycle r.session.config.rootPath) := by
  unfold subscribeLifecycle
  -- a round needs an owner and the configured root, and subscribing changes neither
  refine (Steps.foldl (I := fun q => q.session.config = r.session.config
    ∧ q.session.state.isPresent) _ ?_ ⟨rfl, present⟩).1
  intro q signal configured kept
  cases here : q.session.element? r.session.config.rootPath with
  | none => exact ⟨.refl, kept⟩
  | some e =>
    dsimp only
    by_cases held : e.hasSubscription signal.member = true
    · rw [if_pos held]
      exact ⟨.refl, kept⟩
    · rw [if_neg held]
      refine ⟨?_, kept⟩
      apply Steps.one (a := .subscribe r.session.config.rootPath _ (.lifecycle signal.action))
        trivial
      refine ⟨kept.2, ?_, ?_, rfl, rfl, ?_, ?_⟩
      · rw [here]
        rfl
      · unfold Session.subscription?
        rw [Session.look_of_element? here]
        unfold Element.hasSubscription Table.contains at held
        rwa [Option.not_isSome_iff_eq_none] at held
      · rw [kept.1]
        rfl
      · show _ ∈ q.session.config.lifecycle
        rw [kept.1]
        exact configured

end Run

end BusCache
