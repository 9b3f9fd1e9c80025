import BusCache.Proofs.Session.Caches
import BusCache.Proofs.Session.Routing

/-!
# Write logs — the cache is what was written last

Three kinds of messages and one operation write to the properties of an element: the reply to a
fetch, a change of one property, changes of several, and a change made by the application. Each is
accepted as a whole or not at all. The cached value of a property is the one that the last of these
writes left, counted from the registration of the element.
-/

namespace BusCache

/-! ## 1. Accepted writes -/

namespace Write

def values (entries : List (String × Property)) : List Write :=
  entries.map fun p => ⟨p.1, some p.2.value⟩

/-- The reply to a fetch: all properties in it, if all of it can be decoded. -/
def ofFetch : Except BusError (List WireValue) → List Write
  | .ok wires =>
      match WireValue.propertiesOfReply wires, WireValue.decodeAll wires with
      | .ok fetched, .ok _ => values fetched
      | _, _ => []
  | .error _ => []

/-- A change of one property: a name and a value, if both can be decoded. -/
def ofChange : List WireValue → List Write
  | [name, value] =>
      match name.decode, value.decodeTyped with
      | .ok (.string name), .ok p => values [(name, p)]
      | _, _ => []
  | _ => []

/-- Changes of several properties of an interface: first the new values, then the names that lost
theirs, if all three parts can be decoded and the interface is the element's. The last part may be
missing. -/
def ofChanges (listing : Listing) (e : Element) : List WireValue → List Write
  | interface :: changed :: rest =>
      match interface.decode, changed.decodeProperties,
        (rest.head?.elim (.ok (.array [])) WireValue.decode : Except BusError Value) with
      | .ok (.string interface), .ok changed, .ok (.array names) =>
          if e.interface = interface then
            values (listing.entries changed)
              ++ (names.filterMap Value.asString?).map fun name => ⟨name, none⟩
          else []
      | _, _, _ => []
  | _ => []

theorem ofFetch_eq (result : Except BusError (List WireValue)) :
    ofFetch result =
      match fetchedOf result with
      | .ok (fetched, _) => values fetched
      | .error _ => [] := by
  cases result with
  | error e => rfl
  | ok wires =>
    dsimp only [ofFetch]
    show _ = match WireValue.propertiesOfReply wires >>= fun fetched =>
        WireValue.decodeAll wires >>= fun args => pure (fetched, args) with
      | .ok (fetched, _) => values fetched
      | .error _ => []
    cases WireValue.propertiesOfReply wires with
    | error e => rfl
    | ok fetched => cases WireValue.decodeAll wires <;> rfl

theorem ofChange_eq (args : List WireValue) :
    ofChange args =
      match propertyChangeOf args with
      | .ok (some (name, p)) => values [(name, p)]
      | _ => [] := by
  match args with
  | [] => rfl
  | [_] => rfl
  | _ :: _ :: _ :: _ => rfl
  | [name, value] =>
    dsimp only [ofChange, propertyChangeOf]
    cases name.decode with
    | error e => rfl
    | ok name =>
      cases value.decodeTyped with
      | error e => cases name <;> rfl
      | ok p => cases name <;> rfl

theorem ofChanges_eq (listing : Listing) (e : Element) (args : List WireValue) :
    ofChanges listing e args =
      match propertyChangesOf args with
      | .ok (some changes) =>
          if e.interface = changes.interface then
            values (listing.entries changes.changed)
              ++ changes.invalidated.map fun name => ⟨name, none⟩
          else []
      | _ => [] := by
  match args with
  | [] => rfl
  | [_] => rfl
  | [interface, changed] =>
    dsimp only [ofChanges, propertyChangesOf]
    cases interface.decode with
    | error e => rfl
    | ok interface =>
      cases changed.decodeProperties with
      | error e => cases interface <;> rfl
      | ok changed => cases interface <;> rfl
  | interface :: changed :: invalidated :: _ =>
    dsimp only [ofChanges, propertyChangesOf, List.head?_cons, Option.elim_some]
    cases interface.decode with
    | error e => rfl
    | ok interface =>
      cases changed.decodeProperties with
      | error e => cases interface <;> rfl
      | ok changed =>
        cases invalidated.decode with
        | error e => cases interface <;> rfl
        | ok names => cases interface <;> cases names <;> rfl

end Write

/-- The writes that an operation is accepted for by the element that is registered at a path. -/
def Session.writesTo (s : Session) (path : Path) (e : Element) : Operation → List Write
  | .change target name value => if target = path then [⟨name, some value⟩] else []
  | .dispatch (.reply call result) =>
      match Table.get? s.callRoutes call with
      | some (.element target _ .sync) => if target = path then Write.ofFetch result else []
      | _ => []
  | .dispatch (.signal subscription _ _ args) =>
      match Table.get? s.signalRoutes subscription with
      | some (.propertyChanged target) => if target = path then Write.ofChange args else []
      | some (.propertiesChanged target) =>
          if target = path then Write.ofChanges s.listing e args else []
      | _ => []
  | _ => []

/-- The writes to the properties at a path that an operation is accepted for. -/
def Session.writes (s : Session) (path : Path) (op : Operation) : List Write :=
  match s.element? path with
  | none => []
  | some e => s.writesTo path e op

namespace Session

variable {s : Session} {path : Path}

theorem writes_of_none (h : s.element? path = none) (op : Operation) : s.writes path op = [] := by
  unfold writes
  rw [h]

theorem writes_of_some {e : Element} (h : s.element? path = some e) (op : Operation) :
    s.writes path op = s.writesTo path e op := by
  unfold writes
  rw [h]

theorem writes_eq_nil {op : Operation}
    (h : ∀ e, s.element? path = some e → s.writesTo path e op = []) : s.writes path op = [] := by
  cases here : s.element? path with
  | none => exact writes_of_none here op
  | some e => exact (writes_of_some here op).trans (h e here)

end Session

namespace Run

/-- The accepted writes of operations, in their order. -/
def writesSince (r : Run) (path : Path) : List Operation → List Write
  | [] => []
  | op :: rest => r.session.writes path op ++ (op.perform r).2.writesSince path rest

theorem writesSince_concat (r : Run) (path : Path) (ops : List Operation) (op : Operation) :
    r.writesSince path (ops ++ [op]) =
      r.writesSince path ops ++ (r.performAll ops).session.writes path op := by
  induction ops generalizing r with
  | nil => exact List.append_nil _
  | cons first rest ih =>
    rw [List.cons_append]
    unfold writesSince
    rw [ih, List.append_assoc]
    rfl

/-- A log accounts for the properties of the element at a path: if it was not removed, they are what
the log leaves them with, and if it was, they start anew. -/
def Accounts (r r' : Run) (path : Path) (log : List Write) : Prop :=
  (¬ r.Removed r' path → ∀ name,
      r'.session.value? path name = overwrite (r.session.value? path name) name log)
    ∧ (r.Removed r' path → ∀ name, r'.session.value? path name = none)

theorem Logs.accounts {r r' : Run} {target : Path} {log : List Write} (h : r.Logs r' target log)
    (path : Path) : r.Accounts r' path (if target = path then log else []) := by
  have kept : ¬ r.Removed r' path := unremoved_of_shown h.announced path
  refine ⟨fun _ name => ?_, fun gone => absurd gone kept⟩
  by_cases hp : target = path
  · rw [if_pos hp, ← hp]
    exact h.here name
  · rw [if_neg hp, overwrite_nil]
    exact h.elsewhere path (Ne.symm hp) name

end Run

/-! ## 2. Operations -/

namespace Operation

variable {r : Run} {path : Path}

theorem perform_signal (r : Run) (subscription : SubscriptionId) (sender : Path) (member : String)
    (args : List WireValue) :
    ((dispatch (.signal subscription sender member args)).perform r).2 =
      r.handleSignal subscription member args := by
  rw [perform_dispatch]
  rfl

/-- Writes to a registered element account for an operation that is accepted for them. -/
theorem accounts_of_logs {op : Operation} {r' : Run} {target : Path} {log : List Write}
    (h : r.Logs r' target log) (registered : (r.session.element? target).isSome)
    (accepted : ∀ e, r.session.element? path = some e →
      r.session.writesTo path e op = if target = path then log else []) :
    r.Accounts r' path (r.session.writes path op) := by
  have accounts := h.accounts path
  cases here : r.session.element? path with
  | none =>
    -- the target is registered, so it is not the path in question
    have other : target ≠ path := by
      rintro rfl
      rw [here] at registered
      cases registered
    rw [if_neg other] at accounts
    rw [Session.writes_of_none here]
    exact accounts
  | some e =>
    rw [Session.writes_of_some here, accepted e here]
    exact accounts

theorem accounts_of_same {op : Operation}
    (refused : ∀ e, r.session.element? path = some e → r.session.writesTo path e op = []) :
    r.Accounts r path (r.session.writes path op) := by
  rw [Session.writes_eq_nil refused]
  have nothing := (Run.Logs.nothing r path).accounts path
  rwa [ite_self] at nothing

theorem accounts_of_quiet {op : Operation} {r' : Run} (h : Steps Act.Quiet r r')
    (refused : ∀ e, r.session.element? path = some e → r.session.writesTo path e op = []) :
    r.Accounts r' path (r.session.writes path op) := by
  rw [Session.writes_eq_nil refused]
  exact h.quiet path

theorem change_accounts (r : Run) (path target : Path) (name : String) (value : Value) :
    r.Accounts ((change target name value).perform r).2 path
      (r.session.writes path (.change target name value)) := by
  rw [perform_change]
  cases here : r.session.element? target with
  | none =>
    rw [Run.change_apply, here]
    apply accounts_of_same
    intro e he
    have other : target ≠ path := by
      rintro rfl
      rw [here] at he
      cases he
    exact if_neg other
  | some e =>
    have registered : (r.session.element? target).isSome := by
      rw [here]
      rfl
    apply accounts_of_logs (Run.change_logs registered name value none) registered
    exact fun _ _ => rfl

/-- What the reply to a call of an element writes. -/
theorem reply_logs {call : CallId} {target : Path} {kind : CallKind} {purpose : CallPurpose}
    {completion : Option Completion}
    (routed : Table.get? r.session.callRoutes call = some (.element target kind purpose))
    (held : r.session.slot? target kind = some ⟨call, completion⟩)
    (result : Except BusError (List WireValue)) :
    r.Logs (r.handleReply call result) target
      (match purpose with
        | .sync => Write.ofFetch result
        | .call => []) := by
  have enabled := Act.answer_enabled routed held
  have registered := Session.registered_of_look held
  have taken : r.Logs ((Act.answer call target kind).perform r) target [] := by
    apply Run.logs_of_modified enabled (fun _ _ => trivial) _
      (Act.answer_registry call target kind r) rfl
    intro name
    rw [enabled.value?_kept trivial, overwrite_nil]
  have told : ∀ (q : Run) (outcome : Except BusError (List Value)),
      q.Logs (q.complete completion outcome) target [] := by
    intro q outcome
    cases completion with
    | none => exact Run.Logs.nothing q target
    | some c =>
      refine ⟨fun _ h => h, fun _ => rfl, fun _ _ _ => rfl, ?_⟩
      exact (Act.perform_shown Effect.removed? (.tell c outcome) q).trans (List.append_nil _)
  rw [Run.handleReply_call routed held]
  cases purpose with
  | call => exact taken.trans (told _ _)
  | sync =>
    dsimp only
    rw [Write.ofFetch_eq]
    cases fetchedOf result with
    | error error => exact taken.trans (told _ _)
    | ok both =>
      -- freeing the slot and telling the completion write nothing
      have merged := taken.trans (Run.mergeFetched_logs (taken.stays target registered) both.1)
      have done := merged.trans (told _ (CallPurpose.sync.outcome result))
      rw [List.nil_append, List.append_nil] at done
      exact done

theorem reply_accounts (routed : r.session.Routed) (call : CallId)
    (result : Except BusError (List WireValue)) :
    r.Accounts ((dispatch (.reply call result)).perform r).2 path
      (r.session.writes path (.dispatch (.reply call result))) := by
  rw [perform_reply]
  cases hroute : Table.get? r.session.callRoutes call with
  | none =>
    rw [Run.handleReply_of_none hroute]
    apply accounts_of_same
    intro e _
    simp only [Session.writesTo, hroute]
  | some route =>
    cases route with
    | nameOwner =>
      have asked := (routed.calls.owner call).mp hroute
      have enabled : (Act.answerQuery call).Enabled r.session := ⟨hroute, asked⟩
      have settled : Steps Act.Quiet r ((Act.answerQuery call).perform r) :=
        Steps.one trivial enabled
      have came := (Run.handleReply_query_steps hroute asked result).mono fun _ h => h.quiet
      apply accounts_of_quiet (settled.trans came)
      intro e _
      simp only [Session.writesTo, hroute]
    | element target kind purpose =>
      obtain ⟨⟨held, completion⟩, hslot, hcall⟩ :=
        (routed.calls.element call target kind).mp ⟨purpose, hroute⟩
      dsimp only at hcall
      subst hcall
      apply accounts_of_logs (reply_logs hroute hslot result)
        (Session.registered_of_look hslot)
      intro e _
      simp only [Session.writesTo, hroute]
      cases purpose with
      | sync => rfl
      | call => exact (ite_self _).symm

theorem signal_accounts (routed : r.session.Routed) (subscription : SubscriptionId) (sender : Path)
    (member : String) (args : List WireValue) :
    r.Accounts ((dispatch (.signal subscription sender member args)).perform r).2 path
      (r.session.writes path (.dispatch (.signal subscription sender member args))) := by
  rw [perform_signal]
  have registered : ∀ {route target}, Table.get? r.session.signalRoutes subscription = some route →
      route.target? r.session.config = some target → (r.session.element? target).isSome := by
    intro route target hroute htarget
    obtain ⟨name, held⟩ := (routed.signals.element subscription target).mp ⟨route, hroute, htarget⟩
    exact Session.registered_of_look held
  unfold Run.handleSignal
  cases hroute : Table.get? r.session.signalRoutes subscription with
  | none =>
    apply accounts_of_same
    intro e _
    simp only [Session.writesTo, hroute]
  | some route =>
    cases route with
    | nameOwner =>
      apply accounts_of_same
      intro e _
      simp only [Session.writesTo, hroute]
    | propertyChanged target =>
      have known := registered hroute rfl
      have logs : r.Logs (match propertyChangeOf args with
          | .ok (some (name, p)) => (Attempt.change target name p.value (some p.kind) r).2
          | _ => r) target (Write.ofChange args) := by
        rw [Write.ofChange_eq]
        split
        · exact Run.change_logs known _ _ _
        · exact Run.Logs.nothing r target
      apply accounts_of_logs logs known
      intro e _
      simp only [Session.writesTo, hroute]
    | propertiesChanged target =>
      have known := registered hroute rfl
      obtain ⟨e, here⟩ := Option.isSome_iff_exists.mp known
      have logs : r.Logs (match propertyChangesOf args with
          | .ok (some changes) => r.applyChanges target changes
          | _ => r) target (Write.ofChanges r.session.listing e args) := by
        rw [Write.ofChanges_eq]
        split
        · exact Run.applyChanges_logs here _
        · exact Run.Logs.nothing r target
      apply accounts_of_logs logs known
      intro e' here'
      simp only [Session.writesTo, hroute]
      -- the interface is compared with that of the element at the target
      by_cases hp : target = path
      · subst hp
        rw [here] at here'
        rw [Option.some.inj here']
      · rw [if_neg hp, if_neg hp]
    | lifecycle action =>
      refine accounts_of_quiet ?_ fun e _ => by simp only [Session.writesTo, hroute]
      dsimp only
      split
      · exact (Run.applyLifecycle_steps action _ r).mono fun _ h => h.quiet
      · exact .refl
    | forward target =>
      refine accounts_of_quiet ?_ fun e _ => by simp only [Session.writesTo, hroute]
      dsimp only
      split
      · split
        · exact Run.emit_steps trivial (by decide) r
        · exact .refl
      · exact .refl

/-- Every operation does to the properties of an element what it is accepted for. -/
theorem perform_accounts (sound : r.session.Sound) (op : Operation)
    (path : Path) : r.Accounts (op.perform r).2 path (r.session.writes path op) := by
  by_cases writes : op.Writes
  · cases op with
    | change target name value => exact change_accounts r path target name value
    | dispatch event =>
      cases event with
      | signal subscription sender member args =>
        exact signal_accounts sound.routed subscription sender member args
      | _ => exact writes.elim
    | _ => exact writes.elim
  by_cases heard : ∃ call result, op = .dispatch (.reply call result)
  · obtain ⟨call, result, rfl⟩ := heard
    exact reply_accounts sound.routed call result
  · have steps := perform_steps sound.idle op fun call result h => absurd ⟨call, result, h⟩ heard
    have quiet : ∀ a, op.Takes a → a.Quiet := by
      intro a taken
      cases a <;> first | exact writes taken | trivial
    apply accounts_of_quiet (steps.mono quiet)
    intro e _
    cases op with
    | change _ _ _ => exact absurd trivial writes
    | dispatch event =>
      cases event with
      | reply call result => exact absurd ⟨call, result, rfl⟩ heard
      | signal _ _ _ _ => exact absurd trivial writes
      | ownerChanged _ _ _ _ => rfl
    | _ => rfl

end Operation

/-! ## 3. Histories -/

namespace Run

theorem performAll_extends {r : Run} (sound : r.session.Sound) (first rest : List Operation) :
    (r.performAll first).trace <+: (r.performAll (first ++ rest)).trace := by
  rw [performAll_append]
  exact (performAll_acts (performAll_sound sound first) rest).trace_extends

theorem removed_trans {r r' r'' : Run} (first : r.trace <+: r'.trace)
    (next : r'.trace <+: r''.trace) (path : Path) :
    r.Removed r'' path ↔ r.Removed r' path ∨ r'.Removed r'' path := by
  obtain ⟨new, hnew⟩ := first
  obtain ⟨more, hmore⟩ := next
  have one := shown_append Effect.removed? hnew.symm
  have two := shown_append Effect.removed? hmore.symm
  have both := two
  rw [one, List.append_assoc] at both
  rw [removed_iff one, removed_iff two, removed_iff both, List.mem_append]

/-- What is removed through a last operation was removed before it or is removed by it. -/
theorem removed_concat_iff {r : Run} (sound : r.session.Sound) (ops : List Operation)
    (op : Operation) (path : Path) :
    r.Removed (op.perform (r.performAll ops)).2 path ↔
      r.Removed (r.performAll ops) path
        ∨ (r.performAll ops).Removed (op.perform (r.performAll ops)).2 path :=
  removed_trans (performAll_acts sound ops).trace_extends
    (op.perform_acts (performAll_sound sound ops)).trace_extends path

/-- An operation registers an element anew: there was none at its path, or the operation removed
it first. -/
def Registers (r : Run) (op : Operation) (path : Path) : Prop :=
  ((op.perform r).2.session.element? path).isSome
    ∧ (r.session.element? path = none ∨ r.Removed (op.perform r).2 path)

end Run

/-- After a history, one of its operations registered the element at a path, which was not removed
since, and the properties of the element are what the writes since then left. -/
def Run.Logged (r : Run) (ops : List Operation) (path : Path) : Prop :=
  ∃ before op since, ops = before ++ op :: since
    ∧ (r.performAll before).Registers op path
    ∧ ¬ (r.performAll (before ++ [op])).Removed (r.performAll ops) path
    ∧ ∀ name, (r.performAll ops).session.value? path name =
        lastWrite name ((r.performAll (before ++ [op])).writesSince path since)

namespace Run

variable {r : Run} {ops : List Operation} {op : Operation} {path : Path}

/-- An element that the last operation registered has no properties yet. -/
theorem logged_anew
    (accounts : (r.performAll ops).Accounts (r.performAll (ops ++ [op])) path
      ((r.performAll ops).session.writes path op))
    (registers : (r.performAll ops).Registers op path) : r.Logged (ops ++ [op]) path := by
  refine ⟨ops, op, [], rfl, registers, not_removed_self _ path, fun name => ?_⟩
  show _ = overwrite none name []
  rw [overwrite_nil]
  by_cases gone : (r.performAll ops).Removed (r.performAll (ops ++ [op])) path
  · exact accounts.2 gone name
  · -- the element was not there before the operation, so nothing was written to it
    have new := registers.2
    rw [← performAll_concat] at new
    have unregistered := new.resolve_right gone
    rw [accounts.1 gone, Session.writes_of_none unregistered, overwrite_nil]
    exact Session.value?_of_element?_none unregistered name

/-- The last operation adds its writes to the log of an element that it does not remove. -/
theorem logged_kept (sound : r.session.Sound)
    (accounts : (r.performAll ops).Accounts (r.performAll (ops ++ [op])) path
      ((r.performAll ops).session.writes path op))
    (kept : ¬ (r.performAll ops).Removed (r.performAll (ops ++ [op])) path)
    (logged : r.Logged ops path) : r.Logged (ops ++ [op]) path := by
  obtain ⟨before, first, since, split, registers, stays, log⟩ := logged
  have rest : r.performAll ops = (r.performAll (before ++ [first])).performAll since := by
    rw [split, performAll_split]
  refine ⟨before, first, since ++ [op], ?_, registers, ?_, fun name => ?_⟩
  · rw [split, List.append_assoc, List.cons_append]
  · have upto := performAll_extends sound (before ++ [first]) since
    rw [List.append_assoc, List.singleton_append, ← split] at upto
    rw [removed_trans upto (performAll_extends sound ops [op])]
    exact not_or.mpr ⟨stays, kept⟩
  · rw [accounts.1 kept, log, writesSince_concat, lastWrite_append, ← rest]

/-- Every element that is registered in the end was registered by one of the operations. -/
theorem performAll_logged (sound : r.session.Sound) (unregistered : r.session.element? path = none)
    (here : ((r.performAll ops).session.element? path).isSome) : r.Logged ops path := by
  -- on the last operation: either it registered the element, or the element was there before it
  induction ops using List.reverseRecOn with
  | nil =>
    rw [show (r.performAll []).session.element? path = none from unregistered] at here
    cases here
  | append_singleton ops op ih =>
    have accounts := op.perform_accounts (performAll_sound sound ops) path
    rw [← performAll_concat] at accounts
    by_cases anew : (r.performAll ops).session.element? path = none
        ∨ (r.performAll ops).Removed (r.performAll (ops ++ [op])) path
    · rw [performAll_concat] at here anew
      exact logged_anew accounts ⟨here, anew⟩
    · obtain ⟨known, kept⟩ := not_or.mp anew
      exact logged_kept sound accounts kept (ih (Option.isSome_iff_ne_none.mpr known))

end Run

/-- The cache refines a log in which the last write wins. For every element that is registered after
a history, one operation of the history registered it, and it was not removed since. The value of
each of its properties is the one that the last accepted write since then gave to it, and it has
none if there was no such write, or if the last one took the value away. -/
theorem cache_refines_write_log (config : Config) (numbering : Numbering) (listing : Listing)
    (ops : List Operation) (path : Path) (e : Element)
    (registered :
      ((Run.start config numbering listing).performAll ops).session.element? path = some e) :
    ∃ before op since, ops = before ++ op :: since
      ∧ ((Run.start config numbering listing).performAll before).Registers op path
      ∧ ¬ ((Run.start config numbering listing).performAll (before ++ [op])).Removed
          ((Run.start config numbering listing).performAll ops) path
      ∧ ∀ name, Table.get? e.properties name =
          lastWrite name (((Run.start config numbering listing).performAll
            (before ++ [op])).writesSince path since) := by
  have sound := Run.start_sound config numbering listing
  have value : ∀ name, Table.get? e.properties name =
      ((Run.start config numbering listing).performAll ops).session.value? path name := by
    intro name
    rw [Session.value?_of_element? registered]
    exact Table.get?_mapValues Property.value e.cache name
  simp only [value]
  have here :
      (((Run.start config numbering listing).performAll ops).session.element? path).isSome := by
    rw [registered]
    rfl
  show (Run.start config numbering listing).Logged ops path
  exact Run.performAll_logged sound rfl here

/-- A property of the root that changed twice holds what it changed to last. -/
theorem changed_twice_holds_last :
    let config : Config :=
      { service := "net.connman", rootPath := "/", rootInterface := "net.connman.Manager",
        protocol := .legacy }
    let changed (state : String) : Operation :=
      .dispatch (.signal ⟨3⟩ "/" "PropertyChanged" [.string "State", .variant (.string state)])
    let ops : List Operation :=
      [.init, .dispatch (.ownerChanged ⟨1⟩ "net.connman" "" ":1.5"), changed "idle",
        changed "online"]
    let start := Run.start config .counting .ascending
    (start.performAll ops).session.value? "/" "State" = some (.string "online")
    ∧ ∃ e, (start.performAll ops).session.element? "/" = some e
      ∧ ∃ before op since, ops = before ++ op :: since
        ∧ Table.get? e.properties "State" =
          lastWrite "State" ((start.performAll (before ++ [op])).writesSince "/" since) := by
  intro config changed ops start
  have last : (start.performAll ops).session.value? "/" "State" = some (.string "online") := by
    subst config changed ops start
    rfl
  have here : ((start.performAll ops).session.element? "/").isSome = true := by
    subst config changed ops start
    rfl
  obtain ⟨e, registered⟩ := Option.isSome_iff_exists.mp here
  obtain ⟨before, op, since, split, _, _, log⟩ :=
    cache_refines_write_log config .counting .ascending ops "/" e registered
  exact ⟨last, e, registered, before, op, since, split, log "State"⟩

end BusCache
