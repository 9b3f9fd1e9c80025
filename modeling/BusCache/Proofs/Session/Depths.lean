import BusCache.Proofs.Session.Subtrees
import Mathlib.Data.Nat.Init

/-!
# Depths — how far elements are from the top of the tree

An element that is listed by another one is registered one level below it. One that is announced by
a signal is registered on the first level below the root, wherever the root is. As long as the root
is at the top, both count the elements above. But an application can create an element while no
service is there, and that element can list the root. When the service comes, its root is already
registered below that element. What is announced below the root is then deeper than it knows, by the
depth of the root, and so is everything discovered through it.
-/

namespace BusCache

namespace Session

/-- Every element is at the level of what it was discovered through. -/
def Leveled (s : Session) : Prop :=
  ∀ path e, s.element? path = some e → s.Level e.parent e.depth

/-- Following parents from a path, one comes to an element without a parent after a number of
links. -/
inductive Ascent (s : Session) : Path → Nat → Prop
  | top {path : Path} {e : Element} (here : s.element? path = some e) (first : e.parent = none) :
      Ascent s path 0
  | link {path parent : Path} {links : Nat} (under : s.Under path parent)
      (above : Ascent s parent links) : Ascent s path (links + 1)

/-- The element at a path was discovered through one that is on the first level below the root,
or is such an element itself, while the root is not at the top. -/
def Displaced (s : Session) (path : Path) : Prop :=
  ∃ child, s.Below child path ∧ s.Under child s.config.rootPath ∧ s.depth? child = some 1
    ∧ ∃ depth, s.depth? s.config.rootPath = some depth ∧ depth ≠ 0

variable {s t : Session} {path parent : Path} {e : Element}

/-! ## 1. Levels and links -/

theorem leveled_of_empty (empty : ∀ path, s.element? path = none) : s.Leveled := by
  intro path e here
  rw [empty path] at here
  cases here

theorem Leveled.depth_le (leveled : s.Leveled) (here : s.element? path = some e) :
    e.depth ≤ s.config.maxDepth.toNat := by
  have level := leveled path e here
  cases above : e.parent with
  | none =>
    rw [above] at level
    change e.depth = 0 at level
    omega
  | some parent =>
    rw [above] at level
    exact level.1

theorem not_under_of_top (here : s.element? path = some e) (top : e.parent = none) :
    ¬ s.Under path parent := by
  intro under
  unfold Under parent? at under
  rw [look_of_element? here, top] at under
  cases under

theorem Ascent.unique {m n : Nat} (first : s.Ascent path m) (other : s.Ascent path n) : m = n := by
  induction first generalizing n with
  | top here first =>
    cases other with
    | top => rfl
    | link under => exact absurd under (not_under_of_top here first)
  | link under _ ih =>
    cases other with
    | top here first => exact absurd under (not_under_of_top here first)
    | link under' above' =>
      cases Option.some.inj (under.symm.trans under')
      rw [ih above']

theorem not_displaced_of_top (here : s.element? path = some e) (top : e.parent = none) :
    ¬ s.Displaced path := by
  rintro ⟨child, below, under, _⟩
  rcases Relation.ReflTransGen.cases_head below with rfl | ⟨_, next, _⟩
  · exact not_under_of_top here top under
  · exact not_under_of_top here top next

/-- The root is not displaced itself, since no element is its own ancestor. -/
theorem Forest.root_not_displaced (forest : s.Forest) : ¬ s.Displaced s.config.rootPath := by
  rintro ⟨child, below, under, _⟩
  exact forest.acyclic s.config.rootPath (Relation.TransGen.tail' below under)

/-- An element one level below another one is displaced together with it. -/
theorem displaced_iff_parent (under : s.Under path parent) {above : Nat}
    (known : s.depth? parent = some above) (below : s.depth? path = some (above + 1)) :
    s.Displaced path ↔ s.Displaced parent := by
  constructor
  · rintro ⟨child, chain, first, one, depth, root, deep⟩
    rcases Relation.ReflTransGen.cases_head chain with rfl | ⟨next, step, chain⟩
    · -- directly below a root that is not at the top, it would be on the second level or lower
      rw [Option.some.inj (under.symm.trans first), root] at known
      have := Option.some.inj known
      have := Option.some.inj (one.symm.trans below)
      omega
    · rw [Option.some.inj (step.symm.trans under)] at chain
      exact ⟨child, chain, first, one, depth, root, deep⟩
  · rintro ⟨child, chain, rest⟩
    exact ⟨child, Relation.ReflTransGen.head under chain, rest⟩

/-- How the depth of an element compares to the number of links above it. -/
structure Measured (s : Session) (path : Path) (e : Element) (links : Nat) : Prop where
  ascent : s.Ascent path links
  exact : ¬ s.Displaced path → e.depth = links
  /-- A displaced element is deeper than it knows, by the depth of the root. -/
  short : s.Displaced path → ∃ root, s.element? s.config.rootPath = some root ∧ root.depth ≠ 0
    ∧ links = e.depth + root.depth

theorem Leveled.measured (leveled : s.Leveled) (forest : s.Forest)
    (here : s.element? path = some e) : ∃ links, s.Measured path e links := by
  obtain ⟨rank, ranked⟩ := forest
  -- on the rank: the parent of an element is registered and ranks below it
  induction ranked_path : rank path using Nat.strong_induction_on generalizing path e with
  | _ bound ih =>
    have level := leveled path e here
    cases above : e.parent with
    | none =>
      rw [above] at level
      change e.depth = 0 at level
      exact ⟨0, .top here above, fun _ => level,
        fun displaced => absurd displaced (not_displaced_of_top here above)⟩
    | some parent =>
      rw [above] at level
      obtain ⟨_, depth, known, level⟩ := level
      have under : s.Under path parent := look_eq_some.mpr ⟨e, here, above⟩
      obtain ⟨p, there, hdepth⟩ := look_eq_some.mp known
      have hdepth : p.depth = depth := Option.some.inj hdepth
      obtain ⟨links, measured⟩ := ih _ (ranked_path ▸ (ranked _ _ under).2) there rfl
      have ascent : s.Ascent path (links + 1) := .link under measured.ascent
      have own : s.depth? path = some e.depth := look_of_element? here
      by_cases regular : e.depth = depth + 1
      · have same := displaced_iff_parent under known (regular ▸ own)
        refine ⟨links + 1, ascent, fun straight => ?_, fun displaced => ?_⟩
        · rw [regular, ← hdepth, measured.exact fun h => straight (same.mpr h)]
        · obtain ⟨root, found, deep, short⟩ := measured.short (same.mp displaced)
          exact ⟨root, found, deep, by omega⟩
      · -- on the first level below a root that is not at the top
        obtain ⟨rfl, first⟩ := level.resolve_left regular
        have deep : depth ≠ 0 := by omega
        have displaced : s.Displaced path := ⟨path, .refl, under, first ▸ own, depth, known, deep⟩
        have straight := measured.exact (Forest.root_not_displaced ⟨rank, ranked⟩)
        exact ⟨links + 1, ascent, fun h => absurd displaced h,
          fun _ => ⟨p, there, by omega, by omega⟩⟩

end Session

/-! ## 2. Elements come and go -/

/-- Only what nothing was discovered through is released. -/
theorem Act.Enabled.leveled {a : Act} {r : Run} (enabled : a.Enabled r.session)
    (leaf : ∀ path, a = .release path → ∀ p, r.session.parent? p ≠ some path)
    (leveled : r.session.Leveled) : (a.perform r).session.Leveled := by
  intro path e here
  rcases element?_origin here with ⟨interface, parent, depth, rfl, rfl⟩ | ⟨e₀, before, same⟩
  · exact enabled.level_kept (fun _ _ => Act.noConfusion) enabled.2
  · -- an element keeps its parent, and the parent is no leaf that could be released
    have origin : e₀.SameOrigin e := by
      rcases same with rfl | revised
      · exact .refl e
      · exact revised.origin
    rw [origin.parent, origin.depth]
    apply enabled.level_kept _ (leveled path e₀ before)
    rintro parent above rfl
    exact leaf parent rfl path (Session.look_eq_some.mpr ⟨e₀, before, above⟩)

theorem Steps.leveled {r r' : Run} (h : Steps Act.Works r r') (start : r.session.Leveled) :
    r'.session.Leveled :=
  h.preserves (I := fun q => q.session.Leveled)
    (fun _ _ works enabled => enabled.leveled fun _ he => by subst he; exact works.elim) start

theorem Run.Sheds.leveled {r r' : Run} {gone : List (Path × Element)} (h : r.Sheds gone r')
    (start : r.session.Leveled) : r'.session.Leveled := by
  induction h with
  | nothing => exact start
  | @release r r' path e gone here leaf _ ih =>
    apply ih
    have enabled : (Act.release path).Enabled r.session := Option.isSome_of_eq_some here
    apply enabled.leveled _ start
    intro q same
    cases same
    exact leaf

namespace Run

variable {r : Run}

theorem enter_leveled (owner : String) (leveled : r.session.Leveled) :
    (r.enter owner).session.Leveled := by
  obtain ⟨grown, grows, entered⟩ := enter_grows owner r
  rw [entered]
  exact (grows.mono Act.Grows.works).leveled leveled

theorem exit_leveled (r : Run) : r.exit.session.Leveled :=
  Session.leveled_of_empty fun path => removeAll_element? r path

theorem ownerChanged_leveled (oldOwner newOwner : String) (leveled : r.session.Leveled) :
    (r.ownerChanged oldOwner newOwner).session.Leveled := by
  unfold ownerChanged
  split
  · exact enter_leveled _ leveled
  · exact exit_leveled r
  · exact enter_leveled _ (exit_leveled r)
  · exact leveled

end Run

namespace Operation

theorem perform_leveled {r : Run} (sound : r.session.Sound) (forest : r.session.Forest)
    (leveled : r.session.Leveled) (op : Operation) : (op.perform r).2.session.Leveled := by
  cases op.turn sound with
  | works steps => exact steps.leveled leveled
  | removes path after =>
    -- a tree is taken away from its leaves on
    obtain ⟨rank, ranked⟩ := forest
    obtain ⟨gone, shed, _⟩ := Run.removeTree_sheds path ranked
    rw [after]
    exact shed.leveled leveled
  | starts unused after =>
    rw [after]
    exact leveled
  | counts users before left after =>
    rw [after]
    exact leveled
  | ends last shut after =>
    rw [after]
    exact Session.leveled_of_empty (Run.shutdown_last last).1
  | notified subscription oldOwner newOwner event watched after =>
    rw [after]
    exact Run.ownerChanged_leveled oldOwner newOwner leveled
  | answered call result event enabled after =>
    have settled : ((Act.answerQuery call).perform r).session.Leveled := leveled
    rcases after with after | ⟨owner, after⟩
    · rw [after]
      exact settled
    · rw [after]
      exact Run.ownerChanged_leveled "" owner settled

end Operation

theorem Run.performAll_leveled (config : Config) (numbering : Numbering) (listing : Listing)
    (ops : List Operation) : ((start config numbering listing).performAll ops).session.Leveled := by
  have kept := performAll_sound_keeps
    (I := fun q => q.session.Forest ∧ q.session.Leveled)
    (fun r op sound h => ⟨op.perform_forest sound h.1, op.perform_leveled sound h.1 h.2⟩)
    (start_sound config numbering listing)
    ⟨start_forest config numbering listing, Session.leveled_of_empty fun _ => rfl⟩ ops
  exact kept.2

/-! ## 3. Histories -/

/-- No element is registered deeper than the configuration allows. From every element a number of
parent links leads to the top, and its depth is this number unless it is displaced. That happens to
what is announced below a root that was discovered through another element, and to everything below:
there are more links than the depth tells, by the depth of the root. -/
theorem depth_counts_links_iff (config : Config) (numbering : Numbering) (listing : Listing)
    (ops : List Operation) (path : Path) (e : Element) :
    let s := ((Run.start config numbering listing).performAll ops).session
    s.element? path = some e →
    e.depth ≤ config.maxDepth.toNat
    ∧ ∃ links, (∀ n, s.Ascent path n ↔ n = links)
      ∧ (e.depth = links ↔ ¬ s.Displaced path)
      ∧ (s.Displaced path → ∃ root, s.element? config.rootPath = some root
        ∧ links = e.depth + root.depth) := by
  intro s here
  have leveled : s.Leveled := Run.performAll_leveled config numbering listing ops
  have forest : s.Forest := Run.performAll_forest (Run.start_sound config numbering listing)
    (Run.start_forest config numbering listing) ops
  have setup : s.config = config :=
    (Run.performAll_acts (Run.start_sound config numbering listing) ops).sameSetup.config
  obtain ⟨links, measured⟩ := leveled.measured forest here
  have allowed := leveled.depth_le here
  have short := measured.short
  rw [setup] at allowed short
  refine ⟨allowed, links, fun n => ⟨fun other => other.unique measured.ascent, ?_⟩, ?_, ?_⟩
  · rintro rfl
    exact measured.ascent
  · refine ⟨fun same displaced => ?_, measured.exact⟩
    obtain ⟨root, _, deep, difference⟩ := short displaced
    omega
  · intro displaced
    obtain ⟨root, found, _, difference⟩ := short displaced
    exact ⟨root, found, difference⟩

/-- An adapter is announced below the root and lists a device, which is two links from the top. -/
theorem device_of_announced_adapter_is_two_deep :
    let config : Config :=
      { service := "org.bluez", rootPath := "/", rootInterface := "org.bluez.Manager",
        protocol := .legacy,
        children := [⟨"org.bluez.Adapter", "Devices", "org.bluez.Device"⟩],
        lifecycle := [⟨"org.bluez.Manager", "AdapterAdded", .added "org.bluez.Adapter"⟩] }
    let ops : List Operation :=
      [.init, .dispatch (.ownerChanged ⟨1⟩ "org.bluez" "" ":1.7"),
        .dispatch (.signal ⟨3⟩ "/" "AdapterAdded" [.objectPath "/hci0"]),
        .change "/hci0" "Devices" (.array [.objectPath "/hci0/headset"])]
    let s := ((Run.start config .counting .ascending).performAll ops).session
    ∃ e, s.element? "/hci0/headset" = some e ∧ e.depth = 2
      ∧ ∀ n, s.Ascent "/hci0/headset" n ↔ n = 2 := by
  intro config ops
  have evaluated : let s := ((Run.start config .counting .ascending).performAll ops).session
      (s.depth? "/hci0/headset", s.depth? "/", s.config) = (some 2, some 0, config) := by
    subst config ops
    rfl
  have counted := depth_counts_links_iff config .counting .ascending ops "/hci0/headset"
  dsimp only at evaluated counted ⊢
  generalize ((Run.start config .counting .ascending).performAll ops).session = s
    at evaluated counted ⊢
  obtain ⟨below, root, setup⟩ : _ ∧ _ ∧ _ := by simpa only [Prod.mk.injEq] using evaluated
  obtain ⟨e, here, deep⟩ := Session.look_eq_some.mp below
  have deep : e.depth = 2 := Option.some.inj deep
  obtain ⟨_, links, ascent, exact_iff, _⟩ := counted e here
  have straight : ¬ s.Displaced "/hci0/headset" := by
    rintro ⟨_, _, _, _, depth, at_root, other⟩
    rw [setup] at at_root
    exact other (Option.some.inj (at_root.symm.trans root))
  rw [← exact_iff.mpr straight, deep] at ascent
  exact ⟨e, here, deep, ascent⟩

/-- A root that a site lists, as the application found out before the service came. A device that
the root lists is two links from the top and knows it. A device that is announced below the same
root is as far from the top, but is registered on the first level. -/
theorem announced_device_misses_a_link :
    let config : Config :=
      { service := "org.example.Net", rootPath := "/net", rootInterface := "org.example.Net",
        protocol := .legacy,
        children := [⟨"org.example.Site", "Networks", "org.example.Net"⟩,
          ⟨"org.example.Net", "Devices", "org.example.Device"⟩],
        lifecycle := [⟨"org.example.Net", "DeviceAdded", .added "org.example.Device"⟩] }
    let ops : List Operation :=
      [.create "/site" "org.example.Site", .change "/site" "Networks" (.array [.objectPath "/net"]),
        .init, .dispatch (.ownerChanged ⟨1⟩ "org.example.Net" "" ":1.7"),
        .change "/net" "Devices" (.array [.objectPath "/listed"]),
        .dispatch (.signal ⟨3⟩ "/net" "DeviceAdded" [.objectPath "/announced"])]
    let s := ((Run.start config .counting .ascending).performAll ops).session
    s.Ascent "/listed" 2 ∧ s.depth? "/listed" = some 2
    ∧ s.Ascent "/announced" 2 ∧ s.depth? "/announced" = some 1 := by
  intro config ops
  have evaluated : let s := ((Run.start config .counting .ascending).performAll ops).session
      (s.parent? "/listed", s.depth? "/listed", s.parent? "/announced", s.depth? "/announced",
        s.parent? "/net", (s.element? "/site").map Element.parent) =
          (some "/net", some 2, some "/net", some 1, some "/site", some none) := by
    subst config ops
    rfl
  dsimp only at evaluated ⊢
  generalize ((Run.start config .counting .ascending).performAll ops).session = s at evaluated ⊢
  obtain ⟨listed, second, announced, first, root, site⟩ : _ ∧ _ ∧ _ ∧ _ ∧ _ ∧ _ := by
    simpa only [Prod.mk.injEq] using evaluated
  obtain ⟨e, here, top⟩ := Option.map_eq_some_iff.mp site
  have above : s.Ascent "/net" 1 := .link root (.top here top)
  exact ⟨.link listed above, second, .link announced above, first⟩

end BusCache
