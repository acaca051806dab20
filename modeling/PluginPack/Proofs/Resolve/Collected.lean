import PluginPack.Proofs.Resolve.Levels
import PluginPack.Proofs.Resolve.Take

/-! The verbose tree that collecting returns. Nodes are made from a first-in first-out
queue, so they are made in level order, and each node's dependencies wait behind every
dependency already queued. Each `group:artifact` text has one entry in the map of
expansions, which every newer expansion overwrites; a node is therefore either the first
of its key, expanded, or compared with the last expansion of its key: expanded when
strictly newer, and otherwise an omitted leaf that names the winning version. -/

namespace PluginPack.Resolve

open PluginPack.Project

def lastExpanded (key : String) (made : List NodeInfo) : Option NodeInfo :=
  made.reverse.find? fun n => n.coordinate.gav.key == key && !n.omitted

theorem lastExpanded_append_single (key : String) (made : List NodeInfo) (n : NodeInfo) :
    lastExpanded key (made ++ [n]) =
      if n.coordinate.gav.key = key ∧ n.omitted = false then some n else lastExpanded key made := by
  unfold lastExpanded
  rw [List.reverse_append, List.reverse_singleton, List.singleton_append, List.find?_cons]
  by_cases named : n.coordinate.gav.key = key
  · cases n.omitted <;> simp [named]
  · simp [named, beq_false_of_ne named]

theorem lastExpanded_eq_none {key : String} {made : List NodeInfo}
    (absent : ∀ n ∈ made, n.coordinate.gav.key ≠ key) : lastExpanded key made = none :=
  List.find?_eq_none.mpr fun n member matched =>
    absent n (List.mem_reverse.mp member) (by simpa using (Bool.and_eq_true _ _).mp matched |>.1)

/-- How a node made after `made` stands to the last expansion of its key. The first node of
a key is expanded; a later node is expanded only at a version strictly newer than the last
expansion; an omitted node names the version of the last expansion, no older than its own. -/
structure Fits (made : List NodeInfo) (n : NodeInfo) : Prop where
  first : lastExpanded n.coordinate.gav.key made = none → n.omitted = false
  newer : ∀ p, lastExpanded n.coordinate.gav.key made = some p → n.omitted = false →
    compareVersions n.coordinate.version p.coordinate.version = .ok .gt
  omittedFor : n.omitted = true → ∃ p, lastExpanded n.coordinate.gav.key made = some p ∧
    n.winner = some p.coordinate.version ∧
    ∃ o, compareVersions n.coordinate.version p.coordinate.version = .ok o ∧ o ≠ .gt

def Expansions (made : List NodeInfo) : Prop :=
  ∀ pre n post, made = pre ++ n :: post → Fits pre n

theorem Expansions.nil : Expansions [] := fun pre n post split => by
  simp at split

theorem Expansions.snoc {made : List NodeInfo} {n : NodeInfo} (earlier : Expansions made) (fits : Fits made n) :
    Expansions (made ++ [n]) := by
  intro pre m post split
  rcases List.eq_nil_or_concat post with rfl | ⟨post', last, rfl⟩
  · obtain ⟨same, last⟩ := List.append_inj' split rfl
    rw [List.singleton_inj] at last
    rw [← same, ← last]
    exact fits
  · rw [List.concat_eq_append, ← List.cons_append, ← List.append_assoc] at split
    exact earlier pre m post' (List.append_inj' split rfl).1

section Push

variable {slots : Array Slot}

theorem slotInfos_tail_push (rooted : 0 < slots.size) (s : Slot) :
    (slotInfos (slots.push s)).tail = (slotInfos slots).tail ++ [s.info] := by
  have nonempty : slotInfos slots ≠ [] := by
    simp [slotInfos, List.range_eq_nil, Nat.pos_iff_ne_zero.mp rooted]
  rw [slotInfos_push, List.tail_append_of_ne_nil nonempty]

theorem parentsKept_push (shaped : BreadthFirst slots) (info : NodeInfo) {q : Nat}
    (kept : ∀ i p, i < slots.size → (slots.getD i default).parent = some p →
      (slots.getD p default).info.omitted = false)
    (made : q < slots.size) (keptQ : (slots.getD q default).info.omitted = false) :
    ∀ i p, i < (slots.push ⟨info, some q⟩).size → ((slots.push ⟨info, some q⟩).getD i default).parent = some p →
      ((slots.push ⟨info, some q⟩).getD p default).info.omitted = false := by
  intro i p bound atI
  rw [Array.size_push] at bound
  rcases Nat.lt_succ_iff_lt_or_eq.mp bound with earlier | rfl
  · rw [getD_push_lt slots _ earlier] at atI
    have before := shaped.parent_lt earlier atI
    rw [getD_push_lt slots _ (by omega)]
    exact kept i p earlier atI
  · rw [getD_push_size, Option.some.injEq] at atI
    rw [← atI, getD_push_lt slots _ made]
    exact keptQ

theorem waits_push (info : NodeInfo) {q r : Nat}
    (waits : r < slots.size ∧ (slots.getD r default).info.omitted = false ∧
      ∀ i p, i < slots.size → (slots.getD i default).parent = some p → p ≤ r)
    (after : q ≤ r) :
    r < (slots.push ⟨info, some q⟩).size ∧ ((slots.push ⟨info, some q⟩).getD r default).info.omitted = false ∧
      ∀ i p, i < (slots.push ⟨info, some q⟩).size → ((slots.push ⟨info, some q⟩).getD i default).parent = some p →
        p ≤ r := by
  obtain ⟨bound, kept, latest⟩ := waits
  refine ⟨by rw [Array.size_push]; omega, by rw [getD_push_lt slots _ bound]; exact kept, ?_⟩
  intro i p below atI
  rw [Array.size_push] at below
  rcases Nat.lt_succ_iff_lt_or_eq.mp below with earlier | rfl
  · rw [getD_push_lt slots _ earlier] at atI
    exact latest i p earlier atI
  · rw [getD_push_size, Option.some.injEq] at atI
    omega

theorem waits_below_push (info : NodeInfo) {q : Nat} (kept : info.omitted = false)
    (waits : q < slots.size ∧ (slots.getD q default).info.omitted = false ∧
      ∀ i p, i < slots.size → (slots.getD i default).parent = some p → p ≤ q) :
    slots.size < (slots.push ⟨info, some q⟩).size ∧
      ((slots.push ⟨info, some q⟩).getD slots.size default).info.omitted = false ∧
      ∀ i p, i < (slots.push ⟨info, some q⟩).size → ((slots.push ⟨info, some q⟩).getD i default).parent = some p →
        p ≤ slots.size := by
  obtain ⟨made, _, latest⟩ := waits
  refine ⟨by rw [Array.size_push]; omega, by rw [getD_push_size]; exact kept, fun i p bound atI => ?_⟩
  rw [Array.size_push] at bound
  rcases Nat.lt_succ_iff_lt_or_eq.mp bound with earlier | rfl
  · rw [getD_push_lt slots _ earlier] at atI
    exact Nat.le_of_lt (Nat.lt_of_le_of_lt (latest i p earlier atI) made)
  · rw [getD_push_size, Option.some.injEq] at atI
    omega

end Push

theorem queue_sorted_append {queue fresh : List Pending} {n : Nat} (sorted : (queue.map (·.parent)).Pairwise (· ≤ ·))
    (before : ∀ q ∈ queue, q.parent < n) (below : ∀ q ∈ fresh, q.parent = n) :
    ((queue ++ fresh).map (·.parent)).Pairwise (· ≤ ·) := by
  rw [List.map_append, List.pairwise_append]
  refine ⟨sorted, List.pairwise_of_forall_mem_list fun a atA b atB => ?_, fun a old b new => ?_⟩
  · obtain ⟨q, member, rfl⟩ := List.mem_map.mp atA
    obtain ⟨q', member', rfl⟩ := List.mem_map.mp atB
    rw [below q member, below q' member']
  · obtain ⟨q, member, rfl⟩ := List.mem_map.mp old
    obtain ⟨q', member', rfl⟩ := List.mem_map.mp new
    rw [below q' member']
    exact Nat.le_of_lt (before q member)

/-- What every collection the loop reaches satisfies. Its nodes are made breadth first and
no node hangs below an omitted one. The queue waits in the order of its parents, each an
expanded node no earlier than any parent so far. The map of expansions names, for each key,
the last expansion made, and every node fits the nodes made before it. -/
structure Collection.Layered (c : Collection) : Prop where
  breadthFirst : BreadthFirst c.slots
  parentsKept : ∀ i p, i < c.slots.size → (c.slots.getD i default).parent = some p →
    (c.slots.getD p default).info.omitted = false
  queueSorted : (c.queue.map (·.parent)).Pairwise (· ≤ ·)
  queueAfter : ∀ q ∈ c.queue, q.parent < c.slots.size ∧ (c.slots.getD q.parent default).info.omitted = false ∧
    ∀ i p, i < c.slots.size → (c.slots.getD i default).parent = some p → p ≤ q.parent
  indexed : c.Indexed
  winners : ∀ key, c.winner key = lastExpanded key (slotInfos c.slots).tail
  expansions : Expansions (slotInfos c.slots).tail

/-- The queue entry `p` is due next in `c`: it waits below an expanded node no earlier than
any parent so far, and no later than every entry still queued. -/
structure Collection.Due (c : Collection) (p : Pending) : Prop where
  waits : p.parent < c.slots.size ∧ (c.slots.getD p.parent default).info.omitted = false ∧
    ∀ i q, i < c.slots.size → (c.slots.getD i default).parent = some q → q ≤ p.parent
  first : ∀ q ∈ c.queue, p.parent ≤ q.parent

namespace Collection.Layered

variable {c : Collection}

theorem start (project : Model) : (Collection.start project).Layered := by
  have single : (Collection.start project).slots.size = 1 := rfl
  refine ⟨⟨by simp [single], rfl, ?_, ?_⟩, ?_, ?_, ?_, ?_, ?_, ?_⟩
  · intro i pos bound
    rw [single] at bound
    omega
  · intro i j p q _ bound _ atJ
    rw [single, Nat.lt_one_iff] at bound
    subst bound
    cases atJ
  · intro i p bound atI
    rw [single, Nat.lt_one_iff] at bound
    subst bound
    cases atI
  · simp only [Collection.start, List.map_map]
    exact List.pairwise_map.mpr (List.pairwise_of_forall fun _ _ => Nat.le_refl 0)
  · intro q member
    simp only [Collection.start, List.mem_map] at member
    obtain ⟨_, _, rfl⟩ := member
    refine ⟨by rw [single]; exact Nat.one_pos, rfl, fun i p bound atI => ?_⟩
    rw [single, Nat.lt_one_iff] at bound
    subst bound
    cases atI
  · intro e member
    simp [Collection.start] at member
  · intro key
    rfl
  · exact Expansions.nil

theorem pop (layered : c.Layered) {p : Pending} {rest : List Pending} (queue : c.queue = p :: rest) :
    Collection.Layered { c with queue := rest } ∧ Collection.Due { c with queue := rest } p := by
  have sorted := layered.queueSorted
  rw [queue, List.map_cons, List.pairwise_cons] at sorted
  obtain ⟨made, kept, latest⟩ := layered.queueAfter p (by rw [queue]; exact List.mem_cons_self)
  refine ⟨⟨layered.breadthFirst, layered.parentsKept, sorted.2, fun q member => ?_, layered.indexed,
    layered.winners, layered.expansions⟩, ⟨made, kept, latest⟩, fun q member => ?_⟩
  · exact layered.queueAfter q (by rw [queue]; exact List.mem_cons_of_mem _ member)
  · exact sorted.1 q.parent (List.mem_map_of_mem member)

variable {p : Pending}

theorem leaf (layered : c.Layered) (due : c.Due p) {info w : NodeInfo} {order : Ordering}
    (won : c.winner info.coordinate.gav.key = some w)
    (compared : compareVersions info.coordinate.version w.coordinate.version = .ok order) (notNewer : order ≠ .gt)
    (named : info.winner = some w.coordinate.version) :
    Collection.Layered { c with slots := c.slots.push ⟨info, some p.parent⟩ } := by
  have omitted : info.omitted = true := by simp [NodeInfo.omitted, named]
  have infos := slotInfos_tail_push layered.breadthFirst.rooted ⟨info, some p.parent⟩
  have shaped := layered.breadthFirst
  refine ⟨shaped.push info due.waits.1 due.waits.2.2,
    parentsKept_push shaped info layered.parentsKept due.waits.1 due.waits.2.1, layered.queueSorted,
    fun q member => waits_push info (layered.queueAfter q member) (due.first q member),
    layered.indexed.push _, fun key => ?_, ?_⟩
  · rw [Collection.winner_push layered.indexed, infos, lastExpanded_append_single, layered.winners key]
    simp [omitted]
  · rw [infos]
    refine layered.expansions.snoc ⟨fun none => ?_, fun v _ kept => ?_, fun _ => ?_⟩
    · rw [← layered.winners, won] at none
      cases none
    · rw [omitted] at kept
      cases kept
    · exact ⟨w, by rw [← layered.winners]; exact won, named, order, compared, notNewer⟩

theorem expand (layered : c.Layered) (due : c.Due p) (dep : Dependency) (project : Model) {info : NodeInfo}
    (newer : ∀ v, c.winner dep.gav.key = some v → compareVersions dep.gav.version v.coordinate.version = .ok .gt)
    (coordinate : info.coordinate.gav = dep.gav) (fresh : info.winner = none) :
    (c.expandWith p dep info project).Layered := by
  have kept : info.omitted = false := by simp [NodeInfo.omitted, fresh]
  have key : info.coordinate.gav.key = dep.gav.key := by rw [coordinate]
  have version : info.coordinate.version = dep.gav.version := congrArg Gav.version coordinate
  have infos := slotInfos_tail_push layered.breadthFirst.rooted ⟨info, some p.parent⟩
  have shaped := layered.breadthFirst
  have below : ∀ q ∈ project.dependencies.map fun sub => (⟨c.slots.size, sub, p.exclusions ++ dep.exclusions⟩ : Pending),
      q.parent = c.slots.size := by
    intro q member
    obtain ⟨_, _, rfl⟩ := List.mem_map.mp member
    rfl
  refine ⟨shaped.push info due.waits.1 due.waits.2.2,
    parentsKept_push shaped info layered.parentsKept due.waits.1 due.waits.2.1, ?_, ?_,
    layered.indexed.expandWith p dep info project, fun key' => ?_, ?_⟩
  · exact queue_sorted_append layered.queueSorted (fun q member => (layered.queueAfter q member).1) below
  · intro q member
    rcases List.mem_append.mp member with old | new
    · exact waits_push info (layered.queueAfter q old) (due.first q old)
    · rw [below q new]
      exact waits_below_push info kept due.waits
  · by_cases same : key' = dep.gav.key
    · rw [same, Collection.winner_expandWith_self]
      simp only [Collection.expandWith]
      rw [infos, lastExpanded_append_single, if_pos ⟨key, kept⟩]
    · rw [Collection.winner_expandWith_other layered.indexed p dep info project same]
      simp only [Collection.expandWith]
      have other : ¬(info.coordinate.gav.key = key' ∧ info.omitted = false) := fun both => same (both.1 ▸ key)
      rw [infos, lastExpanded_append_single, if_neg other, layered.winners]
  · simp only [Collection.expandWith]
    rw [infos]
    refine layered.expansions.snoc ⟨fun _ => kept, fun v last _ => ?_, fun omitted => ?_⟩
    · rw [key, ← layered.winners] at last
      rw [version]
      exact newer v last
    · rw [kept] at omitted
      cases omitted

theorem takes (layered : c.Layered) {rest : List Pending} (queue : c.queue = p :: rest)
    {managed : List Dependency} {got : Gav → Model → Prop} {c' : Collection}
    (took : Collection.Takes managed got { c with queue := rest } p c') : c'.Layered := by
  obtain ⟨popped, due⟩ := layered.pop queue
  cases took with
  | skip _ => exact popped
  | leaf info w order _ won compared notNewer coordinate named _ =>
    have gav : info.coordinate.gav = (p.effective managed).gav := by
      rw [coordinate, Pending.coordinate_gav]
    have version : info.coordinate.version = (p.effective managed).gav.version := congrArg Gav.version gav
    exact popped.leaf due (by rw [gav]; exact won) (by rw [version]; exact compared) notNewer named
  | expand project info _ _ newer coordinate fresh _ =>
    exact popped.expand due _ project newer (by rw [coordinate, Pending.coordinate_gav]) fresh

theorem drain {repo : Repository} {managed : List Dependency} :
    ∀ (fuel : Nat) {c done : Collection} {w w' : Workspace}, c.Layered →
      (Collection.drain repo managed fuel c).run' w = (.ok done, w') → done.Layered
  | 0, c, done, w, w', layered, run => by
    simp only [Collection.drain, Step.run'_pure, Prod.mk.injEq, Except.ok.injEq] at run
    exact run.1 ▸ layered
  | fuel + 1, c, done, w, w', layered, run => by
    cases queue : c.queue with
    | nil =>
      rw [Collection.drain_run_nil queue, Prod.mk.injEq, Except.ok.injEq] at run
      exact run.1 ▸ layered
    | cons p rest =>
      rw [Collection.drain_cons fuel queue] at run
      obtain ⟨c₁, w₁, took, more⟩ := Step.run'_bind_eq_ok run
      exact drain fuel (layered.takes queue ((Collection.take_run took).2 c₁ rfl)) more

end Collection.Layered

theorem reportTree_reports (tree : Tree) : (reportTree tree).Reports := by
  unfold reportTree
  refine .bind (.report _ _) fun _ => .bind (.forIn fun node _ => ?_) fun _ => .report _ _
  obtain ⟨n, depth⟩ := node
  exact .bind (.report _ _) fun _ => .pure _

theorem collect_run {repo : Repository} {project : Model} {t : Tree} {w w' : Workspace}
    (run : (collect repo project).run' w = (.ok t, w')) :
    ∃ fuel done w₁, (Collection.drain repo project.managed fuel (Collection.start project)).run' w = (.ok done, w₁) ∧
      t = treeAt done.slots done.slots.size 0 ∧ w'.projects = w₁.projects ∧ w'.store = w₁.store := by
  unfold collect at run
  obtain ⟨w₀, w₁, read, rest⟩ := Step.run'_bind_eq_ok run
  rw [Step.run'_get, Prod.mk.injEq, Except.ok.injEq] at read
  obtain ⟨rfl, rfl⟩ := read
  obtain ⟨done, w₂, drained, rest⟩ := Step.run'_bind_eq_ok rest
  obtain ⟨_, w₃, reported, rest⟩ := Step.run'_bind_eq_ok rest
  obtain ⟨_, notes, ran⟩ := reportTree_reports (treeAt done.slots done.slots.size 0) w₂
  rw [ran, Prod.mk.injEq] at reported
  rw [Step.run'_pure, Prod.mk.injEq, Except.ok.injEq] at rest
  obtain ⟨rfl, rfl⟩ := rest
  rw [← reported.2]
  exact ⟨_, done, w₂, drained, rfl, rfl, rfl⟩

/-- A verbose tree as collecting makes it, read in level order below the root. An omitted
node is a leaf. The first node of a key is expanded, and no deeper than any other node of
the key. Every node fits the nodes before it: a later expansion of a key is strictly newer
than the last one, and an omitted node names the version of the last expansion, which is
no older than its own. -/
structure Tree.Verbose (t : Tree) : Prop where
  omittedLeaf : ∀ e ∈ t.levelOrder, e.1.info.omitted = true → e.1.children = []
  firstExpanded : ∀ pre e post, t.levelOrder.tail = pre ++ e :: post →
    (∀ f ∈ pre, f.1.info.coordinate.gav.key ≠ e.1.info.coordinate.gav.key) →
    e.1.info.omitted = false ∧
      ∀ f ∈ t.levelOrder.tail, f.1.info.coordinate.gav.key = e.1.info.coordinate.gav.key → e.2 ≤ f.2
  fits : ∀ pre e post, t.levelOrder.tail = pre ++ e :: post → Fits (pre.map (·.1.info)) e.1.info

theorem children_treeAt_of_omitted {slots : Array Slot}
    (kept : ∀ i p, i < slots.size → (slots.getD i default).parent = some p →
      (slots.getD p default).info.omitted = false)
    {i : Nat} (omitted : (slots.getD i default).info.omitted = true) :
    ∀ fuel, (treeAt slots fuel i).children = []
  | 0 => rfl
  | fuel + 1 => by
    rw [treeAt_succ, Tree.children, List.map_eq_nil_iff]
    refine List.eq_nil_iff_forall_not_mem.mpr fun j child => ?_
    obtain ⟨bound, parent⟩ := (mem_childSlots slots).mp child
    rw [kept j i bound parent] at omitted
    cases omitted

theorem Collection.Layered.verbose {c : Collection} (layered : c.Layered) :
    (treeAt c.slots c.slots.size 0).Verbose := by
  have shaped := layered.breadthFirst
  have infos : (treeAt c.slots c.slots.size 0).levelOrder.tail.map (·.1.info) = (slotInfos c.slots).tail := by
    rw [List.map_tail, shaped.levelOrder_infos]
  have fits : ∀ pre e post, (treeAt c.slots c.slots.size 0).levelOrder.tail = pre ++ e :: post →
      Fits (pre.map (·.1.info)) e.1.info := by
    intro pre e post split
    rw [split, List.map_append, List.map_cons] at infos
    exact layered.expansions _ _ _ infos.symm
  refine ⟨fun e member omitted => ?_, fun pre e post split absent => ⟨?_, ?_⟩, fits⟩
  · obtain ⟨i, fuel, _, built⟩ := shaped.mem_levelOrder member
    rw [built, info_treeAt] at omitted
    rw [built]
    exact children_treeAt_of_omitted layered.parentsKept omitted fuel
  · refine (fits pre e post split).first (lastExpanded_eq_none fun n member => ?_)
    obtain ⟨f, earlier, rfl⟩ := List.mem_map.mp member
    exact absent f earlier
  · -- Depths never decrease along level order, and no node of the key comes before `e`.
    intro f member sameKey
    have sorted := (Tree.levelOrder_depth_sorted (treeAt c.slots c.slots.size 0)).sublist (List.tail_sublist _)
    rw [split, List.pairwise_append, List.pairwise_cons] at sorted
    rw [split, List.mem_append, List.mem_cons] at member
    rcases member with earlier | rfl | later
    · exact absurd sameKey (absent f earlier)
    · exact Nat.le_refl _
    · exact sorted.2.1.1 f later

/-- Collecting returns a verbose tree whenever it returns one. -/
theorem collect_returns_verbose_tree (repo : Repository) (project : Model) {t : Tree} {w w' : Workspace}
    (run : (collect repo project).run' w = (.ok t, w')) : t.Verbose := by
  obtain ⟨_, done, _, drained, rfl, -⟩ := collect_run run
  exact (Collection.Layered.drain _ (Collection.Layered.start project) drained).verbose

def sampleDependency (artifact version : String) : Dependency :=
  { gav := ⟨"g", artifact, version⟩, type := "pom" }

def sampleProject (artifact version : String) (dependencies : List Dependency) : Model :=
  { gav := ⟨"g", artifact, version⟩, packaging := "pom", dependencies }

/-- A project that needs `a:1` and `b:1` and manages `c` to version 2 in runtime scope. -/
def sampleRoot : Model where
  gav := ⟨"g", "app", "1"⟩
  dependencies := [sampleDependency "a" "1", sampleDependency "b" "1"]
  managed := [{ sampleDependency "c" "2" with scope := some "runtime" }]

/-- A workspace whose resolver has the projects below the sample root cached, so that no
descriptor is read: `a:1` needs `b:0.9`, `c:1` without its dependency on `f`, an optional `d:1`
and `e:1` for tests; `c:2` needs `f:1`. -/
def sampleWorkspace : Workspace where
  store := {}
  projects := [
    ("g:a:1", sampleProject "a" "1" [sampleDependency "b" "0.9",
      { sampleDependency "c" "1" with exclusions := [⟨"g", "f"⟩] },
      { sampleDependency "d" "1" with optional := some true },
      { sampleDependency "e" "1" with scope := some "test" }]),
    ("g:b:1", sampleProject "b" "1" []), ("g:b:0.9", sampleProject "b" "0.9" []),
    ("g:c:2", sampleProject "c" "2" [sampleDependency "f" "1"])]

theorem sample_collected : ((collect { root := "/repo" } sampleRoot).run' sampleWorkspace).1.toOption.map
    (fun t => t.levelOrder.map fun e => (e.1.info.label, e.2)) =
    some [("g:app:jar:1", 0), ("g:a:pom:1 (scope=compile)", 1), ("g:b:pom:1 (scope=compile)", 1),
      ("g:b:pom:0.9 (scope=compile) (omitted for conflict with 1)", 2), ("g:c:pom:2 (scope=runtime)", 2)] := by
  decide +kernel

theorem sample_collects_verbose_tree : ∃ t w',
    (collect { root := "/repo" } sampleRoot).run' sampleWorkspace = (.ok t, w') ∧ t.Verbose ∧
      t.levelOrder.map (fun e => (e.1.info.label, e.2)) =
        [("g:app:jar:1", 0), ("g:a:pom:1 (scope=compile)", 1), ("g:b:pom:1 (scope=compile)", 1),
          ("g:b:pom:0.9 (scope=compile) (omitted for conflict with 1)", 2), ("g:c:pom:2 (scope=runtime)", 2)] := by
  obtain ⟨t, run, levels⟩ := Step.run'_of_toOption_map sample_collected
  exact ⟨t, _, run, collect_returns_verbose_tree _ _ run, levels⟩

end PluginPack.Resolve
