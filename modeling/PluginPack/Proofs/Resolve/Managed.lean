import PluginPack.Proofs.Resolve.Collected

/-! Transitive dependencies in the collected tree. Below the first level a dependency is
taken as the project the resolver gave for its parent declares it, with the root's dependency
management applied;
it is left out when optional, in test or provided scope, or named by an exclusion that a
non-root node above it declares. So every node at depth two or more is such a declaration,
kept by these checks, at the managed version and in the scope derived from its parent's.
The exclusions build up along each path inside the queue entries: each entry carries those
of the nodes above it, and the invariant ties them to the nodes already made. -/

namespace PluginPack.Resolve

open PluginPack.Project

/-- How a node below the non-root node `parent` stands for the dependency `declared`, where
`excluded` are the exclusions declared by `parent` and the non-root nodes above it. It names
the declared artifact; it is not optional; with the root's management applied its declared
scope is neither test nor provided; no exclusion in `excluded` names it; it has the version
of a management entry that knows one; and its scope is derived from its parent's. -/
structure ManagedDeclaration (managed : List Dependency) (parent : NodeInfo) (excluded : List Exclusion)
    (declared : Dependency) (n : NodeInfo) : Prop where
  artifact : n.coordinate.groupId = declared.gav.groupId ∧ n.coordinate.artifactId = declared.gav.artifactId ∧
    n.coordinate.type = declared.type ∧ n.coordinate.classifier = declared.classifier
  notOptional : n.coordinate.optional = false
  scopeKept : (manageDependency managed declared).scope.getD "compile" ≠ "test" ∧
    (manageDependency managed declared).scope.getD "compile" ≠ "provided"
  notExcluded : ∀ ex ∈ excluded, ex.matches n.coordinate.groupId n.coordinate.artifactId = false
  managedVersion : ∀ e, managedEntry managed declared.managementKey = some e → e.gav.version ≠ unknownVersion →
    n.coordinate.version = e.gav.version
  derivedScope : n.coordinate.scope =
    some (deriveScope parent.coordinate.scope ((manageDependency managed declared).scope.getD "compile"))

theorem Pending.managedDeclaration {managed : List Dependency} {p : Pending} {parent info : NodeInfo}
    (deep : p.parent ≠ 0) (kept : p.skipped managed = false)
    (coordinate : info.coordinate = p.coordinate managed parent) :
    ManagedDeclaration managed parent p.exclusions p.dependency info := by
  have effective : p.effective managed = manageDependency managed p.dependency := by
    simp [Pending.effective, deep]
  have deep' : (p.parent != 0) = true := bne_iff_ne.mpr deep
  simp only [Pending.skipped, effective, deep', Bool.true_and, Bool.or_eq_false_iff, List.any_eq_false,
    Bool.not_eq_true] at kept
  obtain ⟨⟨⟨optional, test⟩, provided⟩, notExcluded⟩ := kept
  simp only [Pending.coordinate, effective, beq_iff_eq, deep, if_false] at coordinate
  refine ⟨?_, ?_, ⟨by simpa using test, by simpa using provided⟩, fun ex member => ?_, fun e entry known => ?_, ?_⟩
  · simp [coordinate]
  · simpa [coordinate] using optional
  · simpa [coordinate] using notExcluded ex member
  · rw [coordinate]
    exact manageDependency_version managed p.dependency entry known
  · rw [coordinate]

/-- What a queue entry carries: below the root no exclusions; below another node the
exclusions gathered above that node and those it declares, and a dependency that the project
cached for that node's coordinate declares. -/
structure Waiting (projects : List (String × Model)) (excluded : Nat → List Exclusion)
    (slots : Array Slot) (q : Pending) : Prop where
  direct : q.parent = 0 → q.exclusions = []
  gathered : 0 < q.parent → q.exclusions = excluded q.parent ++ (slots.getD q.parent default).info.exclusions
  declared : 0 < q.parent → ∃ declaring,
    projects.lookup (slots.getD q.parent default).info.coordinate.gav.compact = some declaring ∧
      q.dependency ∈ declaring.dependencies

/-- What every collection the loop reaches satisfies, for the exclusions `excluded k`
gathered above each node `k`: a node right below the root has none, a node below another
node has those of that node and the ones it declares, a node below a non-root node stands
for a dependency that the project cached for that node declares, and every queue entry carries
what it should. -/
structure Collection.Managed (projects : List (String × Model)) (managed : List Dependency)
    (excluded : Nat → List Exclusion) (c : Collection) : Prop where
  direct : ∀ k, k < c.slots.size → (c.slots.getD k default).parent = some 0 → excluded k = []
  gathered : ∀ k j, k < c.slots.size → (c.slots.getD k default).parent = some j → 0 < j →
    excluded k = excluded j ++ (c.slots.getD j default).info.exclusions
  declared : ∀ k j, k < c.slots.size → (c.slots.getD k default).parent = some j → 0 < j →
    ∃ declaring d, projects.lookup (c.slots.getD j default).info.coordinate.gav.compact = some declaring ∧
      d ∈ declaring.dependencies ∧
      ManagedDeclaration managed (c.slots.getD j default).info (excluded k) d (c.slots.getD k default).info
  queued : ∀ q ∈ c.queue, Waiting projects excluded c.slots q

theorem Waiting.keep {projects projects' : List (String × Model)} {excluded : Nat → List Exclusion}
    {slots : Array Slot} {q : Pending} (waiting : Waiting projects excluded slots q)
    (kept : ∀ key project, projects.lookup key = some project → projects'.lookup key = some project) :
    Waiting projects' excluded slots q := by
  refine ⟨waiting.direct, waiting.gathered, fun deep => ?_⟩
  obtain ⟨declaring, cached, member⟩ := waiting.declared deep
  exact ⟨declaring, kept _ _ cached, member⟩

theorem Collection.Managed.keep {projects projects' : List (String × Model)} {managed : List Dependency}
    {excluded : Nat → List Exclusion} {c : Collection} (m : c.Managed projects managed excluded)
    (kept : ∀ key project, projects.lookup key = some project → projects'.lookup key = some project) :
    c.Managed projects' managed excluded := by
  refine ⟨m.direct, m.gathered, fun k j bound atK deep => ?_, fun q member => (m.queued q member).keep kept⟩
  obtain ⟨declaring, d, cached, member, declaration⟩ := m.declared k j bound atK deep
  exact ⟨declaring, d, kept _ _ cached, member, declaration⟩

def extendExcluded (excluded : Nat → List Exclusion) (n : Nat) (p : Pending) (k : Nat) : List Exclusion :=
  if k = n then p.exclusions else excluded k

section Push

variable {projects : List (String × Model)} {managed : List Dependency}
  {excluded : Nat → List Exclusion} {slots : Array Slot} {p : Pending}

theorem extendExcluded_lt {k : Nat} (bound : k < slots.size) :
    extendExcluded excluded slots.size p k = excluded k :=
  if_neg (Nat.ne_of_lt bound)

theorem Waiting.push {q : Pending} (waiting : Waiting projects excluded slots q) (bound : q.parent < slots.size)
    (s : Slot) : Waiting projects (extendExcluded excluded slots.size p) (slots.push s) q := by
  refine ⟨waiting.direct, fun deep => ?_, fun deep => ?_⟩
  · rw [extendExcluded_lt bound, getD_push_lt slots s bound]
    exact waiting.gathered deep
  · rw [getD_push_lt slots s bound]
    exact waiting.declared deep

theorem Collection.Managed.push {c c' : Collection} (m : c.Managed projects managed excluded)
    (shaped : BreadthFirst c.slots) {info : NodeInfo} (made : p.parent < c.slots.size)
    (waiting : Waiting projects excluded c.slots p) (kept : p.skipped managed = false)
    (coordinate : info.coordinate = p.coordinate managed (c.slots.getD p.parent default).info)
    (slots : c'.slots = c.slots.push ⟨info, some p.parent⟩)
    (queued : ∀ q ∈ c'.queue, Waiting projects (extendExcluded excluded c.slots.size p) c'.slots q) :
    c'.Managed projects managed (extendExcluded excluded c.slots.size p) := by
  have old : ∀ k, k < c.slots.size → (c.slots.push ⟨info, some p.parent⟩).getD k default = c.slots.getD k default :=
    fun k bound => getD_push_lt c.slots _ bound
  have new := getD_push_size c.slots ⟨info, some p.parent⟩
  have extended : extendExcluded excluded c.slots.size p c.slots.size = p.exclusions := if_pos rfl
  obtain ⟨slots', queue', expanded'⟩ := c'
  dsimp only at slots queued ⊢
  subst slots
  refine ⟨fun k bound atK => ?_, fun k j bound atK deep => ?_, fun k j bound atK deep => ?_, queued⟩
  all_goals
    rw [Array.size_push] at bound
    rcases Nat.lt_succ_iff_lt_or_eq.mp bound with earlier | rfl
  · rw [old k earlier] at atK
    rw [extendExcluded_lt earlier]
    exact m.direct k earlier atK
  · rw [new, Option.some.injEq] at atK
    rw [extended]
    exact waiting.direct atK
  · rw [old k earlier] at atK
    have before := shaped.parent_lt earlier atK
    rw [extendExcluded_lt earlier, extendExcluded_lt (by omega), old j (by omega)]
    exact m.gathered k j earlier atK deep
  · rw [new, Option.some.injEq] at atK
    subst atK
    rw [extended, extendExcluded_lt made, old p.parent made]
    exact waiting.gathered deep
  · rw [old k earlier] at atK
    have before := shaped.parent_lt earlier atK
    rw [extendExcluded_lt earlier, old j (by omega), old k earlier]
    exact m.declared k j earlier atK deep
  · rw [new, Option.some.injEq] at atK
    subst atK
    obtain ⟨declaring, read, member⟩ := waiting.declared deep
    rw [extended, old p.parent made, new]
    exact ⟨declaring, p.dependency, read, member, Pending.managedDeclaration (Nat.pos_iff_ne_zero.mp deep) kept coordinate⟩

end Push

namespace Collection.Managed

variable {projects : List (String × Model)} {managed : List Dependency}
  {excluded : Nat → List Exclusion} {c : Collection} {p : Pending}

theorem start (project : Model) : (Collection.start project).Managed projects managed fun _ => [] := by
  have single : (Collection.start project).slots.size = 1 := rfl
  have rootless : ∀ k j, k < (Collection.start project).slots.size →
      ((Collection.start project).slots.getD k default).parent ≠ some j := by
    intro k j bound atK
    rw [single, Nat.lt_one_iff] at bound
    subst bound
    cases atK
  refine ⟨fun k bound atK => absurd atK (rootless k 0 bound), fun k j bound atK => absurd atK (rootless k j bound),
    fun k j bound atK => absurd atK (rootless k j bound), fun q member => ?_⟩
  simp only [Collection.start, List.mem_map] at member
  obtain ⟨_, _, rfl⟩ := member
  exact ⟨fun _ => rfl, fun deep => absurd deep (Nat.lt_irrefl 0), fun deep => absurd deep (Nat.lt_irrefl 0)⟩

theorem takes (m : c.Managed projects managed excluded) (layered : c.Layered) {rest : List Pending}
    (queue : c.queue = p :: rest) {c' : Collection}
    (took : Collection.Takes managed (fun g m => projects.lookup g.compact = some m) { c with queue := rest } p c') :
    ∃ excluded', c'.Managed projects managed excluded' := by
  have waiting := m.queued p (by rw [queue]; exact List.mem_cons_self)
  have made := (layered.queueAfter p (by rw [queue]; exact List.mem_cons_self)).1
  have later : ∀ q ∈ rest, Waiting projects excluded c.slots q ∧ q.parent < c.slots.size := fun q member =>
    have queued : q ∈ c.queue := by rw [queue]; exact List.mem_cons_of_mem _ member
    ⟨m.queued q queued, (layered.queueAfter q queued).1⟩
  cases took with
  | skip _ => exact ⟨excluded, m.direct, m.gathered, m.declared, fun q member => (later q member).1⟩
  | leaf info w order kept _ _ _ coordinate _ _ =>
    refine ⟨_, m.push layered.breadthFirst made waiting kept coordinate rfl fun q member => ?_⟩
    exact (later q member).1.push (later q member).2 _
  | expand project info kept read _ coordinate _ declares =>
    refine ⟨_, m.push layered.breadthFirst made waiting kept coordinate rfl fun q member => ?_⟩
    rcases List.mem_append.mp member with old | new
    · exact (later q old).1.push (later q old).2 _
    · -- An entry below the new node carries the exclusions above it and those of its dependency.
      obtain ⟨sub, member', rfl⟩ := List.mem_map.mp new
      have gav : info.coordinate.gav = (p.effective managed).gav := by
        rw [coordinate, Pending.coordinate_gav]
      refine ⟨fun atRoot => absurd atRoot (Nat.pos_iff_ne_zero.mp layered.breadthFirst.rooted),
        fun _ => ?_, fun _ => ⟨project, ?_, member'⟩⟩
      · simp only [Collection.expandWith, getD_push_size]
        rw [extendExcluded, if_pos rfl, declares]
      · simp only [Collection.expandWith, getD_push_size]
        rw [gav]
        exact read

theorem drain {repo : Repository} : ∀ (fuel : Nat) {c done : Collection} {excluded : Nat → List Exclusion}
    {w w' : Workspace}, c.Layered → c.Managed w.projects managed excluded →
    (Collection.drain repo managed fuel c).run' w = (.ok done, w') → ∃ excluded', done.Managed w'.projects managed excluded'
  | 0, c, done, excluded, w, w', _, m, run => by
    simp only [Collection.drain, Step.run'_pure, Prod.mk.injEq, Except.ok.injEq] at run
    obtain ⟨rfl, rfl⟩ := run
    exact ⟨excluded, m⟩
  | fuel + 1, c, done, excluded, w, w', layered, m, run => by
    cases queue : c.queue with
    | nil =>
      rw [Collection.drain_run_nil queue, Prod.mk.injEq, Except.ok.injEq] at run
      obtain ⟨rfl, rfl⟩ := run
      exact ⟨excluded, m⟩
    | cons p rest =>
      rw [Collection.drain_cons fuel queue] at run
      obtain ⟨c₁, w₁, took, more⟩ := Step.run'_bind_eq_ok run
      obtain ⟨effect, takes⟩ := Collection.take_run took
      have taken := takes c₁ rfl
      obtain ⟨excluded₁, m₁⟩ := (m.keep effect.keeps.cached).takes layered queue taken
      exact drain fuel (layered.takes queue taken) m₁ more

end Collection.Managed

/-- Every node of `t`, which hangs below the non-root node `parent`, is a dependency that the
project cached for its parent's coordinate declares, taken as `ManagedDeclaration` says, where
`excluded` gathers the exclusions declared by `parent` and the non-root nodes above it. -/
inductive Tree.ManagedBelow (projects : List (String × Model)) (managed : List Dependency) :
    NodeInfo → List Exclusion → Tree → Prop
  | node {parent : NodeInfo} {excluded : List Exclusion} {info : NodeInfo} {children : List Tree}
      (declaring : Model) (declared : Dependency) :
      projects.lookup parent.coordinate.gav.compact = some declaring → declared ∈ declaring.dependencies →
      ManagedDeclaration managed parent excluded declared info →
      (∀ c ∈ children, Tree.ManagedBelow projects managed info (excluded ++ info.exclusions) c) →
      Tree.ManagedBelow projects managed parent excluded (.node info children)

theorem Collection.Managed.managedBelow {projects : List (String × Model)} {managed : List Dependency}
    {excluded : Nat → List Exclusion} {c : Collection} (m : c.Managed projects managed excluded)
    (shaped : BreadthFirst c.slots) :
    ∀ fuel k j, k < c.slots.size → (c.slots.getD k default).parent = some j → 0 < j →
      (treeAt c.slots fuel k).ManagedBelow projects managed (c.slots.getD j default).info (excluded k) := by
  intro fuel
  induction fuel with
  | zero =>
    intro k j bound atK deep
    obtain ⟨declaring, d, read, member, declaration⟩ := m.declared k j bound atK deep
    exact .node declaring d read member declaration nofun
  | succ fuel ih =>
    intro k j bound atK deep
    obtain ⟨declaring, d, read, member, declaration⟩ := m.declared k j bound atK deep
    rw [treeAt_succ]
    refine .node declaring d read member declaration fun t child => ?_
    obtain ⟨i, below, rfl⟩ := List.mem_map.mp child
    obtain ⟨bound', atI⟩ := (mem_childSlots c.slots).mp below
    have deep' : 0 < k := Nat.lt_of_le_of_lt (Nat.zero_le j) (shaped.parent_lt bound atK)
    rw [← m.gathered i k bound' atI deep']
    exact ih i k bound' atI deep'

/-- In the tree collecting returns, every node at depth two or more is a dependency that the
project the resolver gave for its parent declares, with the root's management applied, kept by
the optional, scope and exclusion checks, at the managed version and in the scope derived from
its parent's. The resolver keeps those projects cached when collecting is done. -/
theorem collect_manages_transitive_nodes (repo : Repository) (project : Model) {t : Tree} {w w' : Workspace}
    (run : (collect repo project).run' w = (.ok t, w')) :
    ∀ c ∈ t.children, ∀ g ∈ c.children, g.ManagedBelow w'.projects project.managed c.info c.info.exclusions := by
  obtain ⟨fuel, done, w₁, drained, rfl, cached, -⟩ := collect_run run
  have shaped := (Collection.Layered.drain _ (Collection.Layered.start project) drained).breadthFirst
  obtain ⟨excluded, m⟩ := Collection.Managed.drain _ (Collection.Layered.start project)
    (Collection.Managed.start project) drained
  intro c top g below
  obtain ⟨j, k, _, atTop, atJ, named, rfl⟩ := grandchild_treeAt done.slots top below
  obtain ⟨boundJ, parentJ⟩ := (mem_childSlots done.slots).mp atTop
  obtain ⟨boundK, parentK⟩ := (mem_childSlots done.slots).mp atJ
  have deep : 0 < j := shaped.lt_of_mem_childSlots atTop
  have gathered := m.gathered k j boundK parentK deep
  rw [m.direct j boundJ parentJ, List.nil_append] at gathered
  rw [named, ← gathered, cached]
  exact m.managedBelow shaped _ k j boundK parentK deep

theorem sample_transitive_nodes_managed : ∃ t w',
    (collect { root := "/repo" } sampleRoot).run' sampleWorkspace = (.ok t, w') ∧
      (∀ c ∈ t.children, ∀ g ∈ c.children, g.ManagedBelow w'.projects sampleRoot.managed c.info c.info.exclusions) ∧
      t.levelOrder.map (fun e => (e.1.info.label, e.2)) =
        [("g:app:jar:1", 0), ("g:a:pom:1 (scope=compile)", 1), ("g:b:pom:1 (scope=compile)", 1),
          ("g:b:pom:0.9 (scope=compile) (omitted for conflict with 1)", 2), ("g:c:pom:2 (scope=runtime)", 2)] := by
  obtain ⟨t, run, levels⟩ := Step.run'_of_toOption_map sample_collected
  exact ⟨t, _, run, collect_manages_transitive_nodes _ _ run, levels⟩

end PluginPack.Resolve
