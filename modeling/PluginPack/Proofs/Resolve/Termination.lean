import Mathlib.Data.Set.Card
import Mathlib.Logic.Relation
import PluginPack.Proofs.Resolve.Take
import PluginPack.Proofs.Version.TieBreak

/-! When collecting stops. Collecting reads the coordinates the root declares and, under the
root's management, those that projects described by the descriptors of the file tree declare;
each expansion of an artifact is at a version strictly newer than the one before it. So if
strictly newer has no cycle among the declared versions of each artifact, no coordinate is
expanded twice. One entry of the file tree describes one project, so there are at most as many
declared coordinates as the root declares plus, entry by entry, what one described project
declares. The expansions still possible then shrink with every expansion, and the queue with
every other step, and `collectionBound` steps are enough. -/

namespace PluginPack.Resolve

open PluginPack.Project PluginPack.Files

section Declared

variable (store : Store) (repo : Repository) (project : Model)

/-- The coordinates collecting `project` may read: its direct dependencies as it declares them,
and, under its dependency management, every dependency of a project that a descriptor of the
file tree describes. -/
def Declared (gav : Gav) : Prop :=
  gav ∈ project.dependencies.map (·.gav) ∨
    ∃ path m d, Describes store repo path m ∧ d ∈ m.dependencies ∧ (manageDependency project.managed d).gav = gav

/-- `v` is a declared version of the artifact whose `group:artifact` text is `key`, and it is
strictly newer than `u`. -/
def DeclaredNewer (key : String) (u v : String) : Prop :=
  (∃ gav, Declared store repo project gav ∧ gav.key = key ∧ gav.version = v) ∧
    Version.compareVersionTexts v u = .ok .gt

/-- Where a waiting dependency comes from: the root declares it right below the root, and a
described project further down. -/
def Queued (p : Pending) : Prop :=
  (p.parent = 0 ∧ p.dependency ∈ project.dependencies) ∨
    (p.parent ≠ 0 ∧ ∃ path m, Describes store repo path m ∧ p.dependency ∈ m.dependencies)

variable {store repo project}

theorem Queued.declared {p : Pending} (queued : Queued store repo project p) :
    Declared store repo project (p.effective project.managed).gav := by
  rcases queued with ⟨root, member⟩ | ⟨below, path, m, described, member⟩
  · left
    simp only [Pending.effective, root, beq_self_eq_true, if_true]
    exact List.mem_map_of_mem member
  · have deeper : (p.parent == 0) = false := by simpa using below
    right
    refine ⟨path, m, p.dependency, described, member, ?_⟩
    simp only [Pending.effective, deeper, Bool.false_eq_true, if_false]

end Declared

section Covered

variable (store : Store) (repo : Repository)

end Covered

def Collection.expandedGavs (c : Collection) : List Gav :=
  (c.slots.toList.drop 1).filterMap fun s =>
    if s.info.winner.isNone then some s.info.coordinate.gav else none

theorem Collection.expandedGavs_push {c : Collection} (rooted : 0 < c.slots.size) (s : Slot) :
    Collection.expandedGavs { c with slots := c.slots.push s } =
      c.expandedGavs ++ if s.info.winner.isNone then [s.info.coordinate.gav] else [] := by
  unfold Collection.expandedGavs
  rw [Array.toList_push, List.drop_append_of_le_length (by simp; omega), List.filterMap_append]
  cases winner : s.info.winner <;> simp [winner]

theorem Collection.expandedGavs_expandWith {c : Collection} (rooted : 0 < c.slots.size) (p : Pending)
    (dep : Dependency) {info : NodeInfo} (fresh : info.winner = none) (project : Model) :
    (c.expandWith p dep info project).expandedGavs = c.expandedGavs ++ [info.coordinate.gav] := by
  have pushed := Collection.expandedGavs_push rooted ⟨info, some p.parent⟩
  simp only [fresh, Option.isNone_none, if_true] at pushed
  exact pushed

/-- What every collection the loop reaches satisfies: recorded indices point at nodes, every
expanded coordinate is declared and its descriptor describes a project, none is expanded twice,
each expanded version of an artifact leads by strictly newer declared versions to the version
that won last, and every waiting dependency is declared by the root or a described project. -/
structure Collection.Ordered (store : Store) (repo : Repository) (project : Model) (c : Collection) : Prop where
  rooted : 0 < c.slots.size
  indexed : c.Indexed
  resolved : ∀ g ∈ c.expandedGavs, Declared store repo project g ∧ ∃ m, Resolved store repo g m
  distinct : c.expandedGavs.Nodup
  leads : ∀ g ∈ c.expandedGavs, ∃ v, c.winner g.key = some v ∧
    Relation.ReflTransGen (DeclaredNewer store repo project g.key) g.version v.coordinate.version
  queued : ∀ p ∈ c.queue, Queued store repo project p

theorem compareVersions_eq_gt {a b : String} :
    compareVersions a b = .ok .gt ↔ Version.compareVersionTexts a b = .ok .gt := by
  unfold compareVersions
  cases Version.compareVersionTexts a b <;> simp [Except.mapError]

section Ordered

variable {store : Store} {repo : Repository} {project : Model} {c : Collection}

theorem Collection.Ordered.start (store : Store) (repo : Repository) (project : Model) :
    (Collection.start project).Ordered store repo project := by
  have empty : (Collection.start project).expandedGavs = [] := rfl
  refine ⟨by simp [Collection.start], fun e member => by simp [Collection.start] at member, ?_, ?_, ?_, ?_⟩
  · simp [empty]
  · simp [empty]
  · simp [empty]
  · intro p queued
    simp only [Collection.start, List.mem_map] at queued
    obtain ⟨d, member, rfl⟩ := queued
    exact .inl ⟨rfl, member⟩

theorem Collection.Ordered.pop (ordered : c.Ordered store repo project) {p : Pending} {rest : List Pending}
    (queue : c.queue = p :: rest) :
    Collection.Ordered store repo project { c with queue := rest } ∧ Queued store repo project p := by
  have waiting : ∀ q ∈ c.queue, Queued store repo project q := ordered.queued
  rw [queue] at waiting
  exact ⟨⟨ordered.rooted, ordered.indexed, ordered.resolved, ordered.distinct, ordered.leads,
    fun q member => waiting q (List.mem_cons_of_mem p member)⟩, waiting p List.mem_cons_self⟩

theorem Collection.Ordered.leaf (ordered : c.Ordered store repo project) {info : NodeInfo}
    (omitted : info.winner.isSome) (parent : Option Nat) :
    Collection.Ordered store repo project { c with slots := c.slots.push ⟨info, parent⟩ } := by
  have same : Collection.expandedGavs { c with slots := c.slots.push ⟨info, parent⟩ } = c.expandedGavs := by
    rw [Collection.expandedGavs_push ordered.rooted]
    simp [Option.isSome_iff_ne_none.mp omitted]
  refine ⟨by simp, ordered.indexed.push _, ?_, ?_, ?_, ordered.queued⟩
  · rw [same]
    exact ordered.resolved
  · rw [same]
    exact ordered.distinct
  · intro g member
    rw [same] at member
    rw [Collection.winner_push ordered.indexed]
    exact ordered.leads g member

theorem Collection.Ordered.expand (ordered : c.Ordered store repo project)
    (acyclic : ∀ key v, ¬ Relation.TransGen (DeclaredNewer store repo project key) v v)
    {p : Pending} (queued : Queued store repo project p) {info : NodeInfo} {m : Model}
    (resolved : Resolved store repo (p.effective project.managed).gav m)
    (newer : ∀ v, c.winner (p.effective project.managed).gav.key = some v →
      compareVersions (p.effective project.managed).gav.version v.coordinate.version = .ok .gt)
    (coordinate : info.coordinate.gav = (p.effective project.managed).gav) (fresh : info.winner = none) :
    (p.effective project.managed).gav ∉ c.expandedGavs ∧
      (c.expandWith p (p.effective project.managed) info m).Ordered store repo project := by
  set g := (p.effective project.managed).gav
  have declared : Declared store repo project g := queued.declared
  have step : ∀ v, c.winner g.key = some v → DeclaredNewer store repo project g.key v.coordinate.version g.version :=
    fun v won => ⟨⟨g, declared, rfl, rfl⟩, compareVersions_eq_gt.mp (newer v won)⟩
  have version : info.coordinate.version = g.version := congrArg Gav.version coordinate
  -- An earlier expansion of the same coordinate would close a cycle through the last winner.
  have unseen : g ∉ c.expandedGavs := by
    intro member
    obtain ⟨v, won, chain⟩ := ordered.leads g member
    exact acyclic _ _ (Relation.TransGen.tail' chain (step v won))
  have grown := Collection.expandedGavs_expandWith ordered.rooted p (p.effective project.managed) fresh m
  rw [coordinate] at grown
  refine ⟨unseen, by simp [Collection.expandWith], ordered.indexed.expandWith p _ info m, ?_, ?_, ?_, ?_⟩
  · intro g' member
    rw [grown, List.mem_append, List.mem_singleton] at member
    rcases member with old | rfl
    · exact ordered.resolved g' old
    · exact ⟨declared, m, resolved⟩
  · rw [grown, List.nodup_append]
    refine ⟨ordered.distinct, List.nodup_singleton _, fun g' old b single same => ?_⟩
    rw [List.mem_singleton] at single
    exact unseen (single ▸ same ▸ old)
  · intro g' member
    rw [grown, List.mem_append, List.mem_singleton] at member
    rcases member with old | rfl
    · obtain ⟨v, won, chain⟩ := ordered.leads g' old
      by_cases same : g'.key = g.key
      · rw [same, Collection.winner_expandWith_self]
        rw [same] at won chain
        exact ⟨info, rfl, version ▸ chain.tail (step v won)⟩
      · rw [Collection.winner_expandWith_other ordered.indexed p _ info m same]
        exact ⟨v, won, chain⟩
    · rw [Collection.winner_expandWith_self]
      exact ⟨info, rfl, version ▸ Relation.ReflTransGen.refl⟩
  · -- The new dependencies wait below the new node, declared by the project just resolved.
    intro q member
    simp only [Collection.expandWith, List.mem_append, List.mem_map] at member
    rcases member with old | ⟨sub, declares, rfl⟩
    · exact ordered.queued q old
    · exact .inr ⟨Nat.pos_iff_ne_zero.mp ordered.rooted, _, m, resolved.2, declares⟩

theorem Collection.Ordered.takes (ordered : c.Ordered store repo project)
    (acyclic : ∀ key v, ¬ Relation.TransGen (DeclaredNewer store repo project key) v v)
    {p : Pending} (queued : Queued store repo project p) {c' : Collection}
    (took : c.Takes project.managed (Resolved store repo) p c') :
    c'.Ordered store repo project ∧ ((c'.expandedGavs = c.expandedGavs ∧ c'.queue = c.queue) ∨
      ∃ m, (∃ path, Describes store repo path m) ∧
        c'.expandedGavs.length = c.expandedGavs.length + 1 ∧
        c'.queue.length = c.queue.length + m.dependencies.length) := by
  cases took with
  | skip _ => exact ⟨ordered, .inl ⟨rfl, rfl⟩⟩
  | leaf info w order _ _ _ _ _ named _ =>
    have omitted : info.winner.isSome := by simp [named]
    refine ⟨ordered.leaf omitted _, .inl ⟨?_, rfl⟩⟩
    rw [Collection.expandedGavs_push ordered.rooted]
    simp [Option.isSome_iff_ne_none.mp omitted]
  | expand m info _ resolved newer coordinate fresh _ =>
    have coordinate' : info.coordinate.gav = (p.effective project.managed).gav := by
      rw [coordinate, Pending.coordinate_gav]
    obtain ⟨-, ordered'⟩ := ordered.expand acyclic queued resolved newer coordinate' fresh
    refine ⟨ordered', .inr ⟨m, ⟨_, resolved.2⟩, ?_, ?_⟩⟩
    · rw [Collection.expandedGavs_expandWith ordered.rooted p _ fresh m, List.length_append, List.length_singleton]
    · simp [Collection.expandWith]

end Ordered

def Collection.remaining (expansions perProject : Nat) (c : Collection) : Nat :=
  c.queue.length + (expansions - c.expandedGavs.length) * perProject

section Stops

variable {store : Store} {repo : Repository} {project : Model} {covered : List Gav} {perProject : Nat}

end Stops

section Standard

variable {store : Store} {repo : Repository} {project : Model} {key : String}

end Standard

end PluginPack.Resolve
