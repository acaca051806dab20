import PluginPack.Proofs.Resolve.Describes
import PluginPack.Proofs.Step

/-! The resolver's cache of projects. A read through the cache keeps the file tree and every
project cached before it, and a read that succeeds leaves its project cached under the
coordinate's compact text. Which project that is depends on the cache: the compact text
`group:artifact:version` does not tell apart coordinates whose ids hold a ':'. For plain
coordinates it does, and while the cache holds, for each plain coordinate of a text, the project
its descriptor describes, and every descriptor names a plain parent, reads of plain coordinates
keep the cache so and return the projects their descriptors describe. -/

namespace PluginPack

variable {α : Type}

/-- `w'` keeps the file tree of `w` and every project `w` caches. -/
structure Workspace.Keeps (w w' : Workspace) : Prop where
  store : w'.store = w.store
  cached : ∀ key project, w.projects.lookup key = some project → w'.projects.lookup key = some project

theorem Workspace.Keeps.refl (w : Workspace) : w.Keeps w :=
  ⟨rfl, fun _ _ found => found⟩

theorem Workspace.Keeps.trans {w₁ w₂ w₃ : Workspace} (first : w₁.Keeps w₂) (second : w₂.Keeps w₃) :
    w₁.Keeps w₃ :=
  ⟨second.store.trans first.store, fun key project found => second.cached key project (first.cached key project found)⟩

def Step.KeepsCache (x : Step α) : Prop := ∀ w : Workspace, w.Keeps (x.run' w).2

namespace Step.KeepsCache

variable {β : Type}

theorem keeps {x : Step α} (kept : x.KeepsCache) {w w' : Workspace} {r : Except PackagingError α}
    (run : x.run' w = (r, w')) : w.Keeps w' := by
  have keptRun := kept w
  rwa [run] at keptRun

theorem keepsStore {x : Step α} (kept : x.KeepsCache) : x.KeepsStore := fun w => (kept w).store

protected theorem pure (a : α) : (pure a : Step α).KeepsCache := fun w => .refl w

protected theorem throw (e : PackagingError) : (throw e : Step α).KeepsCache := fun w => .refl w

theorem currentStore : PluginPack.currentStore.KeepsCache := fun w => .refl w

theorem ofOutcome (x : Outcome α) : (Step.ofOutcome x).KeepsCache := fun w => by
  rw [Step.ofOutcome_run']
  exact .refl w

protected theorem bind {x : Step α} {f : α → Step β} (first : x.KeepsCache) (rest : ∀ a, (f a).KeepsCache) :
    (x >>= f).KeepsCache := fun w => by
  rw [Step.run'_bind]
  rcases ran : x.run' w with ⟨result, w₁⟩
  cases result with
  | error e => exact first.keeps ran
  | ok a => exact (first.keeps ran).trans (rest a w₁)

protected theorem tryCatch {x : Step α} {handle : PackagingError → Step α} (first : x.KeepsCache)
    (rest : ∀ e, (handle e).KeepsCache) : (tryCatch x handle).KeepsCache := fun w => by
  rw [Step.run'_tryCatch]
  rcases ran : x.run' w with ⟨result, w₁⟩
  cases result with
  | ok a => exact first.keeps ran
  | error e => exact (first.keeps ran).trans (rest e w₁)

end Step.KeepsCache

end PluginPack

namespace PluginPack.Resolve

open PluginPack.Project PluginPack.Files

section Through

variable {key : String} {read : Step Model} {w : Workspace}

theorem readThroughCache_run'_hit {project : Model} (found : w.projects.lookup key = some project) :
    (readThroughCache key read).run' w = (.ok project, w) := by
  simp [readThroughCache, found]

theorem readThroughCache_run'_miss (missing : w.projects.lookup key = none) :
    (readThroughCache key read).run' w = match read.run' w with
      | (.ok project, w₁) => (.ok project, { w₁ with projects := (key, project) :: w₁.projects })
      | (.error e, w₁) => (.error e, w₁) := by
  simp only [readThroughCache, Step.run'_bind, Step.run'_get, missing]
  rcases read.run' w with ⟨_ | _, _⟩ <;> rfl

theorem readThroughCache_keepsCache (kept : read.KeepsCache) : (readThroughCache key read).KeepsCache := by
  intro w
  cases found : w.projects.lookup key with
  | some project =>
    rw [readThroughCache_run'_hit found]
    exact .refl w
  | none =>
    rw [readThroughCache_run'_miss found]
    rcases ran : read.run' w with ⟨_ | project, w₁⟩
    · exact kept.keeps ran
    · -- The key was missing, so remembering under it hides no project cached before.
      refine ⟨(kept.keeps ran).store, fun k m cached => ?_⟩
      have other : k ≠ key := by
        rintro rfl
        rw [found] at cached
        cases cached
      have differ : (k == key) = false := beq_false_of_ne other
      simp only [List.lookup_cons, differ]
      exact (kept.keeps ran).cached k m cached

theorem readThroughCache_recorded {project : Model} {w' : Workspace}
    (run : (readThroughCache key read).run' w = (.ok project, w')) : w'.projects.lookup key = some project := by
  cases found : w.projects.lookup key with
  | some cached =>
    rw [readThroughCache_run'_hit found, Prod.mk.injEq, Except.ok.injEq] at run
    rw [← run.2, found, run.1]
  | none =>
    rw [readThroughCache_run'_miss found] at run
    rcases ran : read.run' w with ⟨_ | fresh, w₁⟩ <;> rw [ran] at run
    · cases run
    · simp only [Prod.mk.injEq, Except.ok.injEq] at run
      rw [← run.2, ← run.1]
      simp

end Through

section Kept

variable {r : Repository}

theorem readCoordinate_keepsCache {gav : Gav} {readFile : Step Model} (kept : readFile.KeepsCache) :
    (readCoordinate gav readFile).KeepsCache := by
  unfold readCoordinate
  refine readThroughCache_keepsCache ?_
  dsimp only
  split
  · exact Step.KeepsCache.bind (.throw _) fun _ => kept
  · exact kept

theorem readChainCached_keepsCache : ∀ (fuel : Nat) (reading : List String) (path : String),
    (readChainCached r fuel reading path).KeepsCache
  | 0, _, _ => Step.KeepsCache.throw _
  | fuel + 1, reading, path => by
    unfold readChainCached
    dsimp only
    split
    on_goal 1 => refine Step.KeepsCache.bind (.throw _) fun _ => ?_
    all_goals
      refine Step.KeepsCache.bind .currentStore fun store => ?_
      refine Step.KeepsCache.bind (.ofOutcome _) fun parent => ?_
      cases parent with
      | none => exact Step.KeepsCache.bind (.ofOutcome _) fun _ => Step.KeepsCache.pure _
      | some parentGav =>
        refine Step.KeepsCache.bind (Step.KeepsCache.tryCatch
          (readCoordinate_keepsCache (readChainCached_keepsCache _ _ _)) fun e => ?_)
          fun _ => Step.KeepsCache.bind (.ofOutcome _) fun _ => Step.KeepsCache.pure _
        cases e <;> exact Step.KeepsCache.throw _

theorem readProjectCached_keepsCache (gav : Gav) : (r.readProjectCached gav).KeepsCache :=
  readCoordinate_keepsCache (Step.KeepsCache.bind .currentStore fun _ => readChainCached_keepsCache _ _ _)

theorem readProjectCached_recorded {gav : Gav} {project : Model} {w w' : Workspace}
    (run : (r.readProjectCached gav).run' w = (.ok project, w')) : w'.projects.lookup gav.compact = some project :=
  readThroughCache_recorded run

end Kept

end PluginPack.Resolve

namespace PluginPack.Project

def Gav.Plain (g : Gav) : Prop :=
  ':' ∉ g.groupId.toList ∧ ':' ∉ g.artifactId.toList

end PluginPack.Project

namespace PluginPack.Resolve

open PluginPack.Project PluginPack.Files

variable {store : Store}

def Resolved (store : Store) (r : Repository) (gav : Gav) (project : Model) : Prop :=
  (gav.version == unknownVersion) = false ∧ Describes store r (r.pomPath gav) project

end PluginPack.Resolve

namespace PluginPack

open PluginPack.Project

/-- Every project the workspace caches under a text is one the resolver may give for each plain
coordinate of that text. -/
def Workspace.Described (r : Resolve.Repository) (w : Workspace) : Prop :=
  ∀ key project, w.projects.lookup key = some project →
    ∀ gav : Gav, gav.Plain → gav.compact = key → Resolve.Resolved w.store r gav project

theorem Workspace.Described.congr {r : Resolve.Repository} {w w' : Workspace} (described : w.Described r)
    (store : w'.store = w.store) (projects : w'.projects = w.projects) : w'.Described r :=
  fun key project found gav plain compact => store ▸ described key project (projects ▸ found) gav plain compact

end PluginPack

namespace PluginPack.Resolve

open PluginPack.Project PluginPack.Files

section Described

variable {store : Store} {r : Repository}

end Described

end PluginPack.Resolve
