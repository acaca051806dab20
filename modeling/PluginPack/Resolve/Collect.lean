import PluginPack.Journal
import PluginPack.Resolve.Repository
import PluginPack.Resolve.Tree
import PluginPack.Version.Parse

/-!
Collecting the resolved dependency tree of a project, breadth first.

Direct dependencies are taken as declared. A transitive dependency first takes
version and scope from the root's dependency management; optional ones and those
in test or provided scope are dropped, and so are those that an exclusion on the
way down names. Its scope follows `deriveScope`. The first occurrence of a
`group:artifact` is expanded, and so is every later occurrence with a strictly
newer version; any other occurrence is kept as an omitted leaf that records the
version that won. The tree is reported at debug level when it is complete.
-/

namespace PluginPack.Resolve

open PluginPack.Project
open PluginPack.Artifact

def compareVersions (a b : String) : Outcome Ordering :=
  (Version.compareVersionTexts a b).mapError fun e => .invalidValue e.message

structure Slot where
  info : NodeInfo
  parent : Option Nat
  deriving Inhabited

/-- A dependency waiting to be collected below the node at `parent`, with the
exclusions that hold on its path. -/
structure Pending where
  parent : Nat
  dependency : Dependency
  exclusions : List Exclusion

/-- The state of a collection: the nodes in the order they were made, the queue,
and the node that each `group:artifact` text was last expanded at. -/
structure Collection where
  slots : Array Slot
  queue : List Pending
  expanded : List (String × Nat) := []

def manageDependency (managed : List Dependency) (dep : Dependency) : Dependency :=
  match managedEntry managed dep.managementKey with
  | none => dep
  | some m =>
    { dep with
      gav := if m.gav.version != unknownVersion && m.gav.version != dep.gav.version then
          { dep.gav with version := m.gav.version } else dep.gav
      scope := if m.scope.isSome then m.scope else dep.scope }

def Pending.effective (managed : List Dependency) (p : Pending) : Dependency :=
  if p.parent == 0 then p.dependency else manageDependency managed p.dependency

def Pending.skipped (managed : List Dependency) (p : Pending) : Bool :=
  let dep := p.effective managed
  let declaredScope := dep.scope.getD "compile"
  (p.parent != 0 && (dep.optional == some true || declaredScope == "test" || declaredScope == "provided")) ||
    p.exclusions.any fun ex => ex.matches dep.gav.groupId dep.gav.artifactId

/-- The coordinate a pending dependency is collected at: its scope as declared on the
first level, and below it derived from the scope of the node that brings it. -/
def Pending.coordinate (managed : List Dependency) (parent : NodeInfo) (p : Pending) : Coordinate :=
  let dep := p.effective managed
  let declaredScope := dep.scope.getD "compile"
  let scope := if p.parent == 0 then declaredScope else deriveScope parent.coordinate.scope declaredScope
  { groupId := dep.gav.groupId, artifactId := dep.gav.artifactId, version := dep.gav.version,
    type := dep.type, classifier := dep.classifier, scope := some scope,
    optional := dep.optional == some true }

def Collection.winner (c : Collection) (key : String) : Option NodeInfo :=
  (c.expanded.find? (·.1 == key)).map fun (_, i) => (c.slots.getD i default).info

def Collection.take (repo : Repository) (managed : List Dependency) (c : Collection) (p : Pending) :
    Step Collection := do
  let store ← currentStore
  let parent := (c.slots.getD p.parent default).info
  let dep := p.effective managed
  if p.skipped managed then
    return c
  let coordinate := p.coordinate managed parent
  if dep.gav.version == unknownVersion then
    throw (.unresolved ("Cannot resolve the version of " ++ dep.gav.key ++ " (required by " ++ parent.id ++ ")"))
  let project ← repo.readProjectCached dep.gav
  let key := dep.gav.key
  let winner := c.winner key
  let newer ← match winner with
    | some w => do pure ((← Step.ofOutcome (compareVersions dep.gav.version w.coordinate.version)) == .gt)
    | none => pure true
  match winner with
  | some w =>
    if !newer then
      let file := match repo.artifactFile store coordinate with
        | .ok f => some f
        | .error _ => none
      if file.isNone then report .debug ("No file for omitted " ++ coordinate.id)
      let info : NodeInfo := {
        coordinate := coordinate, file := file, packaging := some project.packaging,
        exclusions := dep.exclusions, winner := some w.coordinate.version }
      return { c with slots := c.slots.push ⟨info, some p.parent⟩ }
    else pure ()
  | none => pure ()
  let file ← Step.ofOutcome (repo.artifactFile store coordinate)
  let info : NodeInfo := {
    coordinate := coordinate, file := some file, packaging := some project.packaging,
    exclusions := dep.exclusions }
  if let some w := winner then
    report .debug (coordinate.id ++ " supersedes " ++ w.coordinate.id)
  let index := c.slots.size
  let below := project.dependencies.map fun sub => ⟨index, sub, p.exclusions ++ dep.exclusions⟩
  pure { slots := c.slots.push ⟨info, some p.parent⟩, queue := c.queue ++ below,
         expanded := putAssoc c.expanded key index }
where
  putAssoc (xs : List (String × Nat)) (k : String) (v : Nat) :=
    if xs.any (·.1 == k) then xs.map fun e => if e.1 == k then (k, v) else e else xs ++ [(k, v)]

def Collection.drain (repo : Repository) (managed : List Dependency) : Nat → Collection → Step Collection
  | 0, c => pure c
  | fuel + 1, c =>
    match c.queue with
    | [] => pure c
    | p :: rest => do
      let c' ← Collection.take repo managed { c with queue := rest } p
      Collection.drain repo managed fuel c'

def treeAt (slots : Array Slot) : Nat → Nat → Tree
  | 0, i => .node (slots.getD i default).info []
  | fuel + 1, i =>
    let children := (List.range slots.size).filter fun j => (slots.getD j default).parent == some i
    .node (slots.getD i default).info (children.map (treeAt slots fuel))

def Collection.start (project : Model) : Collection :=
  let root : NodeInfo := {
    coordinate := { groupId := project.gav.groupId, artifactId := project.gav.artifactId,
                    version := project.gav.version, type := project.packaging }
    packaging := some project.packaging }
  { slots := #[⟨root, none⟩], queue := project.dependencies.map fun d => ⟨0, d, []⟩ }

def declaredCount : Files.Entry → Nat
  | .file bytes _ =>
    match Xml.parseDocument bytes with
    | .ok root => (elementsAt root ["dependencies", "dependency"]).length
    | .error _ => 0
  | .dir _ => 0

def mostDeclared (store : Files.Store) : Nat :=
  (store.entries.map fun e => declaredCount e.2).max?.getD 0

def mostCached (w : Workspace) : Nat :=
  (w.projects.map fun e => e.2.dependencies.length).max?.getD 0

def collectionBound (w : Workspace) (direct : Nat) : Nat :=
  let perProject := (w.store.entries.length + 1) * mostDeclared w.store + mostCached w
  let coordinates := direct + (w.store.entries.length + w.projects.length) * perProject
  direct + coordinates * perProject

def reportTree (tree : Tree) : Step Unit := do
  report .debug "--- resolved tree start ---"
  for (n, depth) in tree.preorder do
    report .debug (String.join (List.replicate depth "    ") ++ n.label)
  report .debug "--- resolved tree end ---"

def collect (repo : Repository) (project : Model) : Step Tree := do
  let w ← get
  let done ← Collection.drain repo project.managed (collectionBound w project.dependencies.length)
    (Collection.start project)
  let tree := treeAt done.slots done.slots.size 0
  reportTree tree
  pure tree

end PluginPack.Resolve
