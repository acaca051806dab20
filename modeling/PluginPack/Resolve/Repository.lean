import PluginPack.Artifact.Coordinate
import PluginPack.Journal
import PluginPack.Project.Pom

/-!
A local repository of artifacts, laid out as `group/with/slashes/artifact/version/`.

Reading a project's descriptor follows its parent chain: the parent's properties
are inherited, its managed dependencies and dependencies are added after the
child's own unless the child declares the same key, and licences, developers and
URL fall back to the parent's. Then the project's own dependency management fills
in missing versions, scopes and exclusions of its dependencies. Modules of a build
in progress (the reactor) take precedence over the repository when files are
looked up.

`readProject` and `readProjectFile` read afresh. The resolver itself reads through the
workspace's cache of projects, keyed by the compact text `group:artifact:version`: a
coordinate read once is never read again, parents included, and a failed read keeps what
was cached on the way.
-/

namespace PluginPack.Resolve

open PluginPack.Project
open PluginPack.Artifact

structure Repository where
  root : String
  reactor : List (String × String) := []
  deriving Inhabited

namespace Repository

def base (r : Repository) (groupId artifactId version : String) : String :=
  Files.Path.joinAll r.root [String.intercalate "/" ((groupId.toList.splitOn '.').map String.ofList), artifactId, version]

def pomPath (r : Repository) (gav : Gav) : String :=
  Files.Path.join (r.base gav.groupId gav.artifactId gav.version) (gav.artifactId ++ "-" ++ gav.version ++ ".pom")

end Repository

def managedEntry (managed : List Dependency) (key : String × String × String × Option String) :
    Option Dependency :=
  (managed.filter (·.managementKey == key)).getLast?

/-- Fills in missing versions, scopes and exclusions of a project's dependencies
from its own dependency management. -/
def applyManagement (m : Model) : Model :=
  { m with dependencies := m.dependencies.map fun dep =>
      match managedEntry m.managed dep.managementKey with
      | none => dep
      | some entry =>
        { dep with
          gav := if dep.gav.version == unknownVersion then { dep.gav with version := entry.gav.version } else dep.gav
          scope := if dep.scope.isNone && entry.scope.isSome then entry.scope else dep.scope
          exclusions := if dep.exclusions.isEmpty && !entry.exclusions.isEmpty then entry.exclusions
            else dep.exclusions } }

def mergeParent (child parent : Model) : Model :=
  let own := child.managed.map (·.managementKey)
  let declared := child.dependencies.map fun d => (d.gav.groupId, d.gav.artifactId)
  { child with
    dependencies := child.dependencies ++ parent.dependencies.filter fun d =>
      !declared.contains (d.gav.groupId, d.gav.artifactId)
    managed := child.managed ++ parent.managed.filter fun d => !own.contains d.managementKey
    properties := (OrderedMap.ofList (parent.properties ++ child.properties)).toList
    licenses := if child.licenses.isEmpty then parent.licenses else child.licenses
    developers := if child.developers.isEmpty then parent.developers else child.developers
    url := match child.url with
      | some u => if u.isEmpty then parent.url else some u
      | none => parent.url }

/-- Reads the descriptor at a path with its parent chain; `reading` holds the
descriptors whose reading is under way, and `fuel` bounds the chain by the number
of entries in the file tree. -/
def readChain (store : Files.Store) (r : Repository) (fuel : Nat) (reading : List String)
    (path : String) : Outcome Model := do
  match fuel with
  | 0 => throw .parentCycle
  | fuel + 1 =>
    if reading.contains (Files.Path.normalize path) then throw .parentCycle
    match ← parentOf store path with
    | none => pure (applyManagement (← modelOf store path []))
    | some parentGav =>
      let read : Outcome Model :=
        if parentGav.version == unknownVersion then
          .error (.unresolved ("Cannot resolve the version of " ++ parentGav.key))
        else readChain store r fuel (Files.Path.normalize path :: reading) (r.pomPath parentGav)
      let parent ← match read with
        | .error (.pomNotFound _) =>
          throw (.unresolved ("Parent " ++ parentGav.compact ++ " of " ++ path ++ " is not available"))
        | other => other
      let child ← modelOf store path parent.properties
      pure (applyManagement (mergeParent child parent))

def readProjectAt (store : Files.Store) (r : Repository) (fuel : Nat) (reading : List String)
    (gav : Gav) : Outcome Model :=
  if gav.version == unknownVersion then .error (.unresolved ("Cannot resolve the version of " ++ gav.key))
  else readChain store r fuel reading (r.pomPath gav)

def Repository.readProjectFile (r : Repository) (store : Files.Store) (path : String) : Outcome Model :=
  readChain store r (store.entries.length + 1) [] path

def Repository.readProject (r : Repository) (store : Files.Store) (gav : Gav) : Outcome Model :=
  readProjectAt store r (store.entries.length + 1) [] gav

/-- The project cached under `key`, or else the outcome of `read`, cached under `key` when it
succeeds. -/
def readThroughCache (key : String) (read : Step Model) : Step Model := do
  match (← get).projects.lookup key with
  | some project => pure project
  | none =>
    let project ← read
    modify fun w => { w with projects := (key, project) :: w.projects }
    pure project

def readCoordinate (gav : Gav) (readFile : Step Model) : Step Model :=
  readThroughCache gav.compact do
    if gav.version == unknownVersion then
      throw (.unresolved ("Cannot resolve the version of " ++ gav.key))
    readFile

/-- `readChain` as the resolver runs it, with every parent read through the cache. -/
def readChainCached (r : Repository) : Nat → List String → String → Step Model
  | 0, _, _ => throw .parentCycle
  | fuel + 1, reading, path => do
    if reading.contains (Files.Path.normalize path) then throw .parentCycle
    let store ← currentStore
    match ← Step.ofOutcome (parentOf store path) with
    | none => pure (applyManagement (← Step.ofOutcome (modelOf store path [])))
    | some parentGav =>
      let parent ← tryCatch
        (readCoordinate parentGav
          (readChainCached r fuel (Files.Path.normalize path :: reading) (r.pomPath parentGav)))
        fun
          | .pomNotFound _ =>
            throw (.unresolved ("Parent " ++ parentGav.compact ++ " of " ++ path ++ " is not available"))
          | e => throw e
      let child ← Step.ofOutcome (modelOf store path parent.properties)
      pure (applyManagement (mergeParent child parent))

def Repository.readProjectFileCached (r : Repository) (path : String) : Step Model := do
  readChainCached r ((← currentStore).entries.length + 1) [] path

def Repository.readProjectCached (r : Repository) (gav : Gav) : Step Model :=
  readCoordinate gav (r.readProjectFileCached (r.pomPath gav))

/-- The file of an artifact: a reactor module's path, the descriptor for `pom`
artifacts, or else `artifact-version[-classifier].ext`, which must exist. -/
def Repository.artifactFile (r : Repository) (store : Files.Store) (c : Coordinate) : Outcome String :=
  match r.reactor.find? (·.1 == c.groupId ++ ":" ++ c.artifactId) with
  | some (_, path) => .ok path
  | none =>
    if c.type == "pom" then .ok (r.pomPath c.gav)
    else
      let name := c.artifactId ++ "-" ++ c.version ++
        (if c.hasClassifier then "-" ++ c.classifier.getD "" else "")
      let path := Files.Path.join (r.base c.groupId c.artifactId c.version) (name ++ "." ++ c.extension)
      if store.present path then .ok path
      else .error (.unresolved ("Artifact " ++ c.id ++ " not found at " ++ path))

/-- The scope a transitive dependency gets from the scope of the dependency that
brings it: test and system scopes stay; below compile (or the root) the declared
scope stays; below test or runtime the parent's scope wins; below system or
provided it is provided; below anything else it is runtime. -/
def deriveScope (parentScope : Option String) (childScope : String) : String :=
  if childScope == "system" || childScope == "test" then childScope
  else
    match parentScope with
    | none => childScope
    | some p =>
      if p.isEmpty || p == "compile" then childScope
      else if p == "test" || p == "runtime" then p
      else if p == "system" || p == "provided" then "provided"
      else "runtime"

end PluginPack.Resolve
