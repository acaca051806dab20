import PluginPack.Assembly.Placement
import PluginPack.BuildMap
import PluginPack.Metadata.Header
import PluginPack.Traverse.Walk

/-!
A packaging session: one project, its settings and the dependency tree it
resolves to.

The tree is collected the first time a goal needs it and kept for the goals
that follow; a goal that fails keeps the session as it was before it ran. The
build directories follow the usual conventions: `target` below the project
directory holds the classes, the test classes and the exploded webapp named
after the final name.
-/

namespace PluginPack

open PluginPack.Artifact

structure Layout where
  basedir : String
  buildDir : String
  classesDir : String
  testClassesDir : String
  webappSource : String
  webappDir : String
  deriving Repr, Inhabited

def Layout.forProject (basedir : String) (project : Project.Model) : Layout :=
  let buildDir := Files.Path.join basedir "target"
  { basedir, buildDir
    classesDir := Files.Path.join buildDir "classes"
    testClassesDir := Files.Path.join buildDir "test-classes"
    webappSource := Files.Path.join basedir "src/main/webapp"
    webappDir := Files.Path.join buildDir project.buildFinalName }

def Layout.outputFile (l : Layout) (project : Project.Model) (suffix : String) : String :=
  Files.Path.join l.buildDir (project.buildFinalName ++ suffix)

structure Session where
  pom : String
  config : Config
  project : Project.Model
  layout : Layout
  context : Metadata.BuildContext
  root : Option Resolve.Tree := none

abbrev SessionStep := StateT Session Step

namespace Session

def repository (s : Session) : Resolve.Repository := { root := s.config.localRepository }

def start (pom : String) (config : Config) (context : Metadata.BuildContext) : Step Session := do
  let repo : Resolve.Repository := { root := config.localRepository }
  let project ← repo.readProjectFileCached pom
  pure { pom, config, project, context, layout := Layout.forProject (Files.Path.parent pom) project }

def tree : SessionStep Resolve.Tree := do
  let s ← get
  match s.root with
  | some t => pure t
  | none =>
    let t ← Resolve.collect s.repository s.project
    set { s with root := some t }
    pure t

mutual

def trailed (trail : List String) : Resolve.Tree → List (Resolve.NodeInfo × List String)
  | .node i cs => (i, trail ++ [i.id]) :: trailedForest (trail ++ [i.id]) cs

def trailedForest (trail : List String) : List Resolve.Tree → List (Resolve.NodeInfo × List String)
  | [] => []
  | t :: ts => trailed trail t ++ trailedForest trail ts

end

def facadeOf (node : Resolve.NodeInfo × List String) : Facade :=
  Facade.make node.1.coordinate node.1.file node.2 node.1.packaging

def directArtifacts : SessionStep (List Facade) := do
  let t ← tree
  pure ((t.children.filter fun c => !c.info.omitted).map fun c =>
    Facade.make c.info.coordinate c.info.file [t.info.id, c.info.id] c.info.packaging)

def newestVersions : List Resolve.NodeInfo → List ((String × String) × String) → Outcome (List ((String × String) × String))
  | [], acc => .ok acc
  | n :: rest, acc => do
    let key := n.coordinate.key
    match acc.lookup key with
    | none => newestVersions rest (acc ++ [(key, n.coordinate.version)])
    | some v =>
      if (← Resolve.compareVersions n.coordinate.version v) == .gt then
        newestVersions rest (acc.map fun e => if e.1 == key then (key, n.coordinate.version) else e)
      else newestVersions rest acc

def projectArtifacts : SessionStep (List Facade) := do
  let t ← tree
  let nodes := (trailedForest [t.info.id] t.children).filter fun (i, _) => !i.omitted
  let newest ← Step.ofOutcome (newestVersions (nodes.map (·.1)) [])
  pure ((nodes.filter fun (i, _) => newest.lookup i.coordinate.key == some i.coordinate.version).map facadeOf)

def policy (s : Session) (mode : Traverse.Mode) : Traverse.Policy where
  mode
  scopes := s.config.scopes
  includeOptional := s.config.includeOptional && mode == .plugins
  hostCore := Traverse.HostCore.ofCoreId s.config.coreId

def libraries : SessionStep Traverse.Selection := do
  let t ← tree
  Traverse.traverse t ((← get).policy .libraries)

def assembler (s : Session) : Assembly.Assembler where
  workDir := s.layout.buildDir
  hostCore := Traverse.HostCore.ofCoreId s.config.coreId
  scopes := s.config.scopes

def placements : SessionStep (List Assembly.Placement) := do
  let selection ← libraries
  Assembly.plan selection.bundled

def manifestHeader : SessionStep Manifest.Header := do
  let direct ← directArtifacts
  let s ← get
  Metadata.buildManifestHeader s.project s.config direct s.layout.classesDir s.layout.basedir s.context

def componentId (s : Session) : String :=
  let g := s.project.gav
  g.groupId ++ ":" ++ g.artifactId ++ ":" ++ s.project.packaging ++ ":" ++ g.version

def buildMap (s : Session) : BuildMap := ⟨s.config.workspaceMap⟩

end Session

end PluginPack
