import PluginPack.Artifact.Filter
import PluginPack.Assembly.Classpath
import PluginPack.Manifest.Header
import PluginPack.Project.Model

/-!
The plugins a component depends on, and the people who develop it, as its
manifest records them.

Of the direct dependencies, the project's own group and artifact are left out.
A plugin in `provided` scope is refused, since the host would not load it; the
plugins whose scope (compile when none) is needed at runtime are recorded under
their manifest's short name and plugin version, with their optional flag.
-/

namespace PluginPack.Metadata

open PluginPack.Artifact

def pluginDependencies (direct : List Facade) (project : Project.Gav) (scopes : List String) :
    Step (List Manifest.PluginDependency) := do
  let store ← currentStore
  let items := direct.filter fun a => !a.hasSameGa project.groupId project.artifactId
  let provided ← Step.ofOutcome (keepPlugins store (items.filter fun a => a.scope == some "provided"))
  if let some p := provided.head? then
    throw (.misconfigured (p.id ++
      " is marked as 'provided' scope dependency, but it should be the 'compile' scope."))
  let needed := items.filter fun a => scopes.contains (Assembly.effectiveScope a)
  let plugins ← Step.ofOutcome (keepPlugins store needed)
  plugins.mapM fun a => do
    let artifactId ← Step.ofOutcome (a.actualArtifactId store)
    let version ← Step.ofOutcome (a.actualVersion store)
    pure { artifactId, version, optional := a.optional }

def developersAttribute (developers : List Project.Developer) : String :=
  ",".intercalate (developers.map fun d =>
    d.name.getD "" ++ ":" ++ d.id.getD "" ++ ":" ++ d.email.getD "")

end PluginPack.Metadata
