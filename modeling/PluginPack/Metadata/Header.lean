import PluginPack.Config
import PluginPack.Metadata.Dependencies
import PluginPack.Metadata.Extensions
import PluginPack.Metadata.Git
import PluginPack.Metadata.Version

/-!
The metadata header of a packaged component, gathered from its project model,
the settings, its direct dependencies, its compiled classes and its git checkout.

The parts are computed in a fixed order, which decides the failure that is
reported when several parts fail: the plugin version, the extension index, the
plugin class, the host core version and last the plugin dependencies. Git
information is read only for projects whose scm connection is a git one.
-/

namespace PluginPack.Metadata

open PluginPack.Artifact

def modulePackaging : String := "jenkins-module"

def usesGit (project : Project.Model) : Bool :=
  match project.scm.connection with
  | some c => c.startsWith "scm:git"
  | none => false

def gitHeadHash (store : Files.Store) (searchRoot : String) (project : Project.Model) (basedir : String) :
    Option String :=
  if !usesGit project then none
  else (Git.commitOf store searchRoot basedir).filter fun h => h.length ≥ 8

/-- The project directory relative to the top of its work tree; none at the top,
and none with a warning when the project lies outside the work tree. -/
def modulePath (store : Files.Store) (searchRoot : String) (project : Project.Model) (basedir : String) :
    Step (Option String) :=
  if !usesGit project then pure none
  else
    match Git.topLevelOf store searchRoot basedir with
    | none => pure none
    | some top =>
      match Files.Path.relativeTo? (store.resolve basedir) top with
      | none => do
        report .warning ("Project directory " ++ basedir ++ " is outside the git work tree " ++ top)
        pure none
      | some rel => pure (if rel.isEmpty || rel == "." then none else some rel)

/-- What a header is built from besides the project: when and by whom, and where
the checkout is searched for. -/
structure BuildContext where
  now : Time.Stamp
  user : String
  account : String
  searchRoot : String

def buildManifestHeader (project : Project.Model) (config : Config) (direct : List Facade)
    (classesDir basedir : String) (ctx : BuildContext) : Step Manifest.Header := do
  let store ← currentStore
  let gav := project.gav
  let gitHash := gitHeadHash store ctx.searchRoot project basedir
  let version ← resolvePluginVersion gav.version config.versionOverride config.failOnVersionOverride
  let pluginVersion :=
    pluginVersionString version config.versionDescription gitHash ctx.now ctx.user ctx.account
  let extensions ← Step.ofOutcome (readExtensionIndex store classesDir)
  let pluginClass ← Step.ofOutcome (readPluginClass store classesDir)
  let coreVersion ← findCoreVersion project config.coreId config.coreVersionOverride
  let dependencies ← pluginDependencies direct gav config.scopes
  let modulePath ← modulePath store ctx.searchRoot project basedir
  pure {
    pluginClass
    groupId := gav.groupId
    artifactId := gav.artifactId
    shortName := gav.artifactId
    longName := project.displayName
    url := project.url
    compatibleSinceVersion := config.compatibleSince
    sandboxStatus := config.sandboxStatus
    pluginVersion := if project.packaging == modulePackaging then none else some pluginVersion
    coreVersion := some coreVersion
    maskClasses := config.maskClasses
    globalMaskClasses := config.globalMaskClasses
    pluginFirstClassLoader := config.pluginFirstClassLoader
    dependencies
    developers := if project.developers.isEmpty then none else some (developersAttribute project.developers)
    supportDynamicLoading := mergeDynamicLoading (extensions.map (·.dynamicLoading))
    licenses := project.licenses.map fun l => (l.name, l.url)
    changelogUrl := project.properties.lookup "hpi.pluginChangelogUrl"
    logoUrl := project.properties.lookup "hpi.pluginLogoUrl"
    scmConnection := project.scm.connection
    scmTag := project.scm.tag
    scmUrl := project.scm.url
    gitHash
    modulePath }

end PluginPack.Metadata
