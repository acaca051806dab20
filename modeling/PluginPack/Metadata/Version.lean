import PluginPack.Journal
import PluginPack.Project.Model
import PluginPack.Text.Blank
import PluginPack.Time.Stamp
import PluginPack.Version.Parse

/-!
The versions a packaged component records about itself and its host.

A snapshot version may be overridden, but only by a version that starts with the
release it is a snapshot of (`2.5-SNAPSHOT` may become `2.5-rc1-SNAPSHOT`, not
`2.6`); a version that is no snapshot is never overridden. A snapshot without a
description is described as a private build, stamped with the first eight
characters of the commit or else the build time, and the builder's name.

The host core version comes from the first direct dependency on the host core. A
core version override wins only when it is newer than that dependency's version;
without a core dependency the override is the answer, and without either there
is none.
-/

namespace PluginPack.Metadata

def snapshotSuffix : String := "-SNAPSHOT"

def resolvePluginVersion (version : String) (override : Option String) (failOnOtherRelease : Bool) :
    Step String := do
  match override with
  | none => pure version
  | some o =>
    if !version.endsWith snapshotSuffix then return version
    let release := String.ofList (version.toList.take (version.length - snapshotSuffix.length))
    if !o.startsWith release then
      let message := "The snapshot version override of " ++ o ++
        " does not start with the current target release version " ++ version
      if failOnOtherRelease then throw (.versionPolicy message)
      report .warning message
    report .info ("Snapshot version override enabled. Using " ++ o ++ " in place of " ++ version)
    pure o

def privateQualifier (gitHash : Option String) (now : Time.Stamp) (user : String) (account : String) :
    String :=
  let stamp := match gitHash with
    | some h => if h.isEmpty then now.shortForm else String.ofList (h.toList.take 8)
    | none => now.shortForm
  "private-" ++ stamp ++ "-" ++ (if user.isEmpty then account else user)

/-- The version with its description in brackets; a snapshot without a
description gets the private-build one. -/
def pluginVersionString (version : String) (description : Option String) (gitHash : Option String)
    (now : Time.Stamp) (user account : String) : String :=
  let description :=
    if version.endsWith snapshotSuffix && description.isNone then
      some (privateQualifier gitHash now user account)
    else description
  match description with
  | some d => version ++ " (" ++ d ++ ")"
  | none => version

def coreGroupIds : List String := ["org.jenkins-ci.main", "org.jvnet.hudson.main"]
def coreArtifactIds : List String := ["jenkins-core", "hudson-core"]

def isCore (coreId : Option String) (groupId artifactId : String) : Bool :=
  match coreId with
  | some id => groupId ++ ":" ++ artifactId == id
  | none => coreGroupIds.contains groupId && coreArtifactIds.contains artifactId

def versionBelow (a b : String) : Step Bool := do
  match Version.VersionNumber.parse a, Version.VersionNumber.parse b with
  | .ok v, .ok w => pure (v.compare w == .lt)
  | .error e, _ => throw (.invalidValue e.message)
  | _, .error e => throw (.invalidValue e.message)

def findCoreVersion (project : Project.Model) (coreId : Option String) (override : Option String) :
    Step String := do
  let override := override.filter fun o => !(Text.trim o).isEmpty
  match project.dependencies.find? fun d => isCore coreId d.gav.groupId d.gav.artifactId with
  | some dep =>
    let detected := dep.gav.version
    match override with
    | some o =>
      if ← versionBelow detected o then return o
      report .warning ("Ignoring core version override of " ++ o ++ " as the detected version, " ++
        detected ++ ", is newer. Please remove the redundant version override.")
      pure detected
    | none => pure detected
  | none =>
    match override with
    | some o => pure o
    | none => throw (.misconfigured "Failed to determine the host core version this component depends on.")

end PluginPack.Metadata
