/-!
Coordinates of projects and their declared dependencies.

A project is named by group, artifact and version; a version that could not be
determined is the word `Unknown`, and a version ending in `-SNAPSHOT` is a
development snapshot. A dependency adds its packaging type, classifier, scope,
optional flag and the exclusions that cut its transitive dependencies.
-/

namespace PluginPack.Project

def unknownVersion : String := "Unknown"

structure Gav where
  groupId : String
  artifactId : String
  version : String := unknownVersion
  deriving DecidableEq, Repr, Inhabited

def Gav.compact (g : Gav) : String := g.groupId ++ ":" ++ g.artifactId ++ ":" ++ g.version

def Gav.key (g : Gav) : String := g.groupId ++ ":" ++ g.artifactId

def Gav.isSnapshot (g : Gav) : Bool := g.version.endsWith "-SNAPSHOT"

structure Exclusion where
  groupId : String
  artifactId : String
  deriving DecidableEq, Repr, Inhabited

def Exclusion.matches (e : Exclusion) (groupId artifactId : String) : Bool :=
  (e.groupId == "*" || e.groupId == groupId) && (e.artifactId == "*" || e.artifactId == artifactId)

structure Dependency where
  gav : Gav
  type : String := "jar"
  classifier : Option String := none
  scope : Option String := none
  optional : Option Bool := none
  exclusions : List Exclusion := []
  deriving DecidableEq, Repr, Inhabited

def Dependency.managementKey (d : Dependency) : String × String × String × Option String :=
  (d.gav.groupId, d.gav.artifactId, d.type, d.classifier)

end PluginPack.Project
