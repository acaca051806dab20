import PluginPack.Project.Coordinates

/-!
The model of a project: coordinates, packaging, dependencies and the metadata
that goes into a plugin's manifest.
-/

namespace PluginPack.Project

structure Developer where
  name : Option String := none
  id : Option String := none
  email : Option String := none
  deriving DecidableEq, Repr, Inhabited

structure License where
  name : Option String := none
  url : Option String := none
  deriving DecidableEq, Repr, Inhabited

structure Scm where
  connection : Option String := none
  tag : Option String := none
  url : Option String := none
  deriving DecidableEq, Repr, Inhabited

structure Model where
  gav : Gav
  packaging : String := "jar"
  name : Option String := none
  url : Option String := none
  dependencies : List Dependency := []
  managed : List Dependency := []
  properties : List (String × String) := []
  developers : List Developer := []
  licenses : List License := []
  scm : Scm := {}
  resources : List String := []
  finalName : Option String := none
  deriving Repr, Inhabited

def Model.displayName (m : Model) : String := m.name.getD m.gav.artifactId

def Model.buildFinalName (m : Model) : String :=
  m.finalName.getD (m.gav.artifactId ++ "-" ++ m.gav.version)

end PluginPack.Project
