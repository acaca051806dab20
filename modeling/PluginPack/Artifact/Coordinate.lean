import PluginPack.Project.Coordinates

/-!
Coordinates of one resolved dependency: group, artifact, version, type, optional
classifier, the scope it was resolved in and whether it is optional.

Its id is `group:artifact:type[:classifier]:version`, the form used in
dependency trails. Most types are stored under their own name as file
extension; a few share the extension of another type.
-/

namespace PluginPack.Artifact

open PluginPack.Project

def extensionFor (type : String) : String :=
  match type with
  | "ejb" | "ejb-client" | "test-jar" | "java-source" | "javadoc" | "maven-plugin" => "jar"
  | "executable-war" => "war"
  | other => other

structure Coordinate where
  groupId : String
  artifactId : String
  version : String
  type : String := "jar"
  classifier : Option String := none
  scope : Option String := none
  optional : Bool := false
  deriving DecidableEq, Repr, Inhabited

namespace Coordinate

def hasClassifier (c : Coordinate) : Bool :=
  match c.classifier with
  | some s => !s.isEmpty
  | none => false

def id (c : Coordinate) : String :=
  let classifier := match c.classifier with
    | some s => if s.isEmpty then [] else [s]
    | none => []
  ":".intercalate ([c.groupId, c.artifactId, c.type] ++ classifier ++ [c.version])

def key (c : Coordinate) : String × String := (c.groupId, c.artifactId)

def extension (c : Coordinate) : String := extensionFor c.type

def isSnapshot (c : Coordinate) : Bool := c.version.endsWith "-SNAPSHOT"

def gav (c : Coordinate) : Gav := { groupId := c.groupId, artifactId := c.artifactId, version := c.version }

end Coordinate

end PluginPack.Artifact
