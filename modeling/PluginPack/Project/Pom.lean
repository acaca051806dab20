import PluginPack.Data.OrderedMap
import PluginPack.Error
import PluginPack.Project.Model
import PluginPack.Project.Placeholder
import PluginPack.Text.Blank
import PluginPack.Text.Case
import PluginPack.Xml.Reader

/-!
Reading a project model from its descriptor (`pom.xml`).

Elements are found by local name, so the descriptor may use any namespace. A
value is the trimmed text at the start of the first element of its name; an empty
value counts as absent. Group, artifact and version of the project may fall back
to those of the parent. Coordinates, names, URLs, resource directories and the
final name expand property placeholders; a version that stays empty or keeps a
placeholder is `Unknown`.
-/

namespace PluginPack.Project

open PluginPack.Xml
open PluginPack.Text

def elementsAt (n : Node) : List String → List Node
  | [] => [n]
  | name :: rest => (n.childrenNamed name).flatMap fun c => elementsAt c rest

def textAt (n : Node) (names : List String) : Option String :=
  match elementsAt n names with
  | first :: _ =>
    let t := trim first.leadingText
    if t.isEmpty then none else some t
  | [] => none

def firstText (n : Node) (name : String) : Option String := textAt n [name]

def readFlag (value : Option String) : Option Bool :=
  value.bind fun v =>
    match lower (trim v) with
    | "true" => some true
    | "false" => some false
    | _ => none

def normalizeVersion (value : Option String) (props : List (String × String)) : String :=
  match value with
  | none => unknownVersion
  | some v =>
    let resolved := trim (expandPlaceholders props v)
    if resolved.isEmpty || hasPlaceholder resolved then unknownVersion else resolved

def declaredProperties (project : Node) : List (String × String) :=
  (elementsAt project ["properties"]).flatMap fun props =>
    props.childElements.filterMap fun c =>
      let v := trim c.leadingText
      if c.localName.isEmpty || v.isEmpty then none else some (c.localName, v)

def readExclusions (dep : Node) : List Exclusion :=
  (elementsAt dep ["exclusions", "exclusion"]).filterMap fun ex =>
    match firstText ex "groupId", firstText ex "artifactId" with
    | some g, some a => some { groupId := g, artifactId := a }
    | _, _ => none

def readDependency (props : List (String × String)) (dep : Node) : Option Dependency :=
  let groupId := (firstText dep "groupId").map (expandPlaceholders props)
  let artifactId := (firstText dep "artifactId").map (expandPlaceholders props)
  match groupId, artifactId with
  | some g, some a =>
    some {
      gav := { groupId := g, artifactId := a, version := normalizeVersion (firstText dep "version") props }
      type := (firstText dep "type").getD "jar"
      classifier := firstText dep "classifier"
      scope := firstText dep "scope"
      optional := readFlag (firstText dep "optional")
      exclusions := readExclusions dep }
  | _, _ => none

def readParent (root : Node) : Option Gav :=
  if root.localName != "project" then none
  else
    match textAt root ["parent", "groupId"], textAt root ["parent", "artifactId"] with
    | some g, some a =>
      some { groupId := g, artifactId := a, version := (textAt root ["parent", "version"]).getD unknownVersion }
    | _, _ => none

/-- The model a descriptor declares; `path` names it in messages and `inherited`
holds the parent's properties, which the descriptor's own override. -/
def readModel (root : Node) (path : String) (inherited : List (String × String)) : Outcome Model := do
  let isProject := root.localName == "project"
  let at_ (names : List String) : Option String := if isProject then textAt root names else none
  let rawGroup := at_ ["groupId"]
  let rawArtifact := at_ ["artifactId"]
  let rawVersion := at_ ["version"]
  let parentGroup := at_ ["parent", "groupId"]
  let parentVersion := at_ ["parent", "version"]
  let some artifactId := rawArtifact
    | throw (.pomIncomplete ("Missing required <artifactId> in " ++ path))
  let some groupId := rawGroup.orElse fun _ => parentGroup
    | throw (.pomIncomplete ("Missing required <groupId> (or parent <groupId>) in " ++ path))
  let version := (rawVersion.orElse fun _ => parentVersion).getD unknownVersion
  let own := if isProject then declaredProperties root else []
  let props := (OrderedMap.ofList (inherited ++ own)).toList
  let builtins : List (String × String) :=
    [("project.groupId", groupId), ("project.artifactId", artifactId), ("project.version", version),
     ("pom.groupId", groupId), ("pom.artifactId", artifactId), ("pom.version", version),
     ("groupId", groupId), ("artifactId", artifactId), ("version", version)] ++
    (parentVersion.map fun v => [("project.parent.version", v)]).getD [] ++
    (parentGroup.map fun g => [("project.parent.groupId", g)]).getD []
  let merged := (OrderedMap.ofList (props ++ builtins)).toList
  let nodes (names : List String) : List Node := if isProject then elementsAt root names else []
  pure {
    gav := { groupId := expandPlaceholders merged groupId, artifactId,
             version := normalizeVersion (some version) merged }
    packaging := (at_ ["packaging"]).getD "jar"
    name := (at_ ["name"]).map (expandPlaceholders merged)
    url := (at_ ["url"]).map (expandPlaceholders merged)
    dependencies := (nodes ["dependencies", "dependency"]).filterMap (readDependency merged)
    managed := (nodes ["dependencyManagement", "dependencies", "dependency"]).filterMap (readDependency merged)
    properties := props
    developers := (nodes ["developers", "developer"]).map fun d =>
      { name := firstText d "name", id := firstText d "id", email := firstText d "email" }
    licenses := (nodes ["licenses", "license"]).map fun l =>
      { name := firstText l "name", url := firstText l "url" }
    scm := { connection := at_ ["scm", "connection"], tag := at_ ["scm", "tag"], url := at_ ["scm", "url"] }
    resources := (nodes ["build", "resources", "resource"]).filterMap fun r =>
      (firstText r "directory").map (expandPlaceholders merged)
    finalName := (at_ ["build", "finalName"]).map (expandPlaceholders merged) }

def loadDescriptor (store : Files.Store) (path : String) : Outcome Node :=
  if !store.present path then .error (.pomNotFound path)
  else
    match store.readFile path with
    | .error _ => .error (.pomUnreadable path)
    | .ok bytes =>
      match parseDocument bytes with
      | .ok root => .ok root
      | .error _ => .error (.pomUnreadable path)

def parentOf (store : Files.Store) (path : String) : Outcome (Option Gav) := do
  pure (readParent (← loadDescriptor store path))

def modelOf (store : Files.Store) (path : String) (inherited : List (String × String)) :
    Outcome Model := do
  readModel (← loadDescriptor store path) path inherited

end PluginPack.Project
