import PluginPack.Assembly.Classpath

/-!
Where each bundled artifact goes in the web application.

Artifacts are taken in order of artifact id, then group id, then id. Each gets
its default final name unless an earlier one already took that name; then it
gets the group-qualified name instead, and the renaming is reported. Tag
libraries go to `WEB-INF/tld`; jars, EJBs and EJB clients to `WEB-INF/lib`; a
`par` archive also goes to `WEB-INF/lib`, with `.jar` in place of the last four
characters of its name; a `war` is an overlay unpacked over the application's
root. Artifacts of any other type are skipped.
-/

namespace PluginPack.Assembly

open PluginPack.Artifact PluginPack.Files

inductive Destination where
  | library
  | tld
  | overlay
  deriving DecidableEq, Repr, Inhabited

def Destination.path : Destination → String
  | .library => "WEB-INF/lib"
  | .tld => "WEB-INF/tld"
  | .overlay => ""

structure Placement where
  facade : Facade
  destination : Destination
  fileName : String
  renamedTo : Option String := none
  deriving Repr, Inhabited

def Placement.target (p : Placement) (webapp : String) : String :=
  Path.join (Path.join webapp p.destination.path) p.fileName

def Assembler.overlayCache (a : Assembler) (p : Placement) : String :=
  Path.join (Path.join a.workDir "overlays") (Path.stem p.fileName)

def placedBefore (x y : Facade) : Bool :=
  match compare x.artifactId y.artifactId with
  | .lt => true
  | .gt => false
  | .eq =>
    match compare x.groupId y.groupId with
    | .lt => true
    | .gt => false
    | .eq => x.id ≤ y.id

def asJarName (name : String) : String :=
  String.ofList (name.toList.take (name.length - 4)) ++ ".jar"

def placementOf (f : Facade) (name : String) (renamedTo : Option String) : Option Placement :=
  if f.type == "tld" then some ⟨f, .tld, name, renamedTo⟩
  else if ["jar", "ejb", "ejb-client"].contains f.type then some ⟨f, .library, name, renamedTo⟩
  else if f.type == "par" then some ⟨f, .library, asJarName name, renamedTo⟩
  else if f.type == "war" then some ⟨f, .overlay, name, renamedTo⟩
  else none

def placeAll (taken : List String) : List Facade → Step (List Placement)
  | [] => pure []
  | f :: rest => do
    let name := f.defaultFinalName
    let (name, renamedTo, taken) ←
      if taken.contains name then do
        let qualified := f.qualifiedFinalName
        report .info ("Duplicate artifact name " ++ name ++ ", renaming " ++ f.id ++ " to " ++
          qualified)
        pure (qualified, some qualified, taken)
      else pure (name, none, name :: taken)
    let placed := placementOf f name renamedTo
    if placed.isNone then
      report .debug ("Skipping " ++ f.id ++ ": type " ++ f.type ++ " is not bundled")
    let others ← placeAll taken rest
    pure (match placed with
      | some p => p :: others
      | none => others)

def plan (fs : List Facade) : Step (List Placement) :=
  placeAll [] (fs.mergeSort placedBefore)

end PluginPack.Assembly
