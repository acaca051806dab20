import PluginPack.Archive.Member
import PluginPack.Artifact.Coordinate
import PluginPack.Journal
import PluginPack.Manifest.Basic
import PluginPack.Version.Parse

/-!
A resolved artifact with what packaging asks about it.

An artifact knows its coordinates, its file (if the resolver found one), the
trail of ids from the root of the walk down to itself, and the packaging its
descriptor declares. It is a *plugin* when its type is `hpi` or `jpi`; an
artifact of another type than `jar`, or with a classifier, is not; a jar is a
plugin when its packaging says so or when its archive's manifest has
`Plugin-Class` or `Plugin-Version`. A missing file or a directory is never a
plugin. An archive that cannot be opened makes the question fail, or, in best
effort, counts as a library after a warning.
-/

namespace PluginPack.Artifact

open PluginPack.Files

def manifestEntry : String := "META-INF/MANIFEST.MF"

structure Facade where
  coordinate : Coordinate
  file : Option String := none
  trail : List String
  packaging : Option String := none
  deriving Repr, Inhabited

namespace Facade

def make (c : Coordinate) (file : Option String) (trail : List String) (packaging : Option String) :
    Facade :=
  { coordinate := c, file, trail := if trail.isEmpty then [c.id] else trail, packaging }

def id (f : Facade) : String := f.coordinate.id
def groupId (f : Facade) : String := f.coordinate.groupId
def artifactId (f : Facade) : String := f.coordinate.artifactId
def version (f : Facade) : String := f.coordinate.version
def type (f : Facade) : String := f.coordinate.type
def scope (f : Facade) : Option String := f.coordinate.scope
def optional (f : Facade) : Bool := f.coordinate.optional

def archiveFile (store : Store) (f : Facade) : Option String :=
  match f.file with
  | some p => if store.isFile p then some p else none
  | none => none

/-- The main manifest section of the artifact's archive; `none` without an archive
file or without a manifest in it. -/
def readManifest (store : Store) (f : Facade) : Outcome (Option Manifest.Attributes) :=
  match f.archiveFile store with
  | none => .ok none
  | some path =>
    let failure (cause : String) : PackagingError :=
      .unclassifiable ("Failed to open artifact " ++ f.id ++ " at " ++ path) cause
    match store.readFile path with
    | .error e => .error (failure e.message)
    | .ok bytes =>
      let fail (fault : Archive.Fault) : PackagingError :=
        if fault.isExpected then failure fault.message else .archive fault
      match Archive.readDirectory bytes with
      | .error fault => .error (fail fault)
      | .ok entries =>
        match Archive.readNamed bytes entries manifestEntry with
        | none => .ok none
        | some (.error fault) => .error (fail fault)
        | some (.ok data) => .ok (some (Manifest.parse (Text.decodeUtf8Lossy data)))

def isPlugin (store : Store) (f : Facade) : Outcome Bool :=
  if f.type == "hpi" || f.type == "jpi" then .ok true
  else if f.type != "jar" then .ok false
  else if f.coordinate.hasClassifier then .ok false
  else if f.packaging == some "hpi" || f.packaging == some "jpi" then .ok true
  else if (f.archiveFile store).isNone then .ok false
  else do
    match ← f.readManifest store with
    | none => pure false
    | some attrs => pure (attrs.contains "Plugin-Class" || attrs.contains "Plugin-Version")

def isPluginBestEffort (f : Facade) : Step Bool := do
  match f.isPlugin (← currentStore) with
  | .ok b => pure b
  | .error (.unclassifiable m cause) =>
    report .warning ("While inspecting " ++ f.id ++ ": " ++ (if cause.isEmpty then m else cause))
    pure false
  | .error e => throw e

def defaultFinalName (f : Facade) : String :=
  f.artifactId ++ "-" ++ f.version ++
    (if f.coordinate.hasClassifier then "-" ++ f.coordinate.classifier.getD "" else "") ++
    (if f.coordinate.extension.isEmpty then "" else "." ++ f.coordinate.extension)

def qualifiedFinalName (f : Facade) : String := f.groupId ++ "-" ++ f.defaultFinalName

def hasScope (f : Facade) (scopes : List (Option String)) : Bool := scopes.contains f.scope

def hasSameGa (f : Facade) (groupId artifactId : String) : Bool :=
  f.groupId == groupId && f.artifactId == artifactId

/-- A version without a trailing ` (description)`: the first ` (` from which the
text runs to a final `)` with at least one character between, and no line break. -/
def stripDescription (v : String) : String :=
  let cs := v.toList
  let rec go : List Char → List Char → Option (List Char)
    | ' ' :: '(' :: rest, before =>
      match rest.reverse with
      | ')' :: inner =>
        if !inner.isEmpty && !inner.contains '\n' then some before.reverse
        else go ('(' :: rest) (' ' :: before)
      | _ => go ('(' :: rest) (' ' :: before)
    | c :: rest, before => go rest (c :: before)
    | [], _ => none
  match go cs [] with
  | some kept => String.ofList kept
  | none => v

def actualArtifactId (store : Store) (f : Facade) : Outcome String := do
  match ← f.readManifest store with
  | none => pure f.artifactId
  | some m =>
    match m.get? "Short-Name" with
    | some s => pure (if s.isEmpty then f.artifactId else s)
    | none => pure f.artifactId

def actualVersion (store : Store) (f : Facade) : Outcome String := do
  match ← f.readManifest store with
  | none => pure f.version
  | some m =>
    match m.get? "Plugin-Version" with
    | some v => pure (stripDescription v)
    | none => pure f.version

def coreVersion (store : Store) (f : Facade) : Outcome (Option String) := do
  match ← f.readManifest store with
  | none => pure none
  | some m =>
    let pick (k : String) : Option String := match m.get? k with
      | some v => if v.isEmpty then none else some v
      | none => none
    pure ((pick "Jenkins-Version").orElse fun _ => m.get? "Hudson-Version")

def withTrail (f : Facade) (trail : List String) : Facade :=
  make f.coordinate f.file trail f.packaging

end Facade

end PluginPack.Artifact
