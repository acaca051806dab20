import PluginPack.Archive.Writer
import PluginPack.Assembly.Layout
import PluginPack.Session.Basic

/-!
The goals about the plugins a component depends on: copying them out, listing
them, bundling them into a distribution, repackaging the host war with them, and
checking that none needs a newer host core than the component.

A plugin's archive is its resolved file when it is typed `hpi` or `jpi`, and
otherwise the `hpi` or else the `jpi` file of the same coordinates in the
repository.

Bundling requires every direct plugin dependency to carry a plugin type. It
selects the newest version of each plugin reachable with and without optional
dependencies, including `provided` ones; plugins reached only through optional
dependencies go to the optional directory. A bundled plugin that optionally needs
a newer version of another bundled plugin is a conflict, refused unless conflicts
are ignored.
-/

namespace PluginPack

open PluginPack.Artifact PluginPack.Files

def pluginTypes : List String := ["hpi", "jpi"]

def copyFileTo (s : Store) (source target : String) : Except FsError Store := do
  let s ← s.makeDirs (Path.parent target)
  if s.resolve source == s.resolve target then throw ⟨.alreadyExists, target⟩
  s.copyFile source target false

def padRight (s : String) (width : Nat) : String :=
  s ++ String.ofList (List.replicate (width - s.length) ' ')

def pluginTable (plugins : List Facade) (optional : List String) : String :=
  let widthOf (title : String) (f : Facade → String) :=
    plugins.foldl (fun w a => max w (f a).length) title.length
  let gw := widthOf "Group Id" Facade.groupId
  let aw := widthOf "Artifact Id" Facade.artifactId
  let vw := widthOf "Version" Facade.version
  let row (g a v flag : String) :=
    padRight g gw ++ " " ++ padRight a aw ++ " " ++ padRight v vw ++ " " ++ padRight flag 8 ++ "\n"
  let rule (n : Nat) := String.ofList (List.replicate n '=')
  String.join (row "Group Id" "Artifact Id" "Version" "Optional" :: row (rule gw) (rule aw) (rule vw) (rule 8) ::
    plugins.map fun a => row a.groupId a.artifactId a.version
      (if optional.contains a.artifactId then "yes" else "no"))

def readVersion (text : String) : Outcome Version.VersionNumber :=
  (Version.VersionNumber.parse text).mapError fun e => .invalidValue e.message

structure BundleResult where
  plugins : List Facade
  optional : List String
  copied : List String
  listing : String
  manifest : String

namespace Session

def pluginArchive (s : Session) (store : Store) (f : Facade) : Outcome String :=
  match f.file with
  | some file => if pluginTypes.contains f.type then .ok file else lookup
  | none => lookup
where
  lookup : Outcome String :=
    let tries := pluginTypes.filterMap fun t =>
      (s.repository.artifactFile store { f.coordinate with type := t, classifier := none }).toOption
    match tries.head? with
    | some p => .ok p
    | none => .error (.unresolved ("No plugin archive found for " ++ f.id))

/-- Copies the component's transitive plugin dependencies, the newest version of
each, into a directory as `<artifactId>.hpi` or `.jpi`. -/
def assembleDependencies (out : String) (jpi : Bool) : SessionStep (List String) := do
  let t ← tree
  let s ← get
  let selection ← Traverse.traverse t (s.policy .plugins)
  let extension := if jpi then "jpi" else "hpi"
  let mut copied := []
  for a in selection.plugins do
    let source ← Step.ofOutcome (s.pluginArchive (← currentStore) a)
    let target := Path.join out (a.artifactId ++ "." ++ extension)
    report .debug ("Copying " ++ source)
    Assembly.changeOrFail (.assembly ("Failed to copy dependency " ++ a.id) (some source) (some target))
      fun st => copyFileTo st source target
    copied := copied ++ [target]
  pure copied

/-- `group:artifact:version` of each direct plugin dependency, reported and
optionally written to a file. -/
def listPluginDependencies (out : Option String) : SessionStep (List String) := do
  let direct ← directArtifacts
  let plugins ← Step.ofOutcome (keepPlugins (← currentStore) direct)
  let lines := plugins.map fun a => a.groupId ++ ":" ++ a.artifactId ++ ":" ++ a.version
  for line in lines do report .info line
  if let some path := out then
    Assembly.changeOrFail (.assembly "Failed to list plugin dependencies" none (some path))
      fun st => st.writeFile path (String.join (lines.map (· ++ "\n"))).toUTF8
  pure lines

def pluginSelection (includeOptional : Bool) : SessionStep (List (String × Facade)) := do
  let t ← tree
  let base := (← get).policy .plugins
  let scopes := if base.scopes.contains "provided" then base.scopes else base.scopes ++ ["provided"]
  let selection ← Traverse.traverse t { base with scopes, includeOptional }
  pure selection.chosen

def mergeRequired (selected : List (String × Facade)) : List (String × Facade) → Outcome (List (String × Facade))
  | [] => .ok selected
  | (key, a) :: rest => do
    match selected.lookup key with
    | none => mergeRequired (selected ++ [(key, a)]) rest
    | some current =>
      if (← Resolve.compareVersions a.version current.version) == .gt then
        mergeRequired (selected.map fun e => if e.1 == key then (key, a) else e) rest
      else mergeRequired selected rest

def optionalConflicts (selected : List (String × Facade)) : SessionStep (List String) := do
  let s ← get
  let mut issues := []
  for (_, a) in selected do
    match ← attempt (s.repository.readProjectCached a.coordinate.gav) with
    | .error e@(.unresolved _) | .error e@(.pomNotFound _) | .error e@(.pomUnreadable _)
    | .error e@(.pomIncomplete _) =>
      report .warning ("Could not resolve pom of " ++ a.id ++ " to check optional dependencies: " ++ e.message)
    | .error e => throw e
    | .ok pom =>
      for dep in pom.dependencies do
        if dep.optional != some true then continue
        match selected.lookup dep.gav.artifactId with
        | none => continue
        | some matching =>
          if matching.groupId != dep.gav.groupId then continue
          if dep.gav.version == Project.unknownVersion then continue
          if (← Step.ofOutcome (Resolve.compareVersions matching.version dep.gav.version)) == .lt then
            let message := a.artifactId ++ ": optional dependency of " ++ dep.gav.artifactId ++ " version " ++
              dep.gav.version ++ " conflicts with the bundled version " ++ matching.version
            report .error message
            issues := issues ++ [message]
  pure issues

/-- What bundling checks before it writes anything: every direct plugin dependency carries a
plugin type, and no bundled plugin optionally needs a newer version of another unless conflicts
are ignored. Gives the plugins to bundle, sorted by artifact id, and the artifact ids reached
only through optional dependencies. -/
def bundleSelection (ignoreConflicts : Bool) : SessionStep (List Facade × List String) := do
  let direct ← directArtifacts
  let untyped ← Step.ofOutcome (keepPlugins (← currentStore) (direct.filter fun a => a.type == "jar"))
  if !untyped.isEmpty then
    let gav (a : Facade) := a.groupId ++ ":" ++ a.artifactId ++ ":" ++ a.version
    for a in untyped do
      report .error ("Dependency on plugin " ++ gav a ++ " does not include <type> tag")
    throw (.misconfigured
      ("The following plugin dependencies are missing the <type> tag required by the bundle-plugins goal:\n  " ++
        "\n  ".intercalate (untyped.map gav)))
  let withOptional ← pluginSelection true
  let required ← pluginSelection false
  let selected ← Step.ofOutcome (mergeRequired withOptional required)
  let optional := (selected.map (·.1)).filter fun k => (required.lookup k).isNone
  let issues ← optionalConflicts selected
  if !issues.isEmpty then
    if !ignoreConflicts then
      throw (.optionalConflict
        ("Optional dependencies are incompatible with bundled dependencies:\n  " ++ "\n  ".intercalate issues))
    report .warning "Ignoring optional dependency conflicts"
  pure ((selected.map (·.2)).mergeSort fun a b => decide (a.artifactId ≤ b.artifactId), optional)

/-- Copies the plugins to bundle into the distribution, those reached only through optional
dependencies into the optional directory, and writes the list of bundled plugins and their
table. -/
def writeBundle (s : Session) (outputDir optionalDir : Option String) (plugins : List Facade)
    (optional : List String) : Step BundleResult := do
  let l := s.layout
  let outputDir := outputDir.getD (Path.join l.webappDir "WEB-INF/plugins")
  let optionalDir := optionalDir.getD (Path.join l.webappDir "WEB-INF/optional-plugins")
  let mut copied := []
  for a in plugins do
    let source ← Step.ofOutcome (s.pluginArchive (← currentStore) a)
    let dir := if optional.contains a.artifactId then optionalDir else outputDir
    let target := Path.join dir (a.artifactId ++ ".hpi")
    report .debug ("Copying " ++ source)
    Assembly.changeOrFail (.assembly ("Failed to bundle plugin " ++ a.id) (some source) (some target))
      fun st => copyFileTo st source target
    copied := copied ++ [target]
  let table := pluginTable plugins optional
  for line in Text.lines table do report .info (Text.trimEnd line)
  let listing := Path.join l.classesDir "bundled-plugins.txt"
  let manifest := Path.join l.buildDir "plugin-manifest.txt"
  let listingText := String.join (plugins.map fun a => a.groupId ++ ":" ++ a.artifactId ++ ":hpi:" ++ a.version ++ "\n")
  Assembly.changeOrFail (.assembly "Failed to write the bundled plugin list" none (some listing)) fun st => do
    let st ← st.makeDirs (Path.parent listing)
    let st ← st.writeFile listing listingText.toUTF8
    st.writeFile manifest table.toUTF8
  pure { plugins, optional, copied, listing, manifest }

def bundlePlugins (outputDir optionalDir : Option String) (ignoreConflicts : Bool) :
    SessionStep BundleResult := do
  let (plugins, optional) ← bundleSelection ignoreConflicts
  writeBundle (← get) outputDir optionalDir plugins optional

/-- The host war among the project's artifacts: the one with the given
`group:artifact`, or else the core's war. -/
def hostWar (warId : Option String) : SessionStep Facade := do
  let wars := (← projectArtifacts).filter fun (a : Facade) => ["war", "executable-war"].contains a.type
  let warId := warId.filter fun w => !w.isEmpty
  let candidates := match warId with
    | some w => wars.filter fun (a : Facade) => a.groupId ++ ":" ++ a.artifactId == w
    | none => wars.filter fun (a : Facade) => ["jenkins-war", "hudson-war"].contains a.artifactId
  let store ← currentStore
  match candidates.head? with
  | some war =>
    match war.file with
    | some file => if store.isFile file then return war
    | none => pure ()
  | none => pure ()
  throw (.misconfigured ("Unable to locate " ++ warId.getD "jenkins-war" ++ " in the dependencies"))

def newestPlugins : List (String × Facade) → List Facade → Outcome (List (String × Facade))
  | acc, [] => .ok acc
  | acc, a :: rest => do
    match acc.lookup a.artifactId with
    | none => newestPlugins (acc ++ [(a.artifactId, a)]) rest
    | some current =>
      if (← Resolve.compareVersions a.version current.version) == .gt then
        newestPlugins (acc.map fun e => if e.1 == a.artifactId then (a.artifactId, a) else e) rest
      else newestPlugins acc rest

def requirePackaged (output : String) (entries : List (String × String)) : Step Unit := do
  for (_, source) in entries do
    if !(← currentStore).isFile source then
      throw (.assembly (source ++ " is a directory or not packaged yet, this isn't supported") (some source)
        (some output))

/-- The entries a custom war adds, checked before anything is written: the newest version of each
plugin among the project's artifacts under `WEB-INF/plugins`, and the component's own archive
when asked, each from a file that is there. -/
def warEntries (s : Session) (output : String) (addSelf : Bool) : SessionStep (List (String × String)) := do
  let store ← currentStore
  let plugins ← Step.ofOutcome (keepPlugins store (← projectArtifacts))
  let newest ← Step.ofOutcome (newestPlugins [] plugins)
  let sorted := newest.mergeSort fun a b => decide (a.1 ≤ b.1)
  let mut entries : List (String × String) := []
  for (aid, a) in sorted do
    entries := entries ++ [("WEB-INF/plugins/" ++ aid ++ ".hpi", ← Step.ofOutcome (s.pluginArchive store a))]
  if addSelf && s.project.packaging == "hpi" then
    let own := s.layout.outputFile s.project ".hpi"
    report .debug ("This plugin " ++ s.project.displayName ++ " to be added to custom war")
    let name := "WEB-INF/plugins/" ++ s.project.gav.artifactId ++ ".hpi"
    entries := if entries.any (·.1 == name) then entries.map fun e => if e.1 == name then (name, own) else e
      else entries ++ [(name, own)]
  requirePackaged output entries
  pure entries

/-- Writes the host war `war` again to `output`, with the given entries in place of its own
entries of the same names. -/
def packWar (war : Facade) (output : String) (entries : List (String × String)) : Step String := do
  let warFile := war.file.getD ""
  let failure := PackagingError.assembly "Failed to package war" (some warFile) (some output)
  Assembly.changeOrFail failure fun st => st.makeDirs (Path.parent output)
  let bytes ← match (← currentStore).readFile warFile with
    | .ok bytes => pure bytes
    | .error _ => throw failure
  let infos ← match Archive.readDirectory bytes with
    | .ok infos => pure infos
    | .error fault => throw (Assembly.unpackFailure failure fault)
  Assembly.changeOrFail failure fun st => st.writeFile output (Archive.write [])
  let mut written : List (String × ByteArray) := []
  for info in infos do
    if !entries.any (·.1 == info.name) then
      match Archive.readNamed bytes infos info.name with
      | some (.ok data) => written := written ++ [(info.name, data)]
      | some (.error fault) =>
        Assembly.changeOrFail failure fun st => st.writeFile output (Archive.write written)
        throw (Assembly.unpackFailure failure fault)
      | none => pure ()
  let st ← currentStore
  let added := entries.filterMap fun (n, source) =>
    match st.get? source with
    | some (.file bytes _) => some (n, bytes)
    | _ => none
  Assembly.changeOrFail failure fun st => st.writeFile output (Archive.write (written ++ added))
  report .info ("Generated " ++ output)
  pure output

def customWar (output : Option String) (warId : Option String) (addSelf : Bool) : SessionStep String := do
  let s ← get
  let output := output.getD (Path.join s.layout.buildDir (s.project.gav.artifactId ++ ".war"))
  let war ← hostWar warId
  let entries ← warEntries s output addSelf
  packWar war output entries

/-- The host core a dependency needs, read from its manifest; without an archive,
the component's own core. -/
def dependencyCoreVersion (a : Facade) (own : String) : Step Version.VersionNumber := do
  let store ← currentStore
  if !(a.file.map store.isFile).getD false then
    report .warning ("Skipping core validation for " ++ a.id ++
      " since it has no archive to read a manifest from")
    return ← Step.ofOutcome (readVersion own)
  match ← Step.ofOutcome (a.coreVersion store) with
  | none => throw (.incompatible ("Could not find the core version in the manifest of " ++ a.id))
  | some core => Step.ofOutcome (readVersion core)

def coreCandidates : SessionStep (List Facade) := do
  keepPluginsBestEffort ((← projectArtifacts) ++ (← directArtifacts))

def firstById (seen : List String) : List Facade → List Facade
  | [] => []
  | a :: rest => if seen.contains a.id then firstById seen rest else a :: firstById (a.id :: seen) rest

def requiredCoreVersions (own : String) : List Facade → Step (List (Facade × Version.VersionNumber))
  | [] => pure []
  | a :: rest => do
    let required ← dependencyCoreVersion a own
    let others ← requiredCoreVersions own rest
    pure ((a, required) :: others)

def keepNewer (kept : Version.VersionNumber × Option Facade) (next : Facade × Version.VersionNumber) :
    Version.VersionNumber × Option Facade :=
  if next.2.compare kept.1 == .gt then (next.2, some next.1) else kept

/-- Compares the newest requirement of the candidates, starting from `zero`, with the
component's own host core `core`; gives the component's version text `own`. -/
def checkCoreRequirements (own : String) (core zero : Version.VersionNumber) (candidates : List Facade) :
    Step String := do
  let required ← requiredCoreVersions own (firstById [] candidates)
  let (newest, newestArtifact) := required.foldl keepNewer (zero, none)
  if core.compare newest == .lt then
    throw (.incompatible ("Dependency " ++ ((newestArtifact.map Facade.id).getD "None") ++ " requires Jenkins " ++
      newest.text ++ " or higher."))
  pure own

/-- Checks that no plugin dependency needs a newer host core than the component
declares; gives the component's host core version. -/
def validateCoreCompatibility : SessionStep String := do
  let s ← get
  let own ← Metadata.findCoreVersion s.project s.config.coreId s.config.coreVersionOverride
  let core ← Step.ofOutcome (readVersion own)
  let zero ← Step.ofOutcome (readVersion "0")
  let candidates ← coreCandidates
  checkCoreRequirements own core zero candidates

end Session

end PluginPack
