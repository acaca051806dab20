import PluginPack.Archive.Writer
import PluginPack.Assembly.Layout
import PluginPack.Session.Basic

/-!
The goals that build a component: its archive, and the descriptors that let a
host run the unpacked development build.

The archive is a zip whose first member is the manifest; the files of the
archived directory follow, ordered by their path components, without a manifest
of their own. The webapp directory receives the manifest, the webapp sources,
the component's own classes as a jar and every bundled library before it is
archived.

A descriptor is a manifest naming the class path of the development build: the
project's existing resource directories, its classes directory and the bundled
libraries, and the webapp sources as resource path. The test descriptor of a
snapshot is also recorded in the map of development builds; failing to record
it is reported, not raised.
-/

namespace PluginPack

open PluginPack.Artifact PluginPack.Files

def filesBelow (store : Store) (dir : String) : List (String × String) :=
  let files := (store.below dir).filterMap fun (p, e) =>
    match e, Path.relativeTo? p dir with
    | .file .., some rel => some (p, rel)
    | _, _ => none
  files.mergeSort fun x y => !Assembly.componentsBefore (Path.parts y.2) (Path.parts x.2)

def writeManifestFile (path : String) (attrs : Manifest.Attributes) : Step Unit := do
  alterStore fun s => s.makeDirs (Path.parent path)
  alterStore fun s => s.writeFile path (Manifest.format attrs).toUTF8

def writeArchive (destination : String) (attrs : Manifest.Attributes) (dir : String) : Step String := do
  let store ← currentStore
  let members := if store.isDir dir then
      (filesBelow store dir).filterMap fun (p, rel) =>
        if rel == manifestEntry then none
        else match store.get? p with
          | some (.file bytes _) => some (rel, bytes)
          | _ => none
    else []
  let bytes := Archive.write ((manifestEntry, (Manifest.format attrs).toUTF8) :: members)
  let failure := PackagingError.assembly "Failed to write archive" (some dir) (some destination)
  Assembly.changeOrFail failure fun s => s.makeDirs (Path.parent destination)
  Assembly.changeOrFail failure fun s => s.writeFile destination bytes
  pure destination

def copyTree (source destination : String) : Step Unit := do
  let store ← currentStore
  if store.isDir source then
    for (p, rel) in filesBelow store source do
      let _ ← Assembly.copyIfModified p (Path.join destination rel)

structure PackageResult where
  archive : String
  jar : String
  manifest : Manifest.Attributes
  placements : List Assembly.Placement
  report : Assembly.Report

namespace Session

def package : SessionStep PackageResult := do
  let attrs := (← manifestHeader).toAttributes
  let s ← get
  let l := s.layout
  writeManifestFile (Path.join l.webappDir manifestEntry) attrs
  copyTree l.webappSource l.webappDir
  let jar := l.outputFile s.project ".jar"
  report .info ("Generating jar " ++ jar)
  let _ ← writeArchive jar attrs l.classesDir
  let _ ← Assembly.copyIfModified jar
    (Path.join l.webappDir (Assembly.Destination.library.path ++ "/" ++ s.project.gav.artifactId ++ ".jar"))
  let ps ← placements
  let r ← s.assembler.assemble ps l.webappDir
  let manifestCopy := l.outputFile s.project ".hpi.mf"
  report .info ("Archiving hpi manifest " ++ manifestCopy)
  writeManifestFile manifestCopy attrs
  let archive := l.outputFile s.project ".hpi"
  report .info ("Generating hpi " ++ archive)
  let _ ← writeArchive archive attrs l.webappDir
  pure { archive, jar, manifest := attrs, placements := ps, report := r }

def libraryEntries (libraries : List String) : SessionStep (List String) := do
  let s ← get
  let store ← currentStore
  let resources := s.project.resources.filterMap fun r =>
    let dir := Path.join s.layout.basedir r
    if store.present dir then some dir else none
  pure (resources ++ [s.layout.classesDir] ++ libraries)

def writeDescriptor (destination : String) : SessionStep String := do
  let ps ← placements
  let libraries := ps.filterMap fun p => if p.destination == .library then p.facade.file else none
  let entries ← libraryEntries libraries
  let header := (← manifestHeader).toAttributes
  let s ← get
  let resourcePath := (← currentStore).absolute s.layout.webappSource
  let attrs := Manifest.mergeSections
    [header.toList, [("Libraries", ",".intercalate entries), ("Resource-Path", resourcePath)]]
  report .info ("Generating " ++ destination)
  let failure := PackagingError.assembly "Failed to write descriptor" none (some destination)
  Assembly.changeOrFail failure fun st => st.makeDirs (Path.parent destination)
  Assembly.changeOrFail failure fun st => st.writeFile destination (Manifest.format attrs).toUTF8
  pure destination

def packagedAsPlugin : SessionStep Bool := do
  let s ← get
  if s.project.packaging == "hpi" then pure true
  else
    report .info ("Skipping " ++ s.project.displayName ++ " because it's not <packaging>hpi</packaging>")
    pure false

def writeDevelopmentDescriptor (home : String) : SessionStep (Option String) := do
  if !(← packagedAsPlugin) then return none
  let s ← get
  some <$> writeDescriptor (Path.join home ("plugins/" ++ s.project.buildFinalName ++ ".hpl"))

/-- Writes `target/test-classes/the.hpl`, for plugin projects only, and records a
snapshot's descriptor in the map of development builds. -/
def writeTestDescriptor : SessionStep (Option String) := do
  if !(← packagedAsPlugin) then return none
  let s ← get
  let destination ← writeDescriptor (Path.join s.layout.testClassesDir "the.hpl")
  if s.project.gav.version.endsWith Metadata.snapshotSuffix then
    match ← attempt (s.buildMap.record s.componentId destination) with
    | .ok () => pure ()
    | .error (.general m) =>
      report .error ("Could not record " ++ destination ++ " in the workspace map: " ++ m)
    | .error e => throw e
  pure (some destination)

def recordCoreLocation : SessionStep Bool := do
  let s ← get
  if !s.project.gav.version.endsWith Metadata.snapshotSuffix then return false
  s.buildMap.record s.componentId s.layout.basedir
  pure true

end Session

end PluginPack
