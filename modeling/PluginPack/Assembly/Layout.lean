import PluginPack.Assembly.Placement

/-!
Writing placed artifacts into a web application directory.

A library is copied, with its modification time, unless the copy already there
is at least as new as the artifact. An overlay is unpacked into its cache below
the work directory unless the cache is at least as new as the archive; then
every file of the cache that the application does not have yet, apart from the
cache's manifest, is copied into the application, in order of path components.
Any file system failure on the way stops assembly with the operation and the two
paths involved; files written before the failure stay written.
-/

namespace PluginPack.Assembly

open PluginPack.Artifact PluginPack.Files

structure Report where
  copied : List String := []
  upToDate : List String := []
  extracted : List String := []
  overlaid : List String := []
  deriving Repr, Inhabited

def changeOrFail (e : PackagingError) (op : Store → Except FsError Store) : Step Unit := do
  match op (← currentStore) with
  | .ok s => setStore s
  | .error _ => throw e

def copyPreserving (s : Store) (source destination : String) : Except FsError Store :=
  let target := if s.isDir destination then Path.join destination (Path.name source) else destination
  if s.resolve target == s.resolve source then .error ⟨.alreadyExists, target⟩
  else s.copyFile source target true

/-- Copies `source` over `destination` unless the destination is at least as new;
answers whether it copied. -/
def copyIfModified (source destination : String) : Step Bool := do
  let failure := PackagingError.assembly "Failed to copy artifact" (some source) (some destination)
  let s ← currentStore
  let fresh : Bool :=
    match s.mtime? destination, s.mtime? source with
    | some _, none => false
    | some t, some u => u ≤ t
    | none, _ => false
  if s.present destination && (s.mtime? source).isNone then throw failure
  if fresh then return false
  changeOrFail failure fun s => s.makeDirs (Path.parent destination)
  changeOrFail failure fun s => copyPreserving s source destination
  return true

def memberPath (name : String) : List String :=
  (Path.parts name).filter (· != "..")

def unpackFailure (failure : PackagingError) (fault : Archive.Fault) : PackagingError :=
  if fault.isExpected then failure else .archive fault

/-- Extracts one member below a directory. The member is asked for by name, so a
repeated name takes the contents of the last member of that name. A name with no
usable component stands for the directory itself. The target file is created once
the member opens, and stays empty when reading its data fails. -/
def extractMember (bytes : ByteArray) (entries : List Archive.Entry) (dir : String)
    (failure : PackagingError) (e : Archive.Entry) : Step Unit := do
  let chosen := (Archive.findEntry entries e.name).getD e
  let target := Path.join dir ("/".intercalate (memberPath chosen.name))
  let upper := Path.parent target
  if !(← currentStore).present upper then
    changeOrFail failure fun s => s.makeDirs upper
  if chosen.isDir then
    if !(← currentStore).isDir target then
      changeOrFail failure fun s => s.makeDirs target
  else
    let start ← match Archive.openData bytes chosen chosen.describe with
      | .ok start => pure start
      | .error fault => throw (unpackFailure failure fault)
    changeOrFail failure fun s => s.writeFile target ByteArray.empty
    match Archive.readData bytes chosen start with
    | .ok data => changeOrFail failure fun s => s.writeFile target data
    | .error fault => throw (unpackFailure failure fault)

/-- Extracts `archive` into `cache` unless the cache is at least as new as the
archive; answers whether it extracted. -/
def unpackCached (archive cache : String) : Step Bool := do
  let failure := PackagingError.assembly "Failed to unpack overlay" (some archive) (some cache)
  let s ← currentStore
  if s.isDir cache then
    match s.mtime? archive with
    | none => throw failure
    | some t => if t ≤ (s.mtime? cache).getD 0 then return false
  if s.present cache then changeOrFail failure fun s => s.removeTree cache
  changeOrFail failure fun s => s.makeDirs cache
  let bytes ← match (← currentStore).readFile archive with
    | .ok b => pure b
    | .error _ => throw failure
  let entries ← match Archive.readDirectory bytes with
    | .ok entries => pure entries
    | .error fault => throw (unpackFailure failure fault)
  entries.forM (extractMember bytes entries cache failure)
  modify fun w => { w with store := w.store.setMtime cache w.store.clock }
  return true

def componentsBefore : List String → List String → Bool
  | [], [] => false
  | [], _ :: _ => true
  | _ :: _, [] => false
  | a :: as, b :: bs => a < b || (a == b && componentsBefore as bs)

def overlayEntries (s : Store) (source : String) : List (String × String) :=
  let files := (s.below source).filterMap fun (p, e) =>
    match e, Path.relativeTo? p source with
    | .file .., some rel => some (p, rel)
    | _, _ => none
  files.mergeSort fun x y => !componentsBefore (Path.parts y.2) (Path.parts x.2)

/-- Copies one file of an unpacked overlay into the application, unless it is the overlay's
manifest or the application has its place already; answers the file written. -/
def copyOverlayFile (webapp path rel : String) : Step (List String) := do
  if rel == Artifact.manifestEntry then return []
  let target := Path.join webapp rel
  if (← currentStore).present target then return []
  let failure := PackagingError.assembly "Failed to apply overlay file" (some path) (some target)
  changeOrFail failure fun s => s.makeDirs (Path.parent target)
  changeOrFail failure fun s => copyPreserving s path target
  return [target]

def copyOverlayFiles (webapp : String) : List (String × String) → Step (List String)
  | [] => pure []
  | (path, rel) :: rest => do
    let written ← copyOverlayFile webapp path rel
    let later ← copyOverlayFiles webapp rest
    pure (written ++ later)

def applyOverlay (source webapp : String) : Step (List String) := do
  copyOverlayFiles webapp (overlayEntries (← currentStore) source)

/-- Places one artifact: an overlay is unpacked into its cache and laid over the
application, anything else is copied to its target unless the copy there is as new. -/
def Assembler.place (a : Assembler) (webapp : String) (r : Report) (p : Placement) : Step Report :=
  match p.facade.file with
  | none => throw (.assembly ("Artifact " ++ p.facade.id ++ " has no resolved file") none none)
  | some source =>
    if p.destination == .overlay then do
      let cache := a.overlayCache p
      let extracted ← unpackCached source cache
      let written ← applyOverlay cache webapp
      pure { r with extracted := if extracted then r.extracted ++ [cache] else r.extracted,
                    overlaid := r.overlaid ++ written }
    else do
      let target := p.target webapp
      if ← copyIfModified source target then pure { r with copied := r.copied ++ [target] }
      else pure { r with upToDate := r.upToDate ++ [target] }

def Assembler.assemble (a : Assembler) (ps : List Placement) (webapp : String) : Step Report :=
  ps.foldlM (a.place webapp) {}

end PluginPack.Assembly
