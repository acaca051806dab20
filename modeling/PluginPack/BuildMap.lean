import PluginPack.Journal
import PluginPack.Properties.Basic
import PluginPack.Text.Utf8
import PluginPack.Text.CodePoints

/-!
The map of development builds: a properties file whose keys are the directories
where components were built and whose values are the components' ids.

Reading a component's location skips recorded directories that no longer exist.
Without a workspace the first recorded location wins; with one, the first
location whose text starts with the workspace's wins, and otherwise the last
existing one. A recorded directory whose text holds a surrogate names no file.
Recording a location keeps the other entries in their order and rewrites the
whole file under a fixed comment line and the time of writing, which is the file
tree's clock; text that cannot be encoded as UTF-8 leaves the file empty.
-/

namespace PluginPack

open PluginPack.Text

structure BuildMap where
  file : String
  deriving Repr, Inhabited

namespace BuildMap

def headerComment : String :=
  " List of development files for Jenkins plugins that have been built."

def load (m : BuildMap) (store : Files.Store) : Outcome (OrderedMap CodePoints CodePoints) :=
  if !store.isFile m.file then .ok OrderedMap.empty
  else do
    let bytes ← liftFs (store.readFile m.file)
    match Properties.parse (← decodeText bytes) with
    | .ok entries => pure entries
    | .error e => throw (.invalidValue e.message)

def settle (stop : String → Bool) : List (String × String) → Option (String × String) → Option (String × String)
  | [], found => found
  | c :: rest, _ => if stop c.1 then some c else settle stop rest (some c)

def locate (m : BuildMap) (store : Files.Store) (id : String) (workspace : Option String) :
    Outcome (Option String) := do
  let entries ← m.load store
  let candidates := entries.toList.filterMap fun (location, recorded) =>
    if recorded != CodePoints.ofString id then none
    else match location.toString? with
      | some l => if store.present l then some (l, recorded) else none
      | none => none
  let stop := fun location => match workspace with
    | none => true
    | some w => location.startsWith w
  pure ((settle stop (candidates.map fun (l, _) => (l, Files.Path.normalize l)) none).map (·.2))

def record (m : BuildMap) (id location : String) : Step Unit := do
  let store ← currentStore
  let entries ← Step.ofOutcome (m.load store)
  let entries := entries.insert (.ofString (store.absolute location)) (.ofString id)
  let now := Time.Stamp.ofEpochSeconds store.clock
  let text := (Properties.format entries.toList (some headerComment) now).encode
  let written := do
    let s ← store.makeDirs (Files.Path.parent m.file)
    s.writeFile m.file (match text with | .ok t => t.toUTF8 | .error _ => ByteArray.empty)
  match written with
  | .ok s => setStore s
  | .error e => throw (.general ("Failed to write workspace map " ++ m.file ++ ": " ++ e.message))
  if let .error fault := text then throw (.unencodable fault)
  report .debug ("Recorded " ++ id ++ " at " ++ location ++ " in " ++ m.file)

end BuildMap

end PluginPack
