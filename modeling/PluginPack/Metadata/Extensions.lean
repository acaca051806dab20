import PluginPack.Files.Store
import PluginPack.Journal
import PluginPack.Json.Read
import PluginPack.Text.Blank
import PluginPack.Text.Quoted
import PluginPack.Text.Utf8

/-!
What the compiled classes say about the component: its plugin class and its
extensions.

The plugin class is the first line, trimmed, of the service file
`META-INF/services/hudson.Plugin`. The extension index
`META-INF/annotations/hudson.Extension.json` is a JSON list of objects, each
naming its class (`className`, or `class_name`) and whether it can be loaded
while the host runs (`dynamicLoadable`, or `dynamic_loadable`: `YES`, `NO` or
`MAYBE`, `YES` when absent). A component supports dynamic loading when all its
extensions do, does not when one does not, and may when one may.
-/

namespace PluginPack.Metadata

open PluginPack.Files

inductive DynamicLoading where
  | yes
  | no
  | maybe
  deriving DecidableEq, Repr, Inhabited

def DynamicLoading.name : DynamicLoading → String
  | .yes => "YES"
  | .no => "NO"
  | .maybe => "MAYBE"

def DynamicLoading.ofName? : String → Option DynamicLoading
  | "YES" => some .yes
  | "NO" => some .no
  | "MAYBE" => some .maybe
  | _ => none

def DynamicLoading.parse (s : String) : Outcome DynamicLoading :=
  match DynamicLoading.ofName? s with
  | some d => .ok d
  | none => .error (.invalidValue (Text.quoted s ++ " is not a valid DynamicLoadable"))

def mergeDynamicLoading (values : List DynamicLoading) : Option Bool :=
  if values.contains .no then some false
  else if values.contains .maybe then none
  else some true

structure Extension where
  className : String
  dynamicLoading : DynamicLoading := .yes
  deriving DecidableEq, Repr, Inhabited

def extensionIndexPath : String := "META-INF/annotations/hudson.Extension.json"

def pluginServicePath : String := "META-INF/services/hudson.Plugin"

def memberEither (v : Json.Value) (name other : String) : Option Json.Value :=
  (v.get? name).orElse fun _ => v.get? other

def Extension.ofJson? (v : Json.Value) : Option Extension := do
  let _ ← v.asObject?
  let className ← (← memberEither v "className" "class_name").asString?
  let dynamicLoading ← match memberEither v "dynamicLoadable" "dynamic_loadable" with
    | none => some .yes
    | some (.str s) => DynamicLoading.ofName? s
    | some _ => none
  pure { className, dynamicLoading }

def readExtensionIndex (store : Store) (classesDir : String) : Outcome (List Extension) := do
  let path := Path.join classesDir extensionIndexPath
  if !store.isFile path then return []
  let bytes ← liftFs (store.readFile path)
  let malformed (reason : String) : PackagingError :=
    .general ("Malformed extension index " ++ path ++ ": " ++ reason)
  match Json.parse (← decodeText bytes) with
  | .error e => throw (malformed e.reason)
  | .ok (.arr items) =>
    match items.mapM Extension.ofJson? with
    | some es => pure es
    | none => throw (malformed "an entry is not a valid extension")
  | .ok _ => throw (malformed "the index is not a list")

def readPluginClass (store : Store) (classesDir : String) : Outcome (Option String) := do
  let path := Path.join classesDir pluginServicePath
  if !store.isFile path then return none
  let bytes ← liftFs (store.readFile path)
  pure ((Text.lines (← decodeText bytes)).head?.map Text.trim)

end PluginPack.Metadata
