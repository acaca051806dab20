import PluginPack.Interchange.Decode
import PluginPack.Archive.Member
import PluginPack.Assembly.Layout
import PluginPack.Metadata.Extensions
import PluginPack.Project.Model
import PluginPack.Properties.Basic
import PluginPack.Resolve.Graph
import PluginPack.Traverse.Walk

/-!
The JSON forms of the packager's values.

Objects use the snake-case names of fields; absent optional values are null;
lists keep their order. A failure is named by its kind, the name under which
reports and tools know it, and carries its message.
-/

namespace PluginPack.Interchange

open PluginPack.Json

def PackagingError.kindName (e : PackagingError) : String := e.className

def ofMaybe (b : Option Bool) : Value :=
  match b with
  | some b => .bool b
  | none => .null

def gavJson (g : Project.Gav) : Value :=
  .obj [("group_id", .str g.groupId), ("artifact_id", .str g.artifactId), ("version", .str g.version)]

def dependencyJson (d : Project.Dependency) : Value :=
  .obj [("gav", gavJson d.gav), ("type", .str d.type), ("classifier", .ofOption d.classifier),
    ("scope", .ofOption d.scope), ("optional", ofMaybe d.optional),
    ("exclusions", .arr (d.exclusions.map fun e =>
      .obj [("group_id", .str e.groupId), ("artifact_id", .str e.artifactId)]))]

def modelJson (m : Project.Model) : Value :=
  .obj [
    ("project", gavJson m.gav),
    ("packaging", .str m.packaging),
    ("name", .ofOption m.name),
    ("url", .ofOption m.url),
    ("dependencies", .arr (m.dependencies.map dependencyJson)),
    ("dependency_management", .arr (m.managed.map dependencyJson)),
    ("properties", .obj (m.properties.map fun (k, v) => (k, .str v))),
    ("developers", .arr (m.developers.map fun d =>
      .obj [("name", .ofOption d.name), ("id", .ofOption d.id), ("email", .ofOption d.email)])),
    ("licenses", .arr (m.licenses.map fun l => .obj [("name", .ofOption l.name), ("url", .ofOption l.url)])),
    ("scm", .obj [("connection", .ofOption m.scm.connection), ("tag", .ofOption m.scm.tag),
      ("url", .ofOption m.scm.url)]),
    ("resources", .arr (m.resources.map fun r => .obj [("directory", .str r)])),
    ("final_name", .ofOption m.finalName)]

def nodeFields (i : Resolve.NodeInfo) (depth : Nat) : List (String × Value) :=
  [("id", .str i.id), ("scope", .ofOption i.coordinate.scope), ("optional", .bool i.coordinate.optional),
    ("file", .ofOption i.file), ("packaging", .ofOption i.packaging),
    ("winner_version", .ofOption i.winner),
    ("exclusions", .arr (i.exclusions.map fun e => .arr [.str e.groupId, .str e.artifactId])),
    ("label", .str i.label), ("depth", .int depth)]

mutual

def treeJson (depth : Nat) : Resolve.Tree → Value
  | .node i cs => .obj (nodeFields i depth ++ [("children", .arr (forestJson (depth + 1) cs))])

def forestJson (depth : Nat) : List Resolve.Tree → List Value
  | [] => []
  | t :: ts => treeJson depth t :: forestJson depth ts

end

def graphJson (g : Resolve.Graph) : Value :=
  .obj [
    ("nodes", .arr (g.vertices.map fun (n, a) =>
      .arr [.str n, .obj [("omitted", .bool a.omitted), ("scope", .ofOption a.scope)]])),
    ("edges", .arr (g.edges.map fun ((a, b), e) =>
      .arr [.str a, .str b, .obj [("optional", .bool e.optional), ("scope", .ofOption e.scope)]])),
    ("acyclic", .bool g.isAcyclic)]

def facadeJson (f : Artifact.Facade) : Value :=
  .obj [("id", .str f.id), ("trail", .ofStrings f.trail), ("file", .ofOption f.file)]

def sortTexts (xs : List String) : List String := xs.mergeSort fun a b => decide (a ≤ b)

def selectionJson (s : Traverse.Selection) : Value :=
  .obj [
    ("selection", .arr (s.chosen.map fun (k, f) => .arr [.str k, facadeJson f])),
    ("decisions", .arr ((s.decisions.mergeSort fun a b => decide (a.1 ≤ b.1)).map fun (k, d) =>
      .arr [.str k, .str d.name])),
    ("plugin_ids", .ofStrings (sortTexts s.pluginIds)),
    ("visited", .ofStrings s.visited),
    ("bundled", .ofStrings (s.bundled.map (·.id))),
    ("plugins", .ofStrings (s.plugins.map (·.id)))]

def verdictsJson (vs : List (String × Traverse.Decision)) : Value :=
  .arr (vs.map fun (k, d) => .arr [.str k, .str d.name])

def placementJson (a : Assembly.Assembler) (p : Assembly.Placement) : Value :=
  .obj [("id", .str p.facade.id), ("destination", .str p.destination.path),
    ("file_name", .str p.fileName), ("renamed_to", .ofOption p.renamedTo),
    ("overlay_cache", if p.destination == .overlay then .str (a.overlayCache p) else .null)]

def assemblyFields (a : Assembly.Assembler) (ps : List Assembly.Placement) (r : Assembly.Report) :
    List (String × Value) :=
  [("placements", .arr (ps.map (placementJson a))),
    ("copied", .ofStrings r.copied), ("up_to_date", .ofStrings r.upToDate),
    ("extracted", .ofStrings r.extracted), ("overlaid", .ofStrings r.overlaid)]

def pluginDependencyJson (d : Manifest.PluginDependency) : Value :=
  .obj [("artifact_id", .str d.artifactId), ("version", .str d.version),
    ("optional", .bool d.optional), ("render", .str d.render)]

def extensionsJson (es : List Metadata.Extension) : Value :=
  .obj [("entries", .arr (es.map fun e => .arr [.str e.className, .str e.dynamicLoading.name])),
    ("merged", ofMaybe (Metadata.mergeDynamicLoading (es.map (·.dynamicLoading))))]

def startsLikeZip (bytes : ByteArray) : Bool :=
  bytes.size ≥ 2 && bytes.get! 0 == 0x50 && bytes.get! 1 == 0x4B

/-- What a file holds: the members of a zip archive, each summarised in turn; the
attributes of a `.hpl` descriptor; the entries of a properties file that `isMap`
picks out; otherwise its text. At most `fuel` archives deep. -/
def summaryWithin (isMap : String → Bool) : Nat → String → ByteArray → Value
  | fuel, name, bytes =>
    let text := Text.decodeUtf8Lossy bytes
    let zipped := if startsLikeZip bytes then (Archive.readAll bytes).toOption else none
    match zipped, fuel with
    | some entries, fuel + 1 =>
      .obj [("zip", .arr (entries.map fun (n, b) => .arr [.str n, summaryWithin isMap fuel n b]))]
    | _, _ =>
      if name.endsWith ".hpl" then .obj [("manifest", .ofPairs (Manifest.parse text).toList)]
      else if isMap name then
        match Properties.parse text with
        | .ok m => .obj [("properties", .ofPointPairs m.toList)]
        | .error _ => .obj [("text", .str text)]
      else .obj [("text", .str text)]

def fileSummary (isMap : String → Bool) (name : String) (bytes : ByteArray) : Value :=
  summaryWithin isMap bytes.size name bytes

def configJson (path : String → String) (c : Config) : Value :=
  .obj [("local_repository", .str (path c.localRepository)), ("workspace_map", .str (path c.workspaceMap)),
    ("scopes", .ofStrings c.scopes), ("include_optional", .bool c.includeOptional),
    ("core_id", .ofOption c.coreId), ("core_version_override", .ofOption c.coreVersionOverride),
    ("version_override", .ofOption c.versionOverride),
    ("version_description", .ofOption c.versionDescription),
    ("fail_on_version_override", .bool c.failOnVersionOverride),
    ("compatible_since", .ofOption c.compatibleSince), ("mask_classes", .ofOption c.maskClasses),
    ("global_mask_classes", .ofOption c.globalMaskClasses),
    ("plugin_first_classloader", .bool c.pluginFirstClassLoader),
    ("sandbox_status", .ofOption c.sandboxStatus)]

end PluginPack.Interchange
