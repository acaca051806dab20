import PluginPack.Interchange.Encode
import PluginPack.Session.Develop
import PluginPack.Session.Plugins

/-!
Packaging goals as JSON requests and their results as JSON values.

A request names its goal under `goal` and carries the goal's options: `home` for
the development descriptor, `out` and `jpi` for copying dependencies, `out` for
listing them, `output_dir`, `optional_dir` and `ignore` for bundling, and
`output`, `war_id` and `add_self` for the custom war. Paths are given relative
to a base directory, which the caller applies through `resolve`.
-/

namespace PluginPack.Interchange

open PluginPack.Json

def attributesJson (attrs : Manifest.Attributes) : Value := .ofPairs attrs.toList

def packageJson (a : Assembly.Assembler) (r : PackageResult) : Value :=
  .obj ([("archive", .str r.archive), ("jar", .str r.jar), ("manifest", attributesJson r.manifest)] ++
    assemblyFields a r.placements r.report)

def bundleJson (r : BundleResult) : Value :=
  .obj [("plugins", .ofStrings (r.plugins.map (·.id))), ("optional", .ofStrings (sortTexts r.optional)),
    ("copied", .ofStrings r.copied), ("listing", .str r.listing), ("manifest", .str r.manifest)]

def pathMember? (resolve : String → String) (g : Value) (k : String) : Option (Option String) :=
  (optText? g k).map (·.map resolve)

/-- The goal a request names, with its result as JSON; `none` for a request that
cannot be read. -/
def goal? (resolve : String → String) (g : Value) : Option (SessionStep Value) := do
  match ← text? g "goal" with
  | "libraries" => pure (selectionJson <$> Session.libraries)
  | "tree" => pure do
    let t ← Session.tree
    pure (.obj [("tree", treeJson 0 t), ("order", .ofStrings (t.iterTree.map fun (n, _) => n.id))])
  | "direct_artifacts" => pure ((fun fs => .arr (fs.map facadeJson)) <$> Session.directArtifacts)
  | "project_artifacts" => pure ((fun fs => .arr (fs.map facadeJson)) <$> Session.projectArtifacts)
  | "placements" => pure do
    let a := (← get).assembler
    pure (.arr ((← Session.placements).map (placementJson a)))
  | "explain" => pure do
    let a := (← get).assembler
    verdictsJson <$> a.decide (← Session.projectArtifacts)
  | "manifest_header" => pure ((fun h => attributesJson h.toAttributes) <$> Session.manifestHeader)
  | "package" => pure do
    let a := (← get).assembler
    packageJson a <$> Session.package
  | "hpl" =>
    let home := resolve ((← optText? g "home").getD "home")
    pure (Value.ofOption <$> Session.writeDevelopmentDescriptor home)
  | "test_hpl" => pure (Value.ofOption <$> Session.writeTestDescriptor)
  | "assemble_dependencies" =>
    let out := resolve ((← optText? g "out").getD "out")
    let jpi := (← optFlag? g "jpi").getD false
    pure (Value.ofStrings <$> Session.assembleDependencies out jpi)
  | "list_plugin_dependencies" =>
    let out ← pathMember? resolve g "out"
    pure (Value.ofStrings <$> Session.listPluginDependencies out)
  | "bundle_plugins" =>
    let outputDir ← pathMember? resolve g "output_dir"
    let optionalDir ← pathMember? resolve g "optional_dir"
    let ignore := (← optFlag? g "ignore").getD false
    pure (bundleJson <$> Session.bundlePlugins outputDir optionalDir ignore)
  | "custom_war" =>
    let output ← pathMember? resolve g "output"
    let warId ← optText? g "war_id"
    let addSelf := (← optFlag? g "add_self").getD false
    pure (Value.str <$> Session.customWar output warId addSelf)
  | "validate" => pure (Value.str <$> Session.validateCoreCompatibility)
  | "record_core_location" => pure (Value.bool <$> Session.recordCoreLocation)
  | _ => none

end PluginPack.Interchange
