import PluginPack.Json.Write
import PluginPack.Artifact.Filter
import PluginPack.Assembly.Classpath
import PluginPack.Config
import PluginPack.Isolation.Source
import PluginPack.Manifest.Header
import PluginPack.Resolve.Tree
import PluginPack.Traverse.Policy

/-!
Reading the packager's values from their JSON forms.

Coordinates are objects with `g`, `a`, `v` and optionally `type` (default
`jar`), `classifier`, `scope` and `optional` (default false); a member that is
null counts as absent. An artifact adds its `file`, its `trail` and its
`packaging`; a tree node adds its `file`, `packaging`, `exclusions` as
`[group, artifact]` pairs, the `winner` version and its `children`. Member names
of other objects are the snake-case names of their fields. Paths are given
relative to a base directory, which the caller applies through `resolve`.

Every reader answers `none` for a form it cannot read.
-/

namespace PluginPack.Interchange

open PluginPack.Json

def member? (v : Value) (k : String) : Option Value :=
  match v.get? k with
  | some .null => none
  | other => other

def text? (v : Value) (k : String) : Option String := (member? v k).bind Value.asString?

def optText? (v : Value) (k : String) : Option (Option String) :=
  match member? v k with
  | none => some none
  | some (.str s) => some (some s)
  | some _ => none

def optFlag? (v : Value) (k : String) : Option (Option Bool) :=
  match member? v k with
  | none => some none
  | some (.bool b) => some (some b)
  | some _ => none

def texts? (v : Value) : Option (List String) := do
  (← v.asArray?).mapM Value.asString?

def optTexts? (v : Value) (k : String) : Option (List String) :=
  match member? v k with
  | none => some []
  | some x => texts? x

def pairs? (v : Value) : Option (List (String × String)) := do
  (← v.asArray?).mapM fun p => do
    match ← p.asArray? with
    | [.str k, .str x] => pure (k, x)
    | _ => none

def textMap? (v : Value) : Option (List (String × String)) := do
  (← v.asObject?).mapM fun (k, x) => do pure (k, ← x.asString?)

def scopes? (v : Value) : Option (List (Option String)) := do
  (← v.asArray?).mapM fun x =>
    match x with
    | .null => some none
    | .str s => some (some s)
    | _ => none

def coordinate? (v : Value) : Option Artifact.Coordinate := do
  pure {
    groupId := ← text? v "g", artifactId := ← text? v "a", version := ← text? v "v"
    type := (← optText? v "type").getD "jar"
    classifier := ← optText? v "classifier"
    scope := ← optText? v "scope"
    optional := (← optFlag? v "optional").getD false }

def facade? (resolve : String → String) (v : Value) : Option Artifact.Facade := do
  let c ← coordinate? v
  let file ← optText? v "file"
  let trail ← optTexts? v "trail"
  pure (Artifact.Facade.make c (file.map resolve) trail (← optText? v "packaging"))

def facades? (resolve : String → String) (v : Value) : Option (List Artifact.Facade) := do
  (← v.asArray?).mapM (facade? resolve)

def exclusion? (v : Value) : Option Project.Exclusion := do
  match ← v.asArray? with
  | [.str g, .str a] => pure { groupId := g, artifactId := a }
  | _ => none

def treeWithin (resolve : String → String) : Nat → Value → Option Resolve.Tree
  | 0, _ => none
  | fuel + 1, v => do
    let c ← coordinate? v
    let file ← optText? v "file"
    let children ← match member? v "children" with
      | some (.arr xs) => xs.mapM (treeWithin resolve fuel)
      | _ => pure []
    let exclusions ← match member? v "exclusions" with
      | some (.arr xs) => xs.mapM exclusion?
      | _ => pure []
    let info : Resolve.NodeInfo := {
      coordinate := c, file := file.map resolve, packaging := ← optText? v "packaging",
      exclusions, winner := ← optText? v "winner" }
    pure (.node info children)

def tree? (resolve : String → String) (v : Value) : Option Resolve.Tree :=
  treeWithin resolve v.weight v

def traversalPolicy? (v : Value) : Option Traverse.Policy := do
  let mode ← match ← optText? v "mode" with
    | some "plugins" => pure Traverse.Mode.plugins
    | some "libraries" | none => pure Traverse.Mode.libraries
    | _ => none
  let scopes ← match member? v "scopes" with
    | some x => texts? x
    | none => pure ["compile", "runtime"]
  pure { mode, scopes, includeOptional := (← optFlag? v "include_optional").getD false,
         bestEffort := (← optFlag? v "best_effort").getD false,
         hostCore := Traverse.HostCore.ofCoreId (← optText? v "core_id") }

def criterionWithin : Nat → Value → Option Artifact.Criterion
  | 0, _ => none
  | fuel + 1, v => do
    match ← v.asObject? with
    | [("scope_in", x)] => pure (.scopeIn (← scopes? x))
    | [("type_in", x)] => pure (.typeIn (← texts? x))
    | [("group_id_in", x)] => pure (.groupIdIn (← texts? x))
    | [("artifact_id_in", x)] => pure (.artifactIdIn (← texts? x))
    | [("is_optional", _)] => pure .isOptional
    | [("all_of", x)] => pure (.allOf (← (← x.asArray?).mapM (criterionWithin fuel)))
    | [("any_of", x)] => pure (.anyOf (← (← x.asArray?).mapM (criterionWithin fuel)))
    | [("negate", x)] => pure (.negate (← criterionWithin fuel x))
    | _ => none

def criterion? (v : Value) : Option Artifact.Criterion := criterionWithin v.weight v

def refinement? (v : Value) : Option Artifact.Refinement := do
  match ← v.asArray? with
  | [.str "scope_is", x] => pure (.scopeIs (← scopes? x))
  | [.str "scope_is_not", x] => pure (.scopeIsNot (← scopes? x))
  | [.str "type_is", x] => pure (.typeIs (← texts? x))
  | [.str "type_is_not", x] => pure (.typeIsNot (← texts? x))
  | [.str "group_id_is", x] => pure (.groupIdIs (← texts? x))
  | [.str "group_id_is_not", x] => pure (.groupIdIsNot (← texts? x))
  | [.str "artifact_id_is", x] => pure (.artifactIdIs (← texts? x))
  | [.str "artifact_id_is_not", x] => pure (.artifactIdIsNot (← texts? x))
  | [.str "optional_is", .bool b] => pure (.optionalIs b)
  | [.str "plugins"] => pure (.plugins false)
  | [.str "plugins", .bool b] => pure (.plugins b)
  | [.str "libraries"] => pure .libraries
  | [.str "sorted_by_id"] => pure .sortedById
  | [.str "retain_all", p] => pure (.retainAll (← criterion? p))
  | [.str "remove_all", p] => pure (.removeAll (← criterion? p))
  | _ => none

def assembler? (resolve : String → String) (v : Value) : Option Assembly.Assembler := do
  let scopes ← match member? v "scopes" with
    | some x => texts? x
    | none => pure ["compile", "runtime"]
  pure { workDir := resolve ((← optText? v "work_dir").getD "work"), scopes,
         hostCore := Traverse.HostCore.ofCoreId (← optText? v "core_id"),
         bestEffort := (← optFlag? v "best_effort").getD false }

def strictText? (v : Value) (k : String) : Option (Option String) :=
  match v.get? k with
  | none | some .null => some none
  | some (.str s) => some (some s)
  | some _ => none

/-- A manifest header from its fields; dependencies are objects, licences
`[name, url]` pairs. -/
def header? (j : Value) : Option Manifest.Header := do
  let deps ← match j.get? "dependencies" with
    | some (.arr a) => a.mapM fun d => do
        pure { artifactId := ← (d.get? "artifact_id").bind Value.asString?,
               version := ← (d.get? "version").bind Value.asString?,
               optional := (← optFlag? d "optional").getD false : Manifest.PluginDependency }
    | none => pure []
    | _ => none
  let licenses ← match j.get? "licenses" with
    | some (.arr a) => a.mapM fun l => do
        match l with
        | .arr [n, u] =>
          let n ← match n with | .null => pure none | .str s => pure (some s) | _ => none
          let u ← match u with | .null => pure none | .str s => pure (some s) | _ => none
          pure (n, u)
        | _ => none
    | none => pure []
    | _ => none
  pure {
    pluginClass := ← strictText? j "plugin_class"
    groupId := ← (j.get? "group_id").bind Value.asString?
    artifactId := ← (j.get? "artifact_id").bind Value.asString?
    shortName := ← (j.get? "short_name").bind Value.asString?
    longName := ← (j.get? "long_name").bind Value.asString?
    url := ← strictText? j "url"
    compatibleSinceVersion := ← strictText? j "compatible_since_version"
    sandboxStatus := ← strictText? j "sandbox_status"
    pluginVersion := ← strictText? j "plugin_version"
    coreVersion := ← strictText? j "core_version"
    maskClasses := ← strictText? j "mask_classes"
    globalMaskClasses := ← strictText? j "global_mask_classes"
    pluginFirstClassLoader := (← optFlag? j "plugin_first_classloader").getD false
    dependencies := deps
    developers := ← strictText? j "developers"
    supportDynamicLoading := ← optFlag? j "support_dynamic_loading"
    licenses := licenses
    changelogUrl := ← strictText? j "changelog_url"
    logoUrl := ← strictText? j "logo_url"
    scmConnection := ← strictText? j "scm_connection"
    scmTag := ← strictText? j "scm_tag"
    scmUrl := ← strictText? j "scm_url"
    gitHash := ← strictText? j "git_hash"
    modulePath := ← strictText? j "module_path" }

/-- A source of classes: a fixed table, a class path of files, or the empty source.
Names listed without locations are located at `static:<name>`. -/
def classSource? (resolve : String → String) (v : Value) : Option Isolation.Source := do
  match v.get? "static", v.get? "archive" with
  | some st, _ =>
    let classes ← match member? st "classes" with
      | some (.arr names) => names.mapM fun n => do
          let n ← n.asString?
          pure (n, "static:" ++ n)
      | some c => textMap? c
      | none => pure []
    let resources ← match member? st "resources" with
      | some r => (← r.asObject?).mapM fun (k, xs) => do pure (k, ← texts? xs)
      | none => pure []
    pure (.fixed classes resources)
  | none, some paths => pure (.classPath ((← texts? paths).map resolve))
  | none, none => pure .empty

def isolationPolicy? (v : Value) : Option Isolation.Policy := do
  match v with
  | .str "masking" => pure Isolation.maskingPolicy
  | .str "servlet" => pure Isolation.servletApiOnlyPolicy
  | .str "container" => pure Isolation.containerAndServletPolicy
  | .obj _ =>
    pure { name := ← text? v "name",
           maskedClassPrefixes := ← optTexts? v "masked_class_prefixes",
           maskedResourcePrefixes := ← optTexts? v "masked_resource_prefixes",
           maskServices := (← optFlag? v "mask_services").getD false,
           exportedClassPrefixes := ← optTexts? v "exported_class_prefixes",
           exportedResources := ← match member? v "exported_resources" with
             | some x => do pure (some (← texts? x))
             | none => pure none }
  | _ => none

/-- A loader over named sources: a policy with its parent and secondary source, or
the run chain of a host and a container. -/
def loader? (sources : List (String × Isolation.Source)) (v : Value) : Option Isolation.Source := do
  let named (k : String) : Option (Option Isolation.Source) :=
    match member? v k with
    | some (.str n) => (sources.lookup n).map some
    | none => some none
    | some _ => none
  if (← optFlag? v "chain") == some true then
    let host ← (← named "host")
    let container ← (← named "container")
    pure (Isolation.runChain host container ((← optFlag? v "expose").getD false))
  else
    let policy ← isolationPolicy? (← v.get? "policy")
    pure (.isolating policy ((← named "parent").getD .empty) (← named "secondary"))

def overrides? (resolve : String → String) (v : Value) : Option Config.Overrides := do
  pure {
    localRepository := (← optText? v "local_repository").map resolve
    workspaceMap := (← optText? v "workspace_map").map resolve
    scopes := ← match member? v "scopes" with
      | some x => do pure (some (← texts? x))
      | none => pure none
    includeOptional := ← optFlag? v "include_optional"
    coreId := ← optText? v "core_id"
    coreVersionOverride := ← optText? v "core_version_override"
    versionOverride := ← optText? v "version_override"
    versionDescription := ← optText? v "version_description"
    failOnVersionOverride := ← optFlag? v "fail_on_version_override"
    compatibleSince := ← optText? v "compatible_since"
    maskClasses := ← optText? v "mask_classes"
    globalMaskClasses := ← optText? v "global_mask_classes"
    pluginFirstClassLoader := ← optFlag? v "plugin_first_classloader"
    sandboxStatus := ← optText? v "sandbox_status" }

end PluginPack.Interchange
