import PluginPack.Manifest.Basic

/-!
The metadata header that every packaged plugin carries in its manifest.

The header's fields are written as attributes in a fixed order; a field without a
value is left out. Licences are numbered: the first is written without a suffix,
the i-th after it with the suffix `-i`.
-/

namespace PluginPack.Manifest

structure PluginDependency where
  artifactId : String
  version : String
  optional : Bool := false
  deriving Repr, Inhabited

def PluginDependency.render (d : PluginDependency) : String :=
  d.artifactId ++ ":" ++ d.version ++ (if d.optional then ";resolution:=optional" else "")

structure Header where
  pluginClass : Option String := none
  groupId : String
  artifactId : String
  shortName : String
  longName : String
  url : Option String := none
  compatibleSinceVersion : Option String := none
  sandboxStatus : Option String := none
  pluginVersion : Option String := none
  coreVersion : Option String := none
  maskClasses : Option String := none
  globalMaskClasses : Option String := none
  pluginFirstClassLoader : Bool := false
  dependencies : List PluginDependency := []
  developers : Option String := none
  supportDynamicLoading : Option Bool := none
  licenses : List (Option String × Option String) := []
  changelogUrl : Option String := none
  logoUrl : Option String := none
  scmConnection : Option String := none
  scmTag : Option String := none
  scmUrl : Option String := none
  gitHash : Option String := none
  modulePath : Option String := none
  deriving Repr, Inhabited

def Header.dependencyString (h : Header) : String :=
  ",".intercalate (h.dependencies.map PluginDependency.render)

def optionalPair (name : String) : Option String → List (String × String)
  | some v => [(name, v)]
  | none => []

def licensePairs (i : Nat) (license : Option String × Option String) : List (String × String) :=
  let suffix := if i == 1 then "" else "-" ++ toString i
  optionalPair ("Plugin-License-Name" ++ suffix) license.1 ++
    optionalPair ("Plugin-License-Url" ++ suffix) license.2

def Header.toAttributes (h : Header) : Attributes :=
  OrderedMap.ofList <|
    optionalPair "Plugin-Class" h.pluginClass ++
    [("Group-Id", h.groupId), ("Artifact-Id", h.artifactId), ("Short-Name", h.shortName),
      ("Long-Name", h.longName)] ++
    optionalPair "Url" h.url ++
    optionalPair "Compatible-Since-Version" h.compatibleSinceVersion ++
    optionalPair "Sandbox-Status" h.sandboxStatus ++
    optionalPair "Plugin-Version" h.pluginVersion ++
    optionalPair "Hudson-Version" h.coreVersion ++
    optionalPair "Jenkins-Version" h.coreVersion ++
    optionalPair "Mask-Classes" h.maskClasses ++
    optionalPair "Global-Mask-Classes" h.globalMaskClasses ++
    (if h.pluginFirstClassLoader then [("PluginFirstClassLoader", "true")] else []) ++
    (if h.dependencies.isEmpty then [] else [("Plugin-Dependencies", h.dependencyString)]) ++
    optionalPair "Plugin-Developers" h.developers ++
    optionalPair "Support-Dynamic-Loading"
      (h.supportDynamicLoading.map fun b => if b then "true" else "false") ++
    ((List.range h.licenses.length).zip h.licenses).flatMap (fun (i, l) => licensePairs (i + 1) l) ++
    optionalPair "Plugin-ChangelogUrl" h.changelogUrl ++
    optionalPair "Plugin-LogoUrl" h.logoUrl ++
    optionalPair "Plugin-ScmConnection" h.scmConnection ++
    optionalPair "Plugin-ScmTag" h.scmTag ++
    optionalPair "Plugin-ScmUrl" h.scmUrl ++
    optionalPair "Plugin-GitHash" h.gitHash ++
    optionalPair "Plugin-ModulePath" h.modulePath

def mergeSections (sections : List (List (String × String))) : Attributes :=
  sections.foldl OrderedMap.insertMany {}

end PluginPack.Manifest
