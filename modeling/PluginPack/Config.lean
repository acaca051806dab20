import PluginPack.Error
import PluginPack.Files.Path
import PluginPack.Text.Blank
import PluginPack.Text.Case
import PluginPack.Text.Quoted

/-!
The packager's settings, read from `HPI_*` environment variables and overridden
by command-line options.

A variable that is unset or blank keeps the default. Flags accept `1`, `true`,
`yes`, `on` and `0`, `false`, `no`, `off` in any case, around blanks; anything
else is refused. Scopes are a comma-separated list whose blank items are
dropped. Paths starting with `~` or `~name` are taken below the home directory of
the user or of that account.

A valid configuration names at least one scope, only known scopes, a core id with
exactly one `:` and a sandbox status of `safe` or `unsafe`.
-/

namespace PluginPack

structure Config where
  localRepository : String
  workspaceMap : String
  scopes : List String := ["compile", "runtime"]
  includeOptional : Bool := false
  coreId : Option String := none
  coreVersionOverride : Option String := none
  versionOverride : Option String := none
  versionDescription : Option String := none
  failOnVersionOverride : Bool := true
  compatibleSince : Option String := none
  maskClasses : Option String := none
  globalMaskClasses : Option String := none
  pluginFirstClassLoader : Bool := false
  sandboxStatus : Option String := none
  deriving Repr, Inhabited

structure Config.Overrides where
  localRepository : Option String := none
  workspaceMap : Option String := none
  scopes : Option (List String) := none
  includeOptional : Option Bool := none
  coreId : Option String := none
  coreVersionOverride : Option String := none
  versionOverride : Option String := none
  versionDescription : Option String := none
  failOnVersionOverride : Option Bool := none
  compatibleSince : Option String := none
  maskClasses : Option String := none
  globalMaskClasses : Option String := none
  pluginFirstClassLoader : Option Bool := none
  sandboxStatus : Option String := none
  deriving Repr, Inhabited

namespace Config

def variableNames : List String :=
  ["HPI_LOCAL_REPOSITORY", "HPI_WORKSPACE_MAP", "HPI_SCOPES", "HPI_INCLUDE_OPTIONAL", "HPI_CORE_ID",
   "HPI_CORE_VERSION_OVERRIDE", "HPI_VERSION_OVERRIDE", "HPI_VERSION_DESCRIPTION",
   "HPI_FAIL_ON_VERSION_OVERRIDE", "HPI_COMPATIBLE_SINCE", "HPI_MASK_CLASSES", "HPI_GLOBAL_MASK_CLASSES",
   "HPI_PLUGIN_FIRST_CLASSLOADER", "HPI_SANDBOX_STATUS"]

def knownScopes : List String := ["compile", "runtime", "provided", "system", "test", "import"]

def sandboxStatuses : List String := ["safe", "unsafe"]

/-- Where home directories are: the user's own, and those of the accounts that
the system knows by name. -/
structure Homes where
  own : String
  accounts : List (String × String) := []

/-- A path in normal spelling whose first component `~` or `~name` is replaced by
the user's or that account's home directory (without its trailing slashes); an
unknown account is an error. -/
def expandHome (homes : Homes) (p : String) : Outcome String :=
  let norm := Files.Path.normalize p
  match Files.Path.rootOf norm, Files.Path.parts norm with
  | "", first :: rest =>
    if first.startsWith "~" then
      let account := String.ofList (first.toList.drop 1)
      let dir := if account.isEmpty then some homes.own else homes.accounts.lookup account
      match dir with
      | none => .error .homeUnknown
      | some d =>
        let d := String.ofList (d.toList.reverse.dropWhile (· == '/')).reverse
        let d := if d.isEmpty then "/" else d
        if d.startsWith "~" then .error .homeUnknown
        else .ok (Files.Path.build (Files.Path.rootOf d) (Files.Path.parts d ++ rest))
    else .ok norm
  | _, _ => .ok norm

def defaults (home : String) : Config where
  localRepository := Files.Path.join home ".m2/repository"
  workspaceMap := Files.Path.join home ".jenkins-hpl-map"

def optionalVar (env : String → Option String) (name : String) : Option String :=
  match env name with
  | some raw => if (Text.trim raw).isEmpty then none else some (Text.trim raw)
  | none => none

def flagVar (env : String → Option String) (name : String) (default : Bool) : Outcome Bool :=
  match env name with
  | none => .ok default
  | some raw =>
    let value := Text.lower (Text.trim raw)
    if value.isEmpty then .ok default
    else if ["1", "true", "yes", "on"].contains value then .ok true
    else if ["0", "false", "no", "off"].contains value then .ok false
    else .error (.misconfigured (name ++ " must be a boolean, got " ++ Text.quoted raw))

def listItems (s : String) : List String :=
  ((s.splitOn ",").map Text.trim).filter fun x => !x.isEmpty

def fromEnv (homes : Homes) (env : String → Option String) : Outcome Config := do
  let base := defaults homes.own
  let localRepository ← match optionalVar env "HPI_LOCAL_REPOSITORY" with
    | some p => expandHome homes p
    | none => pure base.localRepository
  let workspaceMap ← match optionalVar env "HPI_WORKSPACE_MAP" with
    | some p => expandHome homes p
    | none => pure base.workspaceMap
  let includeOptional ← flagVar env "HPI_INCLUDE_OPTIONAL" false
  let failOnVersionOverride ← flagVar env "HPI_FAIL_ON_VERSION_OVERRIDE" true
  let pluginFirstClassLoader ← flagVar env "HPI_PLUGIN_FIRST_CLASSLOADER" false
  pure {
    localRepository
    workspaceMap
    scopes := ((optionalVar env "HPI_SCOPES").map listItems).getD base.scopes
    includeOptional
    coreId := optionalVar env "HPI_CORE_ID"
    coreVersionOverride := optionalVar env "HPI_CORE_VERSION_OVERRIDE"
    versionOverride := optionalVar env "HPI_VERSION_OVERRIDE"
    versionDescription := optionalVar env "HPI_VERSION_DESCRIPTION"
    failOnVersionOverride
    compatibleSince := optionalVar env "HPI_COMPATIBLE_SINCE"
    maskClasses := optionalVar env "HPI_MASK_CLASSES"
    globalMaskClasses := optionalVar env "HPI_GLOBAL_MASK_CLASSES"
    pluginFirstClassLoader
    sandboxStatus := optionalVar env "HPI_SANDBOX_STATUS" }

def withOverrides (c : Config) (o : Overrides) : Config where
  localRepository := o.localRepository.getD c.localRepository
  workspaceMap := o.workspaceMap.getD c.workspaceMap
  scopes := o.scopes.getD c.scopes
  includeOptional := o.includeOptional.getD c.includeOptional
  coreId := o.coreId.orElse fun _ => c.coreId
  coreVersionOverride := o.coreVersionOverride.orElse fun _ => c.coreVersionOverride
  versionOverride := o.versionOverride.orElse fun _ => c.versionOverride
  versionDescription := o.versionDescription.orElse fun _ => c.versionDescription
  failOnVersionOverride := o.failOnVersionOverride.getD c.failOnVersionOverride
  compatibleSince := o.compatibleSince.orElse fun _ => c.compatibleSince
  maskClasses := o.maskClasses.orElse fun _ => c.maskClasses
  globalMaskClasses := o.globalMaskClasses.orElse fun _ => c.globalMaskClasses
  pluginFirstClassLoader := o.pluginFirstClassLoader.getD c.pluginFirstClassLoader
  sandboxStatus := o.sandboxStatus.orElse fun _ => c.sandboxStatus

def sortedDistinct (xs : List String) : List String :=
  (xs.foldl (fun acc x => if acc.contains x then acc else acc ++ [x]) []).mergeSort
    fun a b => decide (a ≤ b)

def validate (c : Config) : Outcome Unit := do
  if c.scopes.isEmpty then throw (.misconfigured "HPI_SCOPES must name at least one scope")
  let unknown := sortedDistinct (c.scopes.filter fun s => !knownScopes.contains s)
  if !unknown.isEmpty then
    throw (.misconfigured ("Unknown scope(s) in HPI_SCOPES: " ++ ", ".intercalate unknown))
  if let some id := c.coreId then
    if (id.toList.filter (· == ':')).length != 1 then
      throw (.misconfigured ("HPI_CORE_ID must be groupId:artifactId, got " ++ Text.quoted id))
  if let some s := c.sandboxStatus then
    if !sandboxStatuses.contains s then
      throw (.misconfigured "HPI_SANDBOX_STATUS must be one of ['safe', 'unsafe']")

end Config

end PluginPack
