import PluginPack.Files.Path

/-!
The command line: `[--verbose|-v] COMMAND ARGS...`.

Each command takes its positional arguments in order and its options anywhere
among them, as `--name value` or `--name=value`; a flag takes no value, an
option given twice keeps its last value, and `--host` and `--container` gather
every value. After `--` every argument is positional. Paths are taken in their
normal spelling.

| command | arguments | options |
| --- | --- | --- |
| `package` | `POM` | `--repo`, `--version-override` |
| `hpl` | `POM` | `--home` (required), `--repo` |
| `assemble-dependencies` | `POM` | `--out` (required), `--repo`, `--jpi`, `--include-optional` |
| `list-plugin-dependencies` | `POM` | `--repo`, `--out` |
| `bundle-plugins` | `POM` | `--repo`, `--ignore-optional-conflicts` |
| `custom-war` | `POM` | `--repo`, `--out`, `--war-id`, `--add-self` |
| `test-hpl`, `validate`, `tree`, `explain`, `record-core-location` | `POM` | `--repo` |
| `isolation` | `NAME` | `--policy` (default `servlet`), `--host`, `--container` |
-/

namespace PluginPack.Cli

inductive Command where
  | package (pom : String) (repo : Option String) (versionOverride : Option String)
  | hpl (pom : String) (home : String) (repo : Option String)
  | assembleDependencies (pom : String) (out : String) (repo : Option String) (jpi includeOptional : Bool)
  | listPluginDependencies (pom : String) (repo : Option String) (out : Option String)
  | bundlePlugins (pom : String) (repo : Option String) (ignoreConflicts : Bool)
  | customWar (pom : String) (repo : Option String) (out : Option String) (warId : Option String)
      (addSelf : Bool)
  | testHpl (pom : String) (repo : Option String)
  | validate (pom : String) (repo : Option String)
  | tree (pom : String) (repo : Option String)
  | explain (pom : String) (repo : Option String)
  | recordCoreLocation (pom : String) (repo : Option String)
  | isolation (name : String) (policy : String) (host container : List String)
  deriving Repr, Inhabited

structure Invocation where
  verbose : Bool := false
  command : Command
  deriving Repr, Inhabited

structure UsageError where
  command : Option String
  usage : String
  message : String
  deriving Repr

inductive Arity where
  | flag
  | single
  | many
  deriving DecidableEq, Repr

/-- What the arguments of a command hold: positional ones in order, option values
in order, and the flags given. -/
structure Given where
  positional : List String := []
  values : List (String × String) := []
  flags : List String := []
  deriving Repr

def Given.last? (g : Given) (name : String) : Option String :=
  ((g.values.filter (·.1 == name)).getLast?).map (·.2)

def Given.all (g : Given) (name : String) : List String :=
  (g.values.filter (·.1 == name)).map (·.2)

def Given.has (g : Given) (name : String) : Bool := g.flags.contains name

/-- Sorts the arguments of a command into positional ones, option values and flags.
`waiting` names an option whose value is the next argument, whatever it looks like. -/
def sortArguments (options : List (String × Arity)) : Option String → List String → Given → Except String Given
  | some name, [], _ => .error ("Option '" ++ name ++ "' requires an argument.")
  | some name, v :: rest, g => sortArguments options none rest { g with values := g.values ++ [(name, v)] }
  | none, [], g => .ok g
  | none, "--" :: rest, g => .ok { g with positional := g.positional ++ rest }
  | none, arg :: rest, g =>
    if arg.startsWith "-" && arg.length > 1 then
      let (name, inline) := match arg.splitOn "=" with
        | [n] => (n, none)
        | n :: vs => (n, some ("=".intercalate vs))
        | [] => (arg, none)
      match options.lookup name, inline with
      | none, _ => .error ("No such option: " ++ name)
      | some .flag, some _ => .error ("Option '" ++ name ++ "' does not take a value.")
      | some .flag, none => sortArguments options none rest { g with flags := g.flags ++ [name] }
      | some _, some v => sortArguments options none rest { g with values := g.values ++ [(name, v)] }
      | some _, none => sortArguments options (some name) rest g
    else sortArguments options none rest { g with positional := g.positional ++ [arg] }

def repoOption : List (String × Arity) := [("--repo", .single)]

def commandOptions : String → Option (List (String × Arity) × String)
  | "package" => some (repoOption ++ [("--version-override", .single)], "POM")
  | "hpl" => some (repoOption ++ [("--home", .single)], "POM")
  | "assemble-dependencies" =>
    some (repoOption ++ [("--out", .single), ("--jpi", .flag), ("--include-optional", .flag)], "POM")
  | "list-plugin-dependencies" => some (repoOption ++ [("--out", .single)], "POM")
  | "bundle-plugins" => some (repoOption ++ [("--ignore-optional-conflicts", .flag)], "POM")
  | "custom-war" =>
    some (repoOption ++ [("--out", .single), ("--war-id", .single), ("--add-self", .flag)], "POM")
  | "test-hpl" | "validate" | "tree" | "explain" | "record-core-location" => some (repoOption, "POM")
  | "isolation" => some ([("--policy", .single), ("--host", .many), ("--container", .many)], "NAME")
  | _ => none

def readCommand (name : String) (args : List String) : Except UsageError Command := do
  let (options, argName) ← match commandOptions name with
    | some o => pure o
    | none => throw ⟨none, "Usage: root [OPTIONS] COMMAND [ARGS]...", "No such command '" ++ name ++ "'."⟩
  let fail (message : String) : UsageError :=
    ⟨some name, "Usage: root " ++ name ++ " [OPTIONS] " ++ argName, message⟩
  let g ← (sortArguments options none args {}).mapError fail
  let first ← match g.positional with
    | [a] => pure a
    | [] => throw (fail ("Missing argument '" ++ argName ++ "'."))
    | _ :: extra :: _ => throw (fail ("Got unexpected extra argument (" ++ extra ++ ")"))
  let pom := Files.Path.normalize first
  let path (o : String) := (g.last? o).map Files.Path.normalize
  let repo := path "--repo"
  let required (o : String) : Except UsageError String :=
    match path o with
    | some v => pure v
    | none => throw (fail ("Missing option '" ++ o ++ "'."))
  match name with
  | "package" => pure (.package pom repo (g.last? "--version-override"))
  | "hpl" => pure (.hpl pom (← required "--home") repo)
  | "assemble-dependencies" =>
    pure (.assembleDependencies pom (← required "--out") repo (g.has "--jpi") (g.has "--include-optional"))
  | "list-plugin-dependencies" => pure (.listPluginDependencies pom repo (path "--out"))
  | "bundle-plugins" => pure (.bundlePlugins pom repo (g.has "--ignore-optional-conflicts"))
  | "custom-war" => pure (.customWar pom repo (path "--out") (g.last? "--war-id") (g.has "--add-self"))
  | "test-hpl" => pure (.testHpl pom repo)
  | "validate" => pure (.validate pom repo)
  | "tree" => pure (.tree pom repo)
  | "explain" => pure (.explain pom repo)
  | "record-core-location" => pure (.recordCoreLocation pom repo)
  | _ =>
    pure (.isolation first ((g.last? "--policy").getD "servlet") ((g.all "--host").map Files.Path.normalize)
      ((g.all "--container").map Files.Path.normalize))

def readInvocation : List String → Bool → Except UsageError Invocation
  | "--verbose" :: rest, _ | "-v" :: rest, _ => readInvocation rest true
  | [], _ => .error ⟨none, "Usage: root [OPTIONS] COMMAND [ARGS]...", "Missing command."⟩
  | name :: rest, verbose =>
    if name.startsWith "-" then .error ⟨none, "Usage: root [OPTIONS] COMMAND [ARGS]...", "No such option: " ++ name⟩
    else do pure { verbose, command := ← readCommand name rest }

end PluginPack.Cli
