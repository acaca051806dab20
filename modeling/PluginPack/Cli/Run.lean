import PluginPack.Cli.Arguments
import PluginPack.Console.Log
import PluginPack.Console.Markup
import PluginPack.Console.Outline
import PluginPack.Console.Table
import PluginPack.Isolation.Source
import PluginPack.Resolve.Graph
import PluginPack.Session.Develop
import PluginPack.Session.Plugins

/-!
Running a command line over a file tree.

A project command reads the settings from the environment, applies its options
to them, checks them, opens a session on the descriptor and runs its goals. The
log records the goals report come first in the output, debug records only with
`--verbose`; what the command prints follows: tables, outlines and lines of
console markup. A packaging failure prints `Error: <message>` and ends with code
1; any other failure escapes and is named by its kind. An isolation lookup that
finds nothing ends with code 2, and a command line that cannot be read with
code 2 after its usage.
-/

namespace PluginPack.Cli

open PluginPack.Console PluginPack.Artifact

def consoleWidth : Nat := 200

inductive Printout where
  | line (markup : String)
  | table (title : String) (headers : List String) (rows : List (List String))
  | outline (tree : Outline)
  deriving Repr

structure Ending where
  printouts : List Printout := []
  exitCode : Nat := 0
  escaped : Option String := none
  deriving Repr

/-- Where a command line runs: its environment, the home directory and account
of the user, the home directories of the system's accounts, the time, and the
directory above which no repository is searched. -/
structure Surroundings where
  env : String → Option String
  home : String
  account : String
  accounts : List (String × String) := []
  now : Time.Stamp
  searchRoot : String

def Ending.ofFailure (e : PackagingError) : Ending :=
  if e.isPackagingFailure then
    { printouts := [.line ("[bold red]Error:[/bold red] " ++ e.message)], exitCode := 1 }
  else { exitCode := 1, escaped := some e.className }

def settings (s : Surroundings) (repo : Option String) (o : Config.Overrides) : Outcome Config := do
  let c ← Config.fromEnv { own := s.home, accounts := s.accounts } s.env
  let c := c.withOverrides { o with localRepository := repo }
  c.validate
  pure c

def withSession (s : Surroundings) (pom : String) (repo : Option String) (o : Config.Overrides)
    (goals : SessionStep (List Printout)) : Step Ending := do
  let r ← attempt do
    let config ← Step.ofOutcome (settings s repo o)
    let context : Metadata.BuildContext :=
      { now := s.now, user := "", account := s.account, searchRoot := s.searchRoot }
    let session ← Session.start pom config context
    let (printouts, _) ← goals.run session
    pure printouts
  match r with
  | .ok printouts => pure { printouts }
  | .error e => pure (Ending.ofFailure e)

def wrote (path : String) : Printout := .line ("[green]Wrote[/green] " ++ path)

def placementTable (ps : List Assembly.Placement) : Printout :=
  .table "Bundled libraries" ["Artifact", "Destination", "File"] (ps.map fun p =>
    [p.facade.id, if p.destination.path.isEmpty then "(overlay)" else p.destination.path,
      if p.renamedTo.isSome then p.fileName ++ " [yellow](renamed)[/yellow]" else p.fileName])

def decisionStyle : Traverse.Decision → String
  | .bundle => "green"
  | .plugin => "cyan"
  | .duplicate => "yellow"
  | _ => "dim"

def nodeLabel (decisions : List (String × Traverse.Decision)) (n : Resolve.NodeInfo) : String :=
  match decisions.lookup n.id with
  | some d => n.label ++ " [" ++ decisionStyle d ++ "]\\[" ++ d.name ++ "][/" ++ decisionStyle d ++ "]"
  | none => n.label

mutual

def treeOutline (decisions : List (String × Traverse.Decision)) : Resolve.Tree → Outline
  | .node i cs => .node (nodeLabel decisions i) (forestOutline decisions cs)

def forestOutline (decisions : List (String × Traverse.Decision)) : List Resolve.Tree → List Outline
  | [] => []
  | t :: ts => treeOutline decisions t :: forestOutline decisions ts

end

def dependencyOutline (t : Resolve.Tree) (decisions : List (String × Traverse.Decision)) : Outline :=
  let root := "[bold]" ++ t.info.coordinate.gav.compact ++ "[/bold]"
  match t.children with
  | [] => .node root [.node "[dim]No dependencies found[/dim]" []]
  | cs => .node root (forestOutline decisions cs)

def projectGoals : Command → SessionStep (List Printout)
  | .package .. => do
    let r ← Session.package
    pure [placementTable r.placements, wrote r.archive]
  | .hpl _ home _ => do
    match ← Session.writeDevelopmentDescriptor home with
    | some path => pure [wrote path]
    | none => pure [.line "[dim]Not an hpi project, nothing written.[/dim]"]
  | .assembleDependencies _ out _ jpi _ => do
    let copied ← Session.assembleDependencies out jpi
    pure (copied.map Printout.line ++
      [.line ("[green]Copied[/green] " ++ toString copied.length ++ " plugin(s) into [bold]" ++ out ++ "[/bold].")])
  | .listPluginDependencies _ _ out => do
    let lines ← Session.listPluginDependencies out
    pure (lines.map Printout.line)
  | .bundlePlugins _ _ ignore => do
    let r ← Session.bundlePlugins none none ignore
    pure [.table "Bundled plugins" ["Artifact ID", "Version", "Optional", "Group ID"] (r.plugins.map fun a =>
        [a.artifactId, a.version, if r.optional.contains a.artifactId then "optional" else "", a.groupId]),
      wrote r.listing]
  | .customWar _ _ out warId addSelf => do
    pure [wrote (← Session.customWar out warId addSelf)]
  | .testHpl .. => do
    match ← Session.writeTestDescriptor with
    | some path => pure [wrote path]
    | none => pure [.line "[dim]Not an hpi project, nothing written.[/dim]"]
  | .validate .. => do
    let core ← Session.validateCoreCompatibility
    pure [.line ("[green]OK[/green] all plugin dependencies run on core " ++ core)]
  | .tree .. => do
    let selection ← Session.libraries
    let t ← Session.tree
    let warning := if t.toGraph.isAcyclic then []
      else [Printout.line "[yellow]Warning:[/yellow] the dependency graph has a cycle."]
    pure (.outline (dependencyOutline t selection.decisions) :: warning)
  | .explain .. => do
    let a := (← get).assembler
    let verdicts ← a.decide (← Session.projectArtifacts)
    let sorted := verdicts.mergeSort fun x y => decide (x.1 ≤ y.1)
    let s ← get
    pure [.table ("Bundling decisions for " ++ s.project.gav.compact) ["Artifact", "Decision"]
      (sorted.map fun (id, d) => [id, d.name])]
  | .recordCoreLocation .. => do
    if ← Session.recordCoreLocation then
      let s ← get
      pure [.line ("[green]Recorded[/green] " ++ s.layout.basedir ++ " in " ++ s.config.workspaceMap)]
    else pure [.line "[dim]Not a snapshot, nothing recorded.[/dim]"]
  | .isolation .. => pure []

def policyNames : List String := ["masking", "servlet", "container"]

def isolationLookup (name policy : String) (host container : List String) : Step Ending := do
  if !policyNames.contains policy then
    return Ending.ofFailure (.general ("Unknown policy " ++ Text.quoted policy ++ "; expected one of " ++
      ", ".intercalate policyNames))
  let hostSource := Isolation.Source.classPath host
  let loader := if policy == "masking" then Isolation.Source.isolating Isolation.maskingPolicy hostSource none
    else Isolation.runChain hostSource (.classPath container) (policy == "container")
  match loader.findClass (← currentStore) name with
  | .ok location => pure { printouts := [.line ("[green]" ++ name ++ "[/green] -> " ++ location)] }
  | .error (.classNotFound _) =>
    pure { printouts := [.line ("[yellow]" ++ name ++ "[/yellow] is not visible through " ++ policy)],
           exitCode := 2 }
  | .error (.unreadableArchive f) =>
    pure (Ending.ofFailure (if f.isExpected then .general f.message else .archive f))
  | .error .relativeLocation => pure { exitCode := 1, escaped := some "ValueError" }

def execute (s : Surroundings) (c : Command) : Step Ending :=
  match c with
  | .package pom repo versionOverride => withSession s pom repo { versionOverride } (projectGoals c)
  | .hpl pom _ repo | .listPluginDependencies pom repo _ | .bundlePlugins pom repo _
  | .customWar pom repo .. | .testHpl pom repo | .validate pom repo | .tree pom repo | .explain pom repo
  | .recordCoreLocation pom repo => withSession s pom repo {} (projectGoals c)
  | .assembleDependencies pom _ repo _ includeOptional =>
    withSession s pom repo { includeOptional := if includeOptional then some true else none } (projectGoals c)
  | .isolation name policy host container => isolationLookup name policy host container

mutual

def renderOutline : Outline → Except MarkupFault Outline
  | .node label children => do pure (.node (← render label) (← renderForest children))

def renderForest : List Outline → Except MarkupFault (List Outline)
  | [] => pure []
  | o :: os => do pure ((← renderOutline o) :: (← renderForest os))

end

def Printout.lines : Printout → Except MarkupFault (List String)
  | .line markup => do pure (wrapText consoleWidth (← render markup))
  | .table title headers rows => do
    let t : Table := { title := some (← render title), headers := ← headers.mapM render,
                       rows := ← rows.mapM fun r => r.mapM render }
    pure (t.render consoleWidth)
  | .outline o => do pure ((← renderOutline o).render consoleWidth)

structure Transcript where
  lines : List String
  exitCode : Nat
  escaped : Option String
  deriving Repr

/-- The lines of printouts up to the first whose markup is refused, and the kind
of that failure. -/
def printAll : List Printout → List String × Option String
  | [] => ([], none)
  | p :: ps =>
    match p.lines with
    | .ok ls =>
      let (rest, refused) := printAll ps
      (ls ++ rest, refused)
    | .error f => ([], some f.kind)

def Transcript.of (verbose : Bool) (notes : List Note) (e : Ending) : Transcript :=
  let logs := (notes.filter fun n => verbose || n.level != .debug).flatMap fun n =>
    logLines consoleWidth n.level.name n.text
  let (printed, refused) := printAll e.printouts
  match refused with
  | some kind => { lines := logs ++ printed, exitCode := 1, escaped := some kind }
  | none => { lines := logs ++ printed, exitCode := e.exitCode, escaped := e.escaped }

def Transcript.ofUsage (u : UsageError) : Transcript :=
  let inner := consoleWidth - 4
  let help := match u.command with
    | some c => "Try 'root " ++ c ++ " --help' for help."
    | none => "Try 'root --help' for help."
  let rule (n : Nat) := String.ofList (List.replicate n '─')
  { lines := [u.usage, help,
      "╭─ Error " ++ rule (consoleWidth - 10) ++ "╮"] ++
      (wrapText inner u.message).map (fun l => "│ " ++ padTo inner l ++ " │") ++
      ["╰" ++ rule (consoleWidth - 2) ++ "╯"],
    exitCode := 2, escaped := none }

def run (s : Surroundings) (args : List String) (store : Files.Store) : Transcript × Files.Store :=
  match readInvocation args false with
  | .error u => (Transcript.ofUsage u, store)
  | .ok inv =>
    let (r, w) := (execute s inv.command).run' { store }
    let ending := match r with
      | .ok e => e
      | .error e => { exitCode := 1, escaped := some e.className }
    (Transcript.of inv.verbose w.notes.toList ending, w.store)

end PluginPack.Cli
