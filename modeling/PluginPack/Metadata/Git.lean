import PluginPack.Files.Store
import PluginPack.Metadata.Git.Checks
import PluginPack.Metadata.Git.Packed
import PluginPack.Text.Utf8

/-!
The commit and the work tree of a project checked out from git, read from the
repository files themselves.

The repository of a directory is found by looking at the directory and then at
each directory above it, up to a search root. A directory holds a repository when
its `.git` is a repository directory: a valid `HEAD`, an `objects` directory and
a `refs` directory. A `.git` file reads `gitdir: <path>` and must lead to such a
directory, or nothing can be read at all; a `.git` directory that is not a
repository is passed over. A directory that is itself a repository directory is
a bare repository, which has a commit but no work tree of its own.

The repository's configuration must be readable and declare a usable format, and
every variable that git checks when it starts must pass its check, or nothing
can be read either. A format that declares the repository bare takes its work
tree away; one that names a work tree (`core.worktree`, relative to the
repository directory) puts it there, and that directory must exist when it is
named relative.

The commit is what `HEAD` leads to. A revision name stands for the first of
itself, `refs/<name>`, `refs/tags/<name>`, `refs/heads/<name>`,
`refs/remotes/<name>` and `refs/remotes/<name>/HEAD` that resolves; unless
`core.warnAmbiguousRefs` is off, every one of them is looked up, so a
`packed-refs` file that cannot be read stops the lookup even when `HEAD` itself
resolves. A ref is a loose file below the repository directory, or, when there
is none, a record of `packed-refs`; a ref names another ref at most five times
over, and every name on the way must be a valid ref name.
-/

namespace PluginPack.Metadata.Git

open PluginPack.Files

structure Repository where
  gitDir : String
  top : Option String
  hexLength : Nat
  /-- Whether a revision name is looked up under every name it can stand for,
  not only until one resolves. -/
  lookUpAll : Bool

inductive Discovery where
  | found (repo : Repository)
  | broken
  | none

def fileBytes? (store : Store) (p : String) : Option ByteArray :=
  match store.get? p with
  | some (.file bytes _) => some bytes
  | _ => Option.none

def fileText? (store : Store) (p : String) : Option String :=
  (fileBytes? store p).map Text.decodeUtf8Lossy

def isRepositoryDir (store : Store) (d : String) : Bool :=
  store.isDir (Path.join d "objects") && store.isDir (Path.join d "refs") &&
    ((fileBytes? store (Path.join d "HEAD")).map (headIsValid ·.toList)).getD false

def followGitFile (store : Store) (dir : String) (bytes : ByteArray) : Option String :=
  let bs := bytes.toList
  if !(bytesOf "gitdir: ").isPrefixOf (cString bs) then Option.none
  else
    let trimmed := (bs.reverse.dropWhile fun b => b == 0x0A || b == 0x0D).reverse
    if trimmed.length < 9 then Option.none
    else
      let gitDir := Path.join dir (Text.decodeUtf8Lossy ⟨(cString (trimmed.drop 8)).toArray⟩)
      if isRepositoryDir store gitDir then some (store.resolve gitDir) else Option.none

/-- The variables of a configuration file with every file it includes read in
place of its `include.path`, at most `depth` includes deep; `dir` is where the
file is. `none` when an included file has an error or an include cannot be read. -/
def withIncludes (store : Store) : Nat → String → List (String × Option String) →
    Option (List (String × Option String))
  | 0, _, _ => Option.none
  | depth + 1, dir, entries =>
    entries.foldlM (fun acc (key, v) =>
      if key != "include.path" then some (acc ++ [(key, v)])
      else
        match v with
        | Option.none | some "" => Option.none
        | some p =>
          let path := Path.join dir p
          if p.startsWith "~" then some (acc ++ [(key, v)])
          else
            match store.get? path with
            | some (.dir _) => Option.none
            | some (.file bytes _) => do
              let included ← readConfig (Text.decodeUtf8Lossy bytes)
              let expanded ← withIncludes store depth (Path.parent (store.resolve path)) included
              some (acc ++ [(key, v)] ++ expanded)
            | Option.none => some (acc ++ [(key, v)])) []

def configEntries (store : Store) (p : String) : Option (List (String × Option String)) :=
  match store.get? p with
  | some (.file bytes _) => readConfig (Text.decodeUtf8Lossy bytes)
  | some (.dir _) => Option.none
  | Option.none => some []

def worktreeSettings (entries : List (String × Option String)) (bare : Option Bool)
    (worktree : Option String) : Option (Option Bool × Option String) :=
  entries.foldlM (fun (bare, worktree) (key, v) =>
    if key == "core.bare" then (configBool? v).map fun b => (some b, worktree)
    else if key == "core.worktree" then v.map fun w => (bare, some w)
    else some (bare, worktree)) (bare, worktree)

/-- The directory a configured work tree names; `none` when git cannot get there.
A relative one is reached from the repository directory and must exist; of an
absolute one, every directory above it must exist. -/
def worktreeDir (store : Store) (gitDir w : String) : Option String :=
  if Path.isAbsolute w then
    let target := Path.physical w
    if (Path.ancestors target).all fun a => a == target || store.isDir a then some target
    else Option.none
  else
    let target := Path.join gitDir w
    if store.isDir target then some (store.resolve target) else Option.none

/-- A repository directory read with its configuration; `top` is the work tree
it belongs to, if any, and `bareDir` tells that it was found as a bare repository. -/
def readRepository (store : Store) (gitDir : String) (top : Option String) (bareDir : Bool) :
    Discovery :=
  let configPath := Path.join gitDir "config"
  let result : Option Repository := do
    if store.isDir configPath then Option.none
    let f ← RepoFormat.ofConfig (fileText? store configPath)
    if !f.usable then Option.none
    let worktreeEntries ← if f.worktreeConfig then configEntries store (Path.join gitDir "config.worktree")
      else some []
    let (bare, worktree) ← if f.version < 0 then some (Option.none, Option.none)
      else if f.worktreeConfig then worktreeSettings worktreeEntries f.bare f.worktree
      else some (f.bare, f.worktree)
    let entries ← configEntries store configPath
    let entries ← withIncludes store 10 gitDir (entries ++ worktreeEntries)
    if !entries.all (passesStartup f.hexLength) then Option.none
    let lookUpAll := entries.foldl (fun acc (key, v) =>
      if key == "core.warnambiguousrefs" then (configBool? v).getD acc else acc) true
    let top ← if bare == some true then some Option.none
      else match worktree with
        | some w => (worktreeDir store gitDir w).map some
        | Option.none => some (if bareDir then Option.none else top)
    pure { gitDir, top, hexLength := f.hexLength, lookUpAll }
  match result with
  | some repo => .found repo
  | Option.none => .broken

def discoverAt (store : Store) (d : String) : Option Discovery :=
  let dotGit := Path.join d ".git"
  match store.get? dotGit with
  | some (.file bytes _) =>
    match followGitFile store d bytes with
    | some gitDir => some (readRepository store gitDir (some d) false)
    | Option.none => some .broken
  | some (.dir _) =>
    if isRepositoryDir store dotGit then some (readRepository store dotGit (some d) false)
    else if isRepositoryDir store d then some (readRepository store d Option.none true)
    else Option.none
  | Option.none =>
    if isRepositoryDir store d then some (readRepository store d Option.none true) else Option.none

def discover (store : Store) (searchRoot dir : String) : Discovery :=
  let dir := store.resolve dir
  let dirs := (dir :: Path.ancestors dir).filter fun d =>
    d == Path.normalize searchRoot || Path.isBelow searchRoot d
  (dirs.findSome? (discoverAt store)).getD .none

def packedFileOf (store : Store) (repo : Repository) : PackedFile :=
  match store.get? (Path.join repo.gitDir "packed-refs") with
  | some (.file bytes _) => PackedFile.ofBytes repo.hexLength bytes
  | some (.dir _) => .unreadable
  | Option.none => .absent

/-- What a ref name leads to, following at most `depth` refs that name others;
every name on the way must be valid. A name with no loose file is looked up in
`packed-refs`, unless a file stands where a directory on its way should be. -/
def resolveRef (store : Store) (repo : Repository) (packed : PackedFile) :
    Nat → List UInt8 → Lookup
  | 0, _ => .missing
  | depth + 1, name =>
    if !isValidName name then .missing
    else
      let fromPacked := packed.lookup repo.hexLength name
      match String.fromUTF8? ⟨name.toArray⟩ with
      | Option.none => fromPacked
      | some relative =>
        let path := Path.join repo.gitDir relative
        match store.get? path with
        | some (.file bytes _) =>
          match RefContent.read repo.hexLength bytes.toList with
          | .symbolic target => resolveRef store repo packed depth target
          | .object id => .found id
          | .broken => .missing
        | some (.dir _) => fromPacked
        | Option.none =>
          match store.checkWay path with
          | .error e => if e.kind == .notDirectory then .missing else fromPacked
          | .ok () => fromPacked

def candidateNames (name : String) : List String :=
  [name, "refs/" ++ name, "refs/tags/" ++ name, "refs/heads/" ++ name, "refs/remotes/" ++ name,
   "refs/remotes/" ++ name ++ "/HEAD"]

/-- The object id of the first name that resolves; every name is looked up when
`all` is set, and a lookup that stops everything gives none. -/
def firstResolved (look : List UInt8 → Lookup) (all : Bool) : List String → Option String → Option String
  | [], found => found
  | name :: rest, found =>
    match look (bytesOf name) with
    | .fatal => Option.none
    | .found id =>
      let found := found.orElse fun _ => some id
      if all then firstResolved look all rest found else found
    | .missing => firstResolved look all rest found

def headCommit (store : Store) (repo : Repository) : Option String :=
  let packed := packedFileOf store repo
  firstResolved (resolveRef store repo packed 5) repo.lookUpAll (candidateNames "HEAD") Option.none

def commitOf (store : Store) (searchRoot dir : String) : Option String :=
  match discover store searchRoot dir with
  | .found repo => headCommit store repo
  | _ => Option.none

def topLevelOf (store : Store) (searchRoot dir : String) : Option String :=
  match discover store searchRoot dir with
  | .found repo => repo.top
  | _ => Option.none

end PluginPack.Metadata.Git
