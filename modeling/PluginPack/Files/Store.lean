import PluginPack.Files.Path
import PluginPack.Text.Quoted

/-!
The file tree that the packager reads and writes, as a value.

Each normal absolute path maps to a file, with its bytes and modification time,
or to a directory with its modification time; the root always exists. Relative
paths start from the store's working directory. Writes
stamp what they create with the store's clock, and adding or removing an entry
also stamps the directory that holds it. Failures carry the error number and text
of the operating system's error and the path that caused them.
-/

namespace PluginPack.Files

open PluginPack.Text

inductive Entry where
  | file (bytes : ByteArray) (mtime : Nat)
  | dir (mtime : Nat)
  deriving Inhabited

def Entry.mtime : Entry → Nat
  | .file _ t => t
  | .dir t => t

inductive FsErrorKind where
  | notFound
  | isDirectory
  | notDirectory
  | alreadyExists
  | notEmpty
  deriving DecidableEq, Repr

structure FsError where
  kind : FsErrorKind
  path : String
  deriving DecidableEq, Repr

def FsErrorKind.errno : FsErrorKind → Nat
  | .notFound => 2
  | .isDirectory => 21
  | .notDirectory => 20
  | .alreadyExists => 17
  | .notEmpty => 39

def FsErrorKind.text : FsErrorKind → String
  | .notFound => "No such file or directory"
  | .isDirectory => "Is a directory"
  | .notDirectory => "Not a directory"
  | .alreadyExists => "File exists"
  | .notEmpty => "Directory not empty"

def FsError.message (e : FsError) : String :=
  "[Errno " ++ toString e.kind.errno ++ "] " ++ e.kind.text ++ ": " ++ quoted e.path

structure Store where
  entries : List (String × Entry) := []
  clock : Nat := 1794528000
  cwd : String := "/"
  deriving Inhabited

namespace Store

def absolute (s : Store) (p : String) : String := Path.join s.cwd p

def resolve (s : Store) (p : String) : String := Path.physical (Path.join s.cwd p)

def entryAt? (s : Store) (key : String) : Option Entry :=
  if key == "/" then some (.dir 0) else (s.entries.find? (·.1 == key)).map (·.2)

/-- The first place a path passes through on its way that is no directory although
a `..` steps back out of it, if there is one. -/
def blockedStep? (s : Store) (p : String) : Option String :=
  go [] (Path.parts (Path.join s.cwd p))
where
  go (acc : List String) : List String → Option String
    | [] => none
    | ".." :: rest =>
      let here := Path.physical ("/" ++ "/".intercalate acc.reverse)
      match s.entryAt? here with
      | some (.dir _) => go acc.tail rest
      | _ => some here
    | c :: rest => go (c :: acc) rest

def get? (s : Store) (p : String) : Option Entry :=
  if (s.blockedStep? p).isSome then none else s.entryAt? (s.resolve p)

def present (s : Store) (p : String) : Bool := (s.get? p).isSome

def isFile (s : Store) (p : String) : Bool :=
  match s.get? p with
  | some (.file ..) => true
  | _ => false

def isDir (s : Store) (p : String) : Bool :=
  match s.get? p with
  | some (.dir _) => true
  | _ => false

def mtime? (s : Store) (p : String) : Option Nat := (s.get? p).map Entry.mtime

def checkWay (s : Store) (p : String) : Except FsError Unit :=
  match s.blockedStep? p with
  | some here =>
    match s.entryAt? here with
    | some (.file ..) => .error ⟨.notDirectory, p⟩
    | _ => .error ⟨.notFound, p⟩
  | none =>
    let way := (Path.ancestors (s.resolve p)).reverse.drop 1
    match way.find? fun a => !s.isDir a with
    | none => .ok ()
    | some a => if s.isFile a then .error ⟨.notDirectory, p⟩ else .error ⟨.notFound, p⟩

def setEntry (s : Store) (p : String) (e : Entry) : Store :=
  let p := s.resolve p
  if s.entries.any (·.1 == p) then
    { s with entries := s.entries.map fun (q, old) => if q == p then (q, e) else (q, old) }
  else { s with entries := s.entries ++ [(p, e)] }

def touchParent (s : Store) (p : String) : Store :=
  let d := Path.parent (s.resolve p)
  if s.isDir d && d != "/" then s.setEntry d (.dir s.clock) else s

def readFile (s : Store) (p : String) : Except FsError ByteArray := do
  s.checkWay p
  match s.get? p with
  | some (.file bytes _) => pure bytes
  | some (.dir _) => throw ⟨.isDirectory, p⟩
  | none => throw ⟨.notFound, p⟩

def writeFile (s : Store) (p : String) (bytes : ByteArray) : Except FsError Store := do
  s.checkWay p
  match s.get? p with
  | some (.dir _) => throw ⟨.isDirectory, p⟩
  | some (.file ..) => pure (s.setEntry p (.file bytes s.clock))
  | none => pure ((s.setEntry p (.file bytes s.clock)).touchParent p)

def setMtime (s : Store) (p : String) (t : Nat) : Store :=
  match s.get? p with
  | some (.file bytes _) => s.setEntry p (.file bytes t)
  | some (.dir _) => if s.resolve p == "/" then s else s.setEntry p (.dir t)
  | none => s

def makeWay (s : Store) (p : String) : Except FsError Store :=
  let way := (Path.ancestors (s.resolve p)).reverse ++ [s.resolve p]
  if way.any s.isFile then .error ⟨.notDirectory, p⟩
  else .ok (way.foldl (fun acc d =>
    if acc.present d then acc else (acc.setEntry d (.dir acc.clock)).touchParent d) s)

def createDir (s : Store) (p : String) : Except FsError Store := do
  s.checkWay p
  match s.get? p with
  | some _ => throw ⟨.alreadyExists, p⟩
  | none => pure ((s.setEntry p (.dir s.clock)).touchParent p)

/-- Creates the directory spelled by `root` and the components `rev`, last one first, and the
missing ones above it: when the way to the directory is missing, the one above it as written
is made first, so a `..` steps back out of a directory made for it. A directory already there
is fine. The root of a path is there; a missing working directory is made with the
directories above it. -/
def makeDirsAlong (s : Store) (root : String) : List String → Except FsError Store
  | [] => s.makeWay (Path.build root [])
  | c :: above =>
    let p := Path.build root (above.reverse ++ [c])
    match s.createDir p with
    | .ok s' => .ok s'
    | .error e =>
      if e.kind == .notFound then
        match makeDirsAlong s root above with
        | .error e' => .error e'
        | .ok s₁ =>
          match s₁.createDir p with
          | .ok s₂ => .ok s₂
          | .error e₂ => if s₁.isDir p then .ok s₁ else .error e₂
      else if s.isDir p then .ok s else .error e

def makeDirs (s : Store) (p : String) : Except FsError Store :=
  makeDirsAlong s (Path.rootOf p) (Path.parts p).reverse

def removeFile (s : Store) (p : String) : Except FsError Store := do
  s.checkWay p
  match s.get? p with
  | some (.file ..) =>
    let q := s.resolve p
    pure ({ s with entries := s.entries.filter (·.1 != q) }.touchParent p)
  | some (.dir _) => throw ⟨.isDirectory, p⟩
  | none => throw ⟨.notFound, p⟩

def removeTree (s : Store) (p : String) : Except FsError Store := do
  s.checkWay p
  match s.get? p with
  | some (.dir _) =>
    let q := s.resolve p
    pure ({ s with entries := s.entries.filter fun (r, _) => r != q && !Path.isBelow q r }.touchParent p)
  | some (.file ..) => throw ⟨.notDirectory, p⟩
  | none => throw ⟨.notFound, p⟩

def spellBelow (s : Store) (dir r : String) : String :=
  match Path.relativeTo? r (s.resolve dir) with
  | some rel => Path.join dir rel
  | none => r

def below (s : Store) (dir : String) : List (String × Entry) :=
  let d := s.resolve dir
  if s.isDir dir then
    (s.entries.filter fun (r, _) => Path.isBelow d r).map fun (r, e) => (s.spellBelow dir r, e)
  else []

def children (s : Store) (dir : String) : List (String × Entry) :=
  let d := s.resolve dir
  (s.entries.filter fun (r, _) => Path.isBelow d r && Path.parent r == d).map fun (r, e) =>
    (s.spellBelow dir r, e)

def copyFile (s : Store) (src dst : String) (keepTime : Bool) : Except FsError Store := do
  let bytes ← s.readFile src
  let s' ← s.writeFile dst bytes
  if keepTime then
    match s.mtime? src with
    | some t => pure (s'.setMtime dst t)
    | none => pure s'
  else pure s'

end Store

end PluginPack.Files
