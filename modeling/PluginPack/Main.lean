import PluginPack.Cli.Run
import Std.Time.Zoned

/-!
The command line of the packager.

The packager works on a file tree held as a value. This entry point builds that
tree from the files listed on standard input, one per line as `find` prints them
(directories may be listed too), runs the command line given as arguments in the
current directory, prints what it wrote, and then writes back every file the
command created or changed and removes what it removed.

A line is a path, or a modification time in seconds, a tab and a path; files
listed without a time count as older than any the command writes. Deciding
whether a copy is out of date needs the times.

```
find . ~/.m2/repository -printf '%T@\t%p\n' | plugin-pack package pom.xml
```
-/

namespace PluginPack.Main

open PluginPack.Files

/-- A listing line read as a modification time and a path: `seconds<TAB>path`,
where the seconds may have a fraction, or a path alone, which has time zero. -/
def readListed (line : String) : Nat × String :=
  match line.splitOn "\t" with
  | stamp :: rest@(_ :: _) =>
    match (stamp.splitOn ".").head? >>= String.toNat? with
    | some seconds => (seconds, "\t".intercalate rest)
    | none => (0, line)
  | _ => (0, line)

def addListed (cwd : String) (store : Store) (line : String) : IO Store := do
  let (mtime, listed) := readListed line
  let path := Path.join cwd listed
  if listed.isEmpty || store.present path then return store
  let withParents := (Path.ancestors path).reverse.foldl (fun (s : Store) d =>
    if s.present d then s else s.setEntry d (.dir 0)) store
  try
    let bytes ← IO.FS.readBinFile path
    pure (withParents.setEntry path (.file bytes mtime))
  catch _ =>
    pure (withParents.setEntry path (.dir mtime))

def dropLineBreak (line : String) : String :=
  let cs := line.toList
  let cs := if cs.getLast? == some '\n' then cs.dropLast else cs
  String.ofList (if cs.getLast? == some '\r' then cs.dropLast else cs)

partial def readListing (stream : IO.FS.Stream) (acc : Array String) : IO (Array String) := do
  let line ← stream.getLine
  if line.isEmpty then return acc
  readListing stream (acc.push (dropLineBreak line))

def writeBack (before after : Store) : IO Unit := do
  for (p, e) in after.entries do
    match e, before.get? p with
    | .dir _, none => IO.FS.createDirAll p
    | .file bytes _, some (.file old _) =>
      if old.toList != bytes.toList then IO.FS.writeBinFile p bytes
    | .file bytes _, _ =>
      IO.FS.createDirAll (Path.parent p)
      IO.FS.writeBinFile p bytes
    | _, _ => pure ()
  for (p, e) in before.entries do
    if !after.present p then
      match e with
      | .file .. => try IO.FS.removeFile p catch _ => pure ()
      | .dir _ => try IO.FS.removeDirAll p catch _ => pure ()

def localNow : IO Time.Stamp := do
  let t ← Std.Time.PlainDateTime.now
  pure { year := t.date.year.toInt.toNat, month := t.date.month.toNat, day := t.date.day.toNat,
         hour := t.time.hour.toNat, minute := t.time.minute.toNat, second := t.time.second.toNat }

def firstVar (names : List String) : IO (Option String) := do
  for n in names do
    if let some v ← IO.getEnv n then
      if !v.isEmpty then return some v
  return none

def readAccounts : IO (List (String × String)) := do
  let text ← try IO.FS.readFile "/etc/passwd" catch _ => pure ""
  pure ((text.splitOn "\n").filterMap fun line =>
    match line.splitOn ":" with
    | name :: _ :: _ :: _ :: _ :: dir :: _ => some (name, dir)
    | _ => none)

end PluginPack.Main

open PluginPack PluginPack.Main in
def main (args : List String) : IO UInt32 := do
  let cwd := toString (← IO.currentDir)
  let mut env : List (String × String) := []
  for name in Config.variableNames do
    if let some v ← IO.getEnv name then env := env ++ [(name, v)]
  let home := (← IO.getEnv "HOME").getD "/"
  let account := (← firstVar ["LOGNAME", "USER", "LNAME", "USERNAME"]).getD "root"
  let clock := (← Std.Time.Timestamp.now).toSecondsSinceUnixEpoch.val.toNat
  let listed ← readListing (← IO.getStdin) #[]
  let mut store : Files.Store := { cwd, clock }
  for p in listed do
    store ← addListed cwd store p
  let accounts ← readAccounts
  let surroundings : Cli.Surroundings :=
    { env := fun k => env.lookup k, home, account, accounts, now := ← localNow, searchRoot := "/" }
  let (t, after) := Cli.run surroundings args store
  let stdout ← IO.getStdout
  for line in t.lines do stdout.putStrLn line
  writeBack store after
  if let some kind := t.escaped then (← IO.getStderr).putStrLn kind
  pure t.exitCode.toUInt32
