import PluginPack.Metadata.Git.Refs

/-!
The configuration file of a git repository, and the repository format it declares.

The file is read line by line. `[section]` and `[section "subsection"]` open a
section; `name = value` and a bare `name` (which stands for true) set a
variable; `#` and `;` start comments. Section and variable names are case-blind
and are written in lower case, subsection names keep their case. A value may be
quoted, may continue on the next line after a backslash, and knows the escapes
`\t`, `\b`, `\n`, `\\` and `\"`; blanks around it are dropped. Any other text is
an error, and a repository whose configuration has an error cannot be used.

The format is version 0 or 1 (`core.repositoryformatversion`, missing means not
checked). Version 1 may name the extensions `noop-v1` and `objectformat`
(`sha1` or `sha256`, which sets the length of object ids); any other extension
beyond the four that version 0 knows makes the repository unusable, and so do
version-1 extensions under version 0 and versions above 1. The format also
records whether the repository is bare (`core.bare`), the work tree it names
(`core.worktree`), and whether those two are kept per work tree
(`extensions.worktreeConfig`).

```
[core]
	repositoryformatversion = 1
[extensions]
	objectFormat = sha256        ⟶   object ids of 64 hexadecimal digits
```
-/

namespace PluginPack.Metadata.Git

def isKeyChar (c : Char) : Bool :=
  ('a' ≤ c && c ≤ 'z') || ('A' ≤ c && c ≤ 'Z') || ('0' ≤ c && c ≤ '9') || c == '-'

def isAsciiLetter (c : Char) : Bool := ('a' ≤ c && c ≤ 'z') || ('A' ≤ c && c ≤ 'Z')

inductive ConfigMode where
  | between (comment : Bool)
  | section (name : List Char)
  | beforeSubsection (name : List Char)
  | subsection (name sub : List Char)
  | subsectionEscape (name sub : List Char)
  | afterSubsection (name : List Char)
  | variable (name : List Char)
  | beforeValue (name : List Char)
  /-- Reading a value: the text so far (last first), where the trailing blanks
  start (0 when none), and whether a quote or a comment is open. -/
  | value (name : List Char) (text : List Char) (trim : Nat) (quote comment : Bool)
  | valueEscape (name : List Char) (text : List Char) (quote : Bool)
  deriving Repr

/-- The state of the reader: the current section prefix (`core.`), the variables
set so far in order, and the mode. -/
structure ConfigReader where
  prefix_ : String := ""
  entries : List (String × Option String) := []
  mode : ConfigMode := .between false

def finishValue (text : List Char) (trim : Nat) : String :=
  let cs := text.reverse
  String.ofList (if trim == 0 then cs else cs.take trim)

/-- One character of the configuration; `none` on an error. A line break ends
lines, comments and values. -/
def ConfigReader.step (r : ConfigReader) (c : Char) : Option ConfigReader :=
  let set (name : List Char) (v : Option String) :=
    r.entries ++ [(r.prefix_ ++ String.ofList name.reverse, v)]
  match r.mode with
  | .between comment =>
    if c == '\n' then some { r with mode := .between false }
    else if comment then some r
    else if isGitSpace c then some r
    else if c == '#' || c == ';' then some { r with mode := .between true }
    else if c == '[' then some { r with mode := .section [] }
    else if isAsciiLetter c then some { r with mode := .variable [c.toLower] }
    else none
  | .section name =>
    if c == ']' then
      if name.isEmpty then none
      else some { r with prefix_ := String.ofList name.reverse ++ ".", mode := .between false }
    else if c == '\n' then none
    else if isGitSpace c then some { r with mode := .beforeSubsection name }
    else if isKeyChar c || c == '.' then some { r with mode := .section (c.toLower :: name) }
    else none
  | .beforeSubsection name =>
    if c == '\n' then none
    else if isGitSpace c then some r
    else if c == '"' then some { r with mode := .subsection ('.' :: name) [] }
    else none
  | .subsection name sub =>
    if c == '\n' then none
    else if c == '"' then some { r with mode := .afterSubsection (sub ++ name) }
    else if c == '\\' then some { r with mode := .subsectionEscape name sub }
    else some { r with mode := .subsection name (c :: sub) }
  | .subsectionEscape name sub =>
    if c == '\n' then none else some { r with mode := .subsection name (c :: sub) }
  | .afterSubsection name =>
    if c == ']' then some { r with prefix_ := String.ofList name.reverse ++ ".", mode := .between false }
    else none
  | .variable name =>
    if isKeyChar c then some { r with mode := .variable (c.toLower :: name) }
    else if c == '\n' then some { r with entries := set name none, mode := .between false }
    else if c == ' ' || c == '\t' then some { r with mode := .beforeValue name }
    else if c == '=' then some { r with mode := .value name [] 0 false false }
    else none
  | .beforeValue name =>
    if c == ' ' || c == '\t' then some r
    else if c == '\n' then some { r with entries := set name none, mode := .between false }
    else if c == '=' then some { r with mode := .value name [] 0 false false }
    else none
  | .value name text trim quote comment =>
    if c == '\n' then
      if quote then none
      else some { r with entries := set name (some (finishValue text trim)), mode := .between false }
    else if comment then some r
    else if isGitSpace c && !quote then
      let trim := if trim == 0 then text.length else trim
      let text := if text.isEmpty then text else c :: text
      some { r with mode := .value name text trim quote comment }
    else if !quote && (c == ';' || c == '#') then
      some { r with mode := .value name text trim quote true }
    else if c == '\\' then some { r with mode := .valueEscape name text quote }
    else if c == '"' then some { r with mode := .value name text 0 (!quote) comment }
    else some { r with mode := .value name (c :: text) 0 quote comment }
  | .valueEscape name text quote =>
    let keep (ch : Char) := some { r with mode := .value name (ch :: text) 0 quote false }
    match c with
    | '\n' => some { r with mode := .value name text 0 quote false }
    | 't' => keep '\t'
    | 'b' => keep (Char.ofNat 8)
    | 'n' => keep '\n'
    | '\\' => keep '\\'
    | '"' => keep '"'
    | _ => none

def dropCarriageReturns : List Char → List Char
  | '\r' :: '\n' :: rest => '\n' :: dropCarriageReturns rest
  | c :: rest => c :: dropCarriageReturns rest
  | [] => []

/-- The variables a configuration file sets, in order, or `none` when the file
has an error. A byte order mark at the start is skipped, and the end of the
file counts as a line break, also right after a backslash that continues a value. -/
def readConfig (text : String) : Option (List (String × Option String)) :=
  let cs := dropCarriageReturns text.toList
  let cs := match cs with
    | c :: rest => if c.toNat == 0xFEFF then rest else cs
    | [] => cs
  let final := (cs ++ ['\n']).foldlM ConfigReader.step {}
  final.bind fun r =>
    match r.mode with
    | .between _ => some r.entries
    | .value name text trim false _ =>
      some (r.entries ++ [(r.prefix_ ++ String.ofList name.reverse, some (finishValue text trim))])
    | _ => none

/-- A whole number as the C library reads one with its base from its prefix
(`0x` hexadecimal, a leading `0` octal), after optional blanks and a sign,
times its optional unit `k`, `m` or `g`: whether it is negative, and its size. -/
def readNumber? (v : String) : Option (Bool × Nat) :=
  let cs := v.toList.dropWhile fun c => c == ' ' || c == '\t' || c == '\n' || c == '\r' ||
    c == '\x0b' || c == '\x0c'
  let (negative, cs) := match cs with
    | '-' :: rest => (true, rest)
    | '+' :: rest => (false, rest)
    | _ => (false, cs)
  let (base, digitsAndRest) := match cs with
    | '0' :: x :: rest => if (x == 'x' || x == 'X') && (rest.head?.map isHexDigit).getD false then (16, rest) else (8, cs)
    | _ => (10, cs)
  let value (c : Char) : Option Nat :=
    if '0' ≤ c && c ≤ '9' then some (c.toNat - '0'.toNat)
    else if 'a' ≤ c && c ≤ 'f' then some (c.toNat - 'a'.toNat + 10)
    else if 'A' ≤ c && c ≤ 'F' then some (c.toNat - 'A'.toNat + 10)
    else none
  let isDigitOf (c : Char) : Bool := match value c with
    | some d => d < base
    | none => false
  let digits := digitsAndRest.takeWhile isDigitOf
  let rest := String.ofList (digitsAndRest.dropWhile isDigitOf)
  if digits.isEmpty then none
  else
    let n := digits.foldl (fun acc c => acc * base + (value c).getD 0) 0
    let factor : Option Nat := match String.ofList (rest.toList.map Char.toLower) with
      | "" => some 1
      | "k" => some 1024
      | "m" => some (1024 * 1024)
      | "g" => some (1024 * 1024 * 1024)
      | _ => none
    factor.map fun f => (negative, n * f)

def intMax : Nat := 2147483647

def unsignedLongMax : Nat := 18446744073709551615

def configInt? : Option String → Option Int
  | none => none
  | some v =>
    (readNumber? v).bind fun (negative, n) =>
      if n > intMax then none else some (if negative then -(n : Int) else n)

def configSize? : Option String → Option Nat
  | none => none
  | some v =>
    if v.toList.contains '-' then none
    else (readNumber? v).bind fun (_, n) => if n > unsignedLongMax then none else some n

/-- The truth value of a boolean variable: a bare name is true, and otherwise
`true`, `yes`, `on`, `false`, `no`, `off` in any case, the empty text (false) or
a number; `none` for anything else. -/
def configBool? : Option String → Option Bool
  | none => some true
  | some v =>
    let w := String.ofList (v.toList.map Char.toLower)
    if w == "true" || w == "yes" || w == "on" then some true
    else if w == "false" || w == "no" || w == "off" || w.isEmpty then some false
    else (configInt? (some v)).map (· != 0)

structure RepoFormat where
  version : Int := -1
  hexLength : Nat := 40
  bare : Option Bool := none
  versionOneOnly : List String := []
  unknown : List String := []
  worktree : Option String := none
  worktreeConfig : Bool := false
  deriving Repr

def RepoFormat.note (f : RepoFormat) (entry : String × Option String) : Option RepoFormat :=
  let (key, v) := entry
  if key == "core.repositoryformatversion" then
    (configInt? v).map fun n => { f with version := n }
  else if key == "core.bare" then (configBool? v).map fun b => { f with bare := some b }
  else if key == "core.worktree" then v.map fun w => { f with worktree := some w }
  else if "extensions.".isPrefixOf key then
    let ext := String.ofList (key.toList.drop "extensions.".length)
    if ext == "noop" then some f
    else if ext == "preciousobjects" then (configBool? v).map fun _ => f
    else if ext == "worktreeconfig" then (configBool? v).map fun b => { f with worktreeConfig := b }
    else if ext == "partialclone" then v.map fun _ => f
    else if ext == "noop-v1" then some { f with versionOneOnly := f.versionOneOnly ++ [ext] }
    else if ext == "objectformat" then
      match v with
      | some "sha1" => some { f with hexLength := 40, versionOneOnly := f.versionOneOnly ++ [ext] }
      | some "sha256" => some { f with hexLength := 64, versionOneOnly := f.versionOneOnly ++ [ext] }
      | _ => none
    else some { f with unknown := f.unknown ++ [ext] }
  else some f

def RepoFormat.usable (f : RepoFormat) : Bool :=
  f.version < 0 ||
    (f.version ≤ 1 && !(f.version ≥ 1 && !f.unknown.isEmpty) && !(f.version == 0 && !f.versionOneOnly.isEmpty))

def RepoFormat.ofConfig (text : Option String) : Option RepoFormat :=
  match text with
  | none => some {}
  | some t =>
    (readConfig t).bind fun entries =>
      (entries.foldlM RepoFormat.note {}).map fun f => if f.version == -1 then {} else f

end PluginPack.Metadata.Git
