/-!
Paths of the file tree, written as text with `/` between components.

A path is spelled in normal form when it has no empty components, no `.`
components and no slash at its end; `..` stays as written, since only the file
tree can tell where it leads. The root of an absolute path is `/`, except that a
path starting with exactly two slashes keeps `//` as its root: POSIX leaves the
meaning of two leading slashes to the system, while three or more stand for one.

```
normalize "a/./b/"     ⟶   "a/b"
normalize "//x//y/"    ⟶   "//x/y"
normalize "///x"       ⟶   "/x"
join "/a" "../b"       ⟶   "/a/../b"
```
-/

namespace PluginPack.Files.Path

def parts (p : String) : List String :=
  ((p.toList.splitOn '/').map String.ofList).filter fun s => !s.isEmpty && s != "."

def isAbsolute (p : String) : Bool := p.startsWith "/"

def rootOf (p : String) : String :=
  match (p.toList.takeWhile (· == '/')).length with
  | 0 => ""
  | 2 => "//"
  | _ => "/"

def build (root : String) (ps : List String) : String :=
  if root.isEmpty then
    match ps with
    | [] => "."
    | _ => "/".intercalate ps
  else root ++ "/".intercalate ps

def normalize (p : String) : String := build (rootOf p) (parts p)

def join (base rel : String) : String :=
  if isAbsolute rel then normalize rel else build (rootOf base) (parts base ++ parts rel)

def joinAll (base : String) (rels : List String) : String := rels.foldl join (normalize base)

def parent (p : String) : String := build (rootOf p) (parts p).dropLast

def name (p : String) : String := (parts p).getLastD ""

/-- The extension of the last component, from its last dot, when that dot is
neither the first nor the last character. -/
def suffix (p : String) : String :=
  let n := (name p).toList
  let beforeDot := (n.reverse.dropWhile (· != '.')).reverse
  match beforeDot with
  | [] => ""
  | _ =>
    let idx := beforeDot.length - 1
    if idx == 0 || idx + 1 == n.length then "" else String.ofList (n.drop idx)

def stem (p : String) : String :=
  let n := name p
  let s := suffix p
  String.ofList (n.toList.take (n.length - s.length))

def ancestors (p : String) : List String :=
  let ps := parts p
  (List.range ps.length).reverse.map fun k => build (rootOf p) (ps.take k)

def isBelow (dir p : String) : Bool :=
  let d := parts dir
  let q := parts p
  rootOf dir == rootOf p && d.length < q.length && d.isPrefixOf q

def relativeTo? (p dir : String) : Option String :=
  let d := parts dir
  let q := parts p
  if rootOf dir == rootOf p && d.isPrefixOf q then some (build "" (q.drop d.length))
  else none

def walk : List String → List String → List String
  | acc, [] => acc.reverse
  | acc, ".." :: rest => walk acc.tail rest
  | acc, c :: rest => walk (c :: acc) rest

def physical (p : String) : String := "/" ++ "/".intercalate (walk [] (parts p))


end PluginPack.Files.Path
