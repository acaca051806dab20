import PluginPack.Isolation.Policy
import PluginPack.Archive.Directory
import PluginPack.Files.Store
import PluginPack.Text.Percent

/-!
Where classes and resources come from, and how loaders compose.

A source is a fixed table of classes and resources, a class path of archives and
class directories searched in order, the empty source, or a loader: a policy over
a parent source and an optional secondary one. A loader asks its parent first for
everything its policy does not hide, and falls back to the secondary source for
exported classes the parent lacks. A class `a.b.C` is the resource `a/b/C.class`.

Archive locations are `jar:<file URI>!/<entry>`, and files of class directories
are their `file:` URIs. A class path reads the member names of all its archives
before it answers; an archive that cannot be read fails every lookup through it.
A location found below a relative path fails too, since it has no file URI.
-/

namespace PluginPack.Isolation

open PluginPack.Files

inductive LookupError where
  | classNotFound (name : String)
  | unreadableArchive (fault : Archive.Fault)
  | relativeLocation
  deriving DecidableEq, Repr

def classResourceName (name : String) : String :=
  String.ofList (name.toList.map fun c => if c == '.' then '/' else c) ++ ".class"

inductive Source where
  | fixed (classes : List (String × String)) (resources : List (String × List String))
  | classPath (entries : List String)
  | empty
  | isolating (policy : Policy) (parent : Source) (secondary : Option Source)
  deriving Repr, Inhabited

inductive PathEntry where
  | directory (path : String)
  | archive (path : String) (names : List String)

def indexClassPath (store : Store) : List String → Except LookupError (List PathEntry)
  | [] => .ok []
  | e :: rest => do
    let head ← if store.isDir e then pure [.directory e]
      else if store.isFile e then
        match store.readFile e with
        | .error err => throw (.unreadableArchive (.io err.message))
        | .ok bytes =>
          match Archive.readDirectory bytes with
          | .error fault => throw (.unreadableArchive fault)
          | .ok entries => pure [.archive e (entries.map (·.name))]
      else pure []
    pure (head ++ (← indexClassPath store rest))

def uriOf (path : String) : Except LookupError String :=
  if Path.isAbsolute path then .ok (Text.fileUri path) else .error .relativeLocation

def PathEntry.locate (store : Store) (name : String) : PathEntry → Except LookupError (List String)
  | .directory dir =>
    let file := Path.join dir name
    if store.isFile file then do pure [← uriOf file] else .ok []
  | .archive path names =>
    if names.contains name then do pure ["jar:" ++ (← uriOf path) ++ "!/" ++ name] else .ok []

namespace Source

def firstOf (found : List String) : Option String := found.head?

def findResources (store : Store) : Source → String → Except LookupError (List String)
  | .fixed _ resources, name => .ok ((resources.lookup name).getD [])
  | .classPath entries, name => do
    let index ← indexClassPath store entries
    pure (← index.mapM (PathEntry.locate store name)).flatten
  | .empty, _ => .ok []
  | .isolating policy parent secondary, name =>
    if policy.isMaskedResource name then .ok []
    else
      match policy.exportedResources with
      | some exported =>
        match secondary with
        | some s => if exported.contains name then s.findResources store name else .ok []
        | none => .ok []
      | none => parent.findResources store name

def findResource (store : Store) : Source → String → Except LookupError (Option String)
  | .isolating policy parent _, name =>
    if policy.isMaskedResource name then .ok none else parent.findResource store name
  | .empty, _ => .ok none
  | s, name => do pure (firstOf (← s.findResources store name))

mutual

def findClass (store : Store) : Source → String → Except LookupError String
  | .fixed classes _, name =>
    match classes.lookup name with
    | some location => .ok location
    | none => .error (.classNotFound name)
  | .classPath entries, name => do
    match firstOf (← (Source.classPath entries).findResources store (classResourceName name)) with
    | some location => pure location
    | none => throw (.classNotFound name)
  | .empty, name => .error (.classNotFound name)
  | .isolating policy parent secondary, name =>
    if policy.isMaskedClass name then .error (.classNotFound name)
    else
      match parent.findClass store name with
      | .error (.classNotFound missing) =>
        if policy.isExportedClass name then findSecondaryClass store secondary name missing
        else .error (.classNotFound missing)
      | other => other

def findSecondaryClass (store : Store) : Option Source → String → String → Except LookupError String
  | some s, name, _ => s.findClass store name
  | none, _, missing => .error (.classNotFound missing)

end

def describe : Source → String
  | .isolating policy _ _ => "IsolatingLoader(" ++ policy.name ++ ")"
  | .fixed .. => "StaticClassSource"
  | .classPath _ => "ArchiveClassSource"
  | .empty => "EmptyClassSource"

end Source

def runChain (host container : Source) (exposeContainer : Bool) : Source :=
  let masked := Source.isolating maskingPolicy host none
  let policy := if exposeContainer then containerAndServletPolicy else servletApiOnlyPolicy
  .isolating policy masked (some container)

end PluginPack.Isolation
