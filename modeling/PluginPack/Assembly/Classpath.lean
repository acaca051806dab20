import PluginPack.Artifact.Filter
import PluginPack.Traverse.Policy

/-!
Which artifacts of a resolved set go into a component's private classpath.

Every artifact gets one verdict, and the first verdict given to an id is kept: a
plugin stays out, as does whatever was reached through a plugin or through the
host core; an artifact whose scope (compile when it has none) is not needed at
runtime stays out, as does an optional one; everything else is bundled.
-/

namespace PluginPack.Assembly

open PluginPack.Artifact PluginPack.Traverse

structure Assembler where
  workDir : String
  hostCore : HostCore := .markers defaultMarkers
  scopes : List String := ["compile", "runtime"]
  bestEffort : Bool := false
  deriving Repr, Inhabited

def effectiveScope (f : Facade) : String :=
  match f.scope with
  | some s => if s.isEmpty then "compile" else s
  | none => "compile"

def Assembler.verdict (a : Assembler) (pluginIds : List String) (f : Facade) : Decision :=
  if pluginIds.contains f.id then .plugin
  else if throughPlugin f.trail pluginIds then .throughPlugin
  else if a.hostCore.covers f.trail then .coveredByHost
  else if !a.scopes.contains (effectiveScope f) then .scope
  else if f.optional then .optional
  else .bundle

def recordFirst (verdicts : List (String × Decision)) (id : String) (d : Decision) :
    List (String × Decision) :=
  if verdicts.any (·.1 == id) then verdicts else verdicts ++ [(id, d)]

def Assembler.pluginIds (a : Assembler) (fs : List Facade) : Step (List String) := do
  let plugins ← (Refinement.plugins a.bestEffort).apply fs
  pure (ids plugins)

def Assembler.decide (a : Assembler) (fs : List Facade) : Step (List (String × Decision)) := do
  let plugins ← a.pluginIds fs
  pure (fs.foldl (fun acc f => recordFirst acc f.id (a.verdict plugins f)) [])

def Assembler.bundled (a : Assembler) (fs : List Facade) : Step (List Facade) := do
  let verdicts ← a.decide fs
  pure (fs.filter fun f => (verdicts.lookup f.id) == some .bundle)

end PluginPack.Assembly
