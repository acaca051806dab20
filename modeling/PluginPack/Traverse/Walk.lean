import PluginPack.Artifact.Facade
import PluginPack.Resolve.Collect
import PluginPack.Traverse.Policy

/-!
Walking the resolved tree and selecting one artifact per artifact id.

A walk visits the tree in preorder and descends into a node only when the node is
accepted: the root always is; another node is refused when its scope is not
wanted, when it is optional and optional dependencies are not wanted, or when the
mode cuts it off. An accepted node's artifact is merged into the selection, where
the newest version of each artifact id wins. The walk is repeated with the
selected versions pinned, so that only the selected version of an artifact id is
descended into, until the selection repeats one seen before.
-/

namespace PluginPack.Traverse

open PluginPack.Artifact
open PluginPack.Resolve

/-- What one walk gathers: the selection by artifact id, the first verdict given
to each id, the plugins met and the ids visited in order. -/
structure Gathered where
  selection : List (String × Facade) := []
  reasons : List (String × Decision) := []
  pluginIds : List String := []
  visited : Array String := #[]
  deriving Inhabited

def keepFirst (xs : List (String × Decision)) (id : String) (d : Decision) : List (String × Decision) :=
  if xs.any (·.1 == id) then xs else xs ++ [(id, d)]

def putSelected (xs : List (String × Facade)) (f : Facade) : List (String × Facade) :=
  if xs.any (·.1 == f.artifactId) then xs.map fun e => if e.1 == f.artifactId then (e.1, f) else e
  else xs ++ [(f.artifactId, f)]

/-- Merges an artifact into the selection: it replaces the selected one of its
artifact id when it is newer, and is marked a duplicate otherwise. -/
def Gathered.mergeNewest (g : Gathered) (f : Facade) : Step Gathered := do
  match g.selection.find? (·.1 == f.artifactId) with
  | none => pure { g with selection := putSelected g.selection f }
  | some (_, existing) =>
    let order ← Step.ofOutcome (compareVersions f.version existing.version)
    if order == .gt then
      let reasons ←
        if existing.id != f.id then do
          report .debug (f.id ++ " supersedes " ++ existing.id)
          pure (keepFirst g.reasons existing.id .duplicate)
        else pure g.reasons
      pure { g with selection := putSelected g.selection f, reasons }
    else pure { g with reasons := keepFirst g.reasons f.id .duplicate }

abbrev Classified := List (String × Bool)

def classify (policy : Policy) (f : Facade) (known : Classified) : Step (Bool × Classified) := do
  match known.find? (·.1 == f.id) with
  | some (_, b) => pure (b, known)
  | none =>
    let b ← if policy.bestEffort then f.isPluginBestEffort else Step.ofOutcome (f.isPlugin (← currentStore))
    pure (b, known ++ [(f.id, b)])

structure WalkState where
  gathered : Gathered := {}
  classified : Classified := []

def descends (pinned : Option (List (String × String))) (f : Facade) : Bool :=
  match pinned with
  | none => true
  | some vs => ((vs.find? (·.1 == f.artifactId)).map (·.2)).getD f.version == f.version

def acceptNode (policy : Policy) (pinned : Option (List (String × String))) (trail : List String)
    (n : NodeInfo) (st : WalkState) : Step (Bool × WalkState) := do
  let g := st.gathered
  let g := { g with visited := g.visited.push n.id }
  let wanted := match n.coordinate.scope with
    | some s => policy.scopes.contains s
    | none => false
  if !wanted then
    return (false, { st with gathered := { g with reasons := keepFirst g.reasons n.id .scope } })
  if n.coordinate.optional && !policy.includeOptional then
    return (false, { st with gathered := { g with reasons := keepFirst g.reasons n.id .optional } })
  let f := Facade.make n.coordinate n.file trail n.packaging
  let (plugin, classified) ← classify policy f st.classified
  let g := if plugin && !g.pluginIds.contains f.id then { g with pluginIds := g.pluginIds ++ [f.id] } else g
  match policy.mode with
  | .libraries =>
    if plugin then
      return (false, { gathered := { g with reasons := keepFirst g.reasons f.id .plugin }, classified })
    let g ← g.mergeNewest f
    pure (descends pinned f, { gathered := g, classified })
  | .plugins =>
    if !plugin then return (false, { gathered := g, classified })
    let g ← g.mergeNewest f
    pure (descends pinned f, { gathered := g, classified })

mutual

def walkBelow (policy : Policy) (pinned : Option (List (String × String))) (trail : List String) :
    Tree → WalkState → Step WalkState
  | .node n cs, st => do
    let (accepted, st) ← acceptNode policy pinned (trail ++ [n.id]) n st
    if accepted then walkForest policy pinned (trail ++ [n.id]) cs st else pure st

def walkForest (policy : Policy) (pinned : Option (List (String × String))) (trail : List String) :
    List Tree → WalkState → Step WalkState
  | [], st => pure st
  | t :: ts, st => do
    let st ← walkBelow policy pinned trail t st
    walkForest policy pinned trail ts st

end

def walkOnce (policy : Policy) (pinned : Option (List (String × String))) (t : Tree)
    (classified : Classified) : Step WalkState := do
  let root := t.info
  let st : WalkState := { gathered := { visited := #[root.id] }, classified }
  walkForest policy pinned [root.id] t.children st

def walkAccept (policy : Policy) (pinned : Option (List (String × String))) (above : List String)
    (n : NodeInfo) (st : WalkState) : Step (Bool × WalkState) :=
  if above.isEmpty then
    pure (true, { st with gathered := { st.gathered with visited := st.gathered.visited.push n.id } })
  else acceptNode policy pinned (above ++ [n.id]) n st

def walkLoop (policy : Policy) (pinned : Option (List (String × String))) (t : Tree) (classified : Classified) :
    Step WalkState :=
  Tree.visitStack (walkAccept policy pinned) [([], t)] { classified }

def sameVersions (a b : List (String × String)) : Bool :=
  a.length == b.length && a.all b.contains

def versionsOf (g : Gathered) : List (String × String) :=
  g.selection.map fun (k, f) => (k, f.version)

def rewalk (policy : Policy) (t : Tree) :
    Nat → Option (List (String × String)) → List (List (String × String)) → Classified → Step Gathered
  | 0, pinned, _, classified => do pure (← walkOnce policy pinned t classified).gathered
  | fuel + 1, pinned, seen, classified => do
    let st ← walkOnce policy pinned t classified
    let versions := versionsOf st.gathered
    let stable := match pinned with
      | some p => sameVersions versions p
      | none => false
    if stable || seen.any (sameVersions versions) then pure st.gathered
    else
      report .debug ("Re-walking with " ++ toString versions.length ++ " pinned versions")
      rewalk policy t fuel (some versions) (seen ++ [versions]) st.classified

structure Selection where
  chosen : List (String × Facade)
  decisions : List (String × Decision)
  pluginIds : List String
  visited : List String
  deriving Inhabited

def Selection.decisionOf (s : Selection) (id : String) : Option Decision :=
  (s.decisions.find? (·.1 == id)).map (·.2)

def Selection.bundled (s : Selection) : List Facade :=
  (s.chosen.map (·.2)).filter fun f => s.decisionOf f.id == some .bundle

def Selection.plugins (s : Selection) : List Facade :=
  (s.chosen.map (·.2)).filter fun f => s.pluginIds.contains f.id

def setDecision (xs : List (String × Decision)) (id : String) (d : Decision) : List (String × Decision) :=
  if xs.any (·.1 == id) then xs.map fun e => if e.1 == id then (id, d) else e else xs ++ [(id, d)]

def finalDecision (policy : Policy) (pluginIds : List String) (f : Facade) : Decision :=
  match policy.mode with
  | .plugins => .plugin
  | .libraries =>
    if throughPlugin f.trail pluginIds then .throughPlugin
    else if policy.hostCore.covers f.trail then .coveredByHost
    else .bundle

def walkBound (t : Tree) : Nat := Nat.pow 2 t.preorder.length + 1

def traverse (t : Tree) (policy : Policy) : Step Selection := do
  let g ← rewalk policy t (walkBound t) none [] []
  let chosen := g.selection.mergeSort fun a b => a.1 < b.1 || a.1 == b.1
  let decisions := chosen.foldl (fun acc (_, f) => setDecision acc f.id (finalDecision policy g.pluginIds f))
    g.reasons
  pure { chosen, decisions, pluginIds := g.pluginIds, visited := g.visited.toList }

end PluginPack.Traverse
