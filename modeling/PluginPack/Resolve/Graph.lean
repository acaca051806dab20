import PluginPack.Resolve.Tree

/-!
The dependency graph of a resolved tree: one vertex per `group:artifact:version`,
an edge from each node to each of its children. Walking the tree in preorder,
the attributes of the last node (or edge) seen for a vertex (or pair) win.
-/

namespace PluginPack.Resolve

structure VertexInfo where
  scope : Option String
  omitted : Bool
  deriving DecidableEq, Repr

structure EdgeInfo where
  scope : Option String
  optional : Bool
  deriving DecidableEq, Repr

structure Graph where
  vertices : List (String × VertexInfo)
  edges : List ((String × String) × EdgeInfo)
  deriving Repr

def putAssoc {κ β : Type} [BEq κ] (xs : List (κ × β)) (k : κ) (v : β) : List (κ × β) :=
  if xs.any (·.1 == k) then xs.map fun (k', v') => if k' == k then (k', v) else (k', v') else xs ++ [(k, v)]

def NodeInfo.vertex (n : NodeInfo) : String := n.coordinate.gav.compact

def pairBefore (a b : String × String) : Bool :=
  a.1 < b.1 || (a.1 == b.1 && a.2 < b.2)

def Tree.toGraph (t : Tree) : Graph :=
  let vertices := t.iterTree.foldl (fun acc (n, _) =>
    putAssoc acc n.vertex { scope := n.coordinate.scope, omitted := n.omitted }) []
  let edges := t.edges.foldl (fun acc (p, c) =>
    putAssoc acc (p.vertex, c.vertex) { scope := c.coordinate.scope, optional := c.coordinate.optional }) []
  { vertices := vertices.mergeSort fun a b => a.1 < b.1 || a.1 == b.1
    edges := edges.mergeSort fun a b => pairBefore a.1 b.1 || a.1 == b.1 }

/-- Removes, round after round, the vertices that no remaining edge enters; the
graph is acyclic when all vertices go. -/
def peel (fuel : Nat) (vertices : List String) (edges : List (String × String)) : Bool :=
  match fuel with
  | 0 => vertices.isEmpty
  | fuel + 1 =>
    let sources := vertices.filter fun v => !edges.any (·.2 == v)
    if sources.isEmpty then vertices.isEmpty
    else peel fuel (vertices.filter fun v => !sources.contains v)
      (edges.filter fun e => !sources.contains e.1)

def Graph.isAcyclic (g : Graph) : Bool :=
  peel (g.vertices.length + 1) (g.vertices.map (·.1)) (g.edges.map (·.1))

end PluginPack.Resolve
