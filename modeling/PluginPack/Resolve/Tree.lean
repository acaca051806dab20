import PluginPack.Artifact.Coordinate

/-!
The resolved dependency tree.

Each node stands for one dependency edge: its coordinates, its file, the
packaging its descriptor declares and the exclusions it was declared with. A node
whose artifact was already expanded at a version at least as new is *omitted*: it
records that winning version and has no children. The root stands for the project
itself and has no scope.

The walk `preorder` lists a node before its children, siblings in order. The
walk `visitStack` goes over an explicit stack instead and enters a node's
children only when asked to; entering every node, it lists the nodes in the same
order (`iterTree`). The projection to a graph joins nodes with the same group,
artifact and version.
-/

namespace PluginPack.Resolve

open PluginPack.Artifact
open PluginPack.Project

structure NodeInfo where
  coordinate : Coordinate
  file : Option String := none
  packaging : Option String := none
  exclusions : List Exclusion := []
  winner : Option String := none
  deriving Repr, Inhabited

def NodeInfo.id (n : NodeInfo) : String := n.coordinate.id

def NodeInfo.omitted (n : NodeInfo) : Bool := n.winner.isSome

def NodeInfo.label (n : NodeInfo) : String :=
  let scope := match n.coordinate.scope with
    | some s => if s.isEmpty then [] else ["(scope=" ++ s ++ ")"]
    | none => []
  let optional := if n.coordinate.optional then ["(optional)"] else []
  let omitted := match n.winner with
    | some w =>
      if w == n.coordinate.version then ["(omitted for duplicate)"]
      else ["(omitted for conflict with " ++ w ++ ")"]
    | none => []
  " ".intercalate (n.id :: scope ++ optional ++ omitted)

inductive Tree where
  | node (info : NodeInfo) (children : List Tree)
  deriving Repr, Inhabited

namespace Tree

def info : Tree → NodeInfo
  | .node i _ => i

def children : Tree → List Tree
  | .node _ cs => cs

mutual

def preorderFrom (depth : Nat) : Tree → List (NodeInfo × Nat)
  | .node i cs => (i, depth) :: preorderForest (depth + 1) cs

def preorderForest (depth : Nat) : List Tree → List (NodeInfo × Nat)
  | [] => []
  | t :: ts => preorderFrom depth t ++ preorderForest depth ts

end

def preorder (t : Tree) : List (NodeInfo × Nat) := preorderFrom 0 t

mutual

def size : Tree → Nat
  | .node _ cs => sizeForest cs + 1

def sizeForest : List Tree → Nat
  | [] => 0
  | t :: ts => size t + sizeForest ts

end

theorem sizeForest_append (ts us : List Tree) : sizeForest (ts ++ us) = sizeForest ts + sizeForest us := by
  induction ts with
  | nil => simp only [List.nil_append, sizeForest, Nat.zero_add]
  | cons t ts ih => simp only [List.cons_append, sizeForest, ih, Nat.add_assoc]

theorem sizeForest_reverse (ts : List Tree) : sizeForest ts.reverse = sizeForest ts := by
  induction ts with
  | nil => rfl
  | cons t ts ih =>
    rw [List.reverse_cons, sizeForest_append, ih, sizeForest, sizeForest, sizeForest]
    omega

theorem sizeForest_pop_lt {stack : List (List String × Tree)} {above : List String} {n : NodeInfo}
    {cs : List Tree} (popped : stack.getLast? = some (above, .node n cs)) (frames : List (List String × Tree))
    (framed : frames.map (·.2) = cs ∨ frames = []) :
    sizeForest ((stack.dropLast ++ frames.reverse).map (·.2)) < sizeForest (stack.map (·.2)) := by
  obtain ⟨below, rfl⟩ := List.getLast?_eq_some_iff.mp popped
  have pushed : sizeForest (frames.map (·.2)) ≤ sizeForest cs := by
    rcases framed with framed | rfl
    · exact Nat.le_of_eq (congrArg sizeForest framed)
    · exact Nat.zero_le _
  rw [List.dropLast_concat, List.map_append, List.map_append, List.map_reverse, sizeForest_append,
    sizeForest_append, sizeForest_reverse]
  simp only [List.map_cons, List.map_nil, sizeForest, size]
  omega

/-- A walk over an explicit stack: a list of frames whose last frame is the top, each frame a
subtree with the ids of the nodes above it, root first. The walk pops the last frame and lets
`accept` see its node; when `accept` enters the node, the frames of its children are pushed in
reverse, so that the first child is popped next. -/
def visitStack {m : Type → Type} [Monad m] {σ : Type} (accept : List String → NodeInfo → σ → m (Bool × σ))
    (stack : List (List String × Tree)) (s : σ) : m σ :=
  match _popped : stack.getLast? with
  | none => pure s
  | some (above, .node n cs) => do
    let (entered, s) ← accept above n s
    if entered then visitStack accept (stack.dropLast ++ (cs.map fun c => (above ++ [n.id], c)).reverse) s
    else visitStack accept stack.dropLast s
termination_by sizeForest (stack.map (·.2))
decreasing_by
  · exact sizeForest_pop_lt _popped _ (.inl (by rw [List.map_map]; exact List.map_id _))
  · exact List.append_nil stack.dropLast ▸ sizeForest_pop_lt _popped [] (.inr rfl)

def iterTree (t : Tree) : List (NodeInfo × Nat) :=
  Id.run (visitStack (fun above n out => pure (true, out ++ [(n, above.length)])) [([], t)] [])

def edges : Tree → List (NodeInfo × NodeInfo)
  | .node i cs => (cs.attach.map fun ⟨c, _⟩ => (i, c.info)) ++ (cs.attach.flatMap fun ⟨c, _⟩ => edges c)

end Tree

end PluginPack.Resolve
