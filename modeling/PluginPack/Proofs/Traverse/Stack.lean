import PluginPack.Proofs.Assembly.Agreement

/-! Walks over an explicit stack are preorder walks.

A stack walk keeps frames of subtrees on a list whose last frame is the top: it pops the last
frame, lets `accept` see its node and, when the node is entered, pushes the frames of its children
in reverse, so that the first child comes off next. Read from the top down, the stack is a row of
subtrees still to walk. Popping a node and pushing its children replaces the node's subtree at the
head of that row by the node and the subtrees of its children, in order. So the stack walk does what
the recursive walk `visitBelow` does to each subtree of the row in turn, with the same calls of
`accept` in the same order, in any lawful monad (`visitStack_eq_foldlM`).

Two walks of the library are stack walks: `iterTree`, which enters every node and so lists the nodes
in preorder, and `walkLoop`, one walk of a traversal, which is the recursive `walkOnce`.

Main statement: `stack_walks_are_preorder_walks`. -/

namespace PluginPack.Resolve.Tree

variable {m : Type → Type} [Monad m] {σ : Type}

mutual

/-- The recursive walk below a node: `accept` sees the node, and the walk goes on into the node's
children, in order, only when `accept` entered the node. -/
def visitBelow (accept : List String → NodeInfo → σ → m (Bool × σ)) (above : List String) :
    Tree → σ → m σ
  | .node n cs, s => do
    let (entered, s) ← accept above n s
    if entered then visitForest accept (above ++ [n.id]) cs s else pure s

def visitForest (accept : List String → NodeInfo → σ → m (Bool × σ)) (above : List String) :
    List Tree → σ → m σ
  | [], s => pure s
  | t :: ts, s => do
    let s ← visitBelow accept above t s
    visitForest accept above ts s

end

variable (accept : List String → NodeInfo → σ → m (Bool × σ))

theorem visitStack_nil (s : σ) : visitStack accept [] s = pure s := by
  rw [visitStack]
  rfl

theorem visitStack_push (rest : List (List String × Tree)) (above : List String) (n : NodeInfo)
    (cs : List Tree) (s : σ) :
    visitStack accept (rest ++ [(above, .node n cs)]) s = (do
      let (entered, s) ← accept above n s
      if entered then visitStack accept (rest ++ (cs.map fun c => (above ++ [n.id], c)).reverse) s
      else visitStack accept rest s) := by
  rw [visitStack]
  split
  · rename_i none
    simp at none
  · rename_i above' n' cs' popped
    simp only [List.getLast?_concat, Option.some.injEq, Prod.mk.injEq, Tree.node.injEq] at popped
    obtain ⟨rfl, rfl, rfl⟩ := popped
    rw [List.dropLast_concat]

def frameStep (s : σ) (frame : List String × Tree) : m σ := visitBelow accept frame.1 frame.2 s

theorem visitForest_eq_foldlM (above : List String) :
    ∀ (cs : List Tree) (s : σ),
      visitForest accept above cs s = (cs.map fun c => (above, c)).foldlM (frameStep accept) s
  | [], s => by
    rw [visitForest, List.map_nil, List.foldlM_nil]
  | c :: cs, s => by
    rw [visitForest, List.map_cons, List.foldlM_cons]
    exact bind_congr fun s' => visitForest_eq_foldlM above cs s'

variable [LawfulMonad m]

theorem visitStack_eq_foldlM (stack : List (List String × Tree)) (s : σ) :
    visitStack accept stack s = stack.reverse.foldlM (frameStep accept) s := by
  -- Induction on the number of nodes on the stack, which every pop lowers.
  induction measure : sizeForest (stack.map (·.2)) using Nat.strongRecOn generalizing stack s with
  | ind size ih =>
  rcases List.eq_nil_or_concat stack with rfl | ⟨rest, ⟨above, ⟨n, cs⟩⟩, rfl⟩
  · rw [visitStack_nil, List.reverse_nil, List.foldlM_nil]
  · have popped : (rest ++ [(above, Tree.node n cs)]).getLast? = some (above, .node n cs) :=
      List.getLast?_concat
    rw [List.concat_eq_append] at measure ⊢
    rw [visitStack_push, List.reverse_append, List.reverse_singleton, List.singleton_append, List.foldlM_cons]
    simp only [frameStep, visitBelow, bind_assoc]
    refine bind_congr fun step => ?_
    obtain ⟨entered, s'⟩ := step
    cases entered
    · -- The node is not entered: the rest of the stack is walked as it was.
      have smaller := sizeForest_pop_lt popped [] (.inr rfl)
      rw [List.reverse_nil, List.append_nil, List.dropLast_concat, measure] at smaller
      simp only [Bool.false_eq_true, if_false, pure_bind]
      exact ih _ smaller rest s' rfl
    · -- The node is entered: its children's frames come off before the rest of the stack.
      have smaller := sizeForest_pop_lt popped (cs.map fun c => (above ++ [n.id], c))
        (.inl (by rw [List.map_map]; exact List.map_id _))
      rw [List.dropLast_concat, measure] at smaller
      simp only [if_true]
      rw [ih _ smaller _ s' rfl, List.reverse_append, List.reverse_reverse, List.foldlM_append,
        visitForest_eq_foldlM]

theorem visitStack_singleton (above : List String) (t : Tree) (s : σ) :
    visitStack accept [(above, t)] s = visitBelow accept above t s := by
  simp only [visitStack_eq_foldlM, List.reverse_singleton, List.foldlM_cons, List.foldlM_nil, bind_pure]
  rfl

mutual

theorem visitBelow_listing :
    ∀ (above : List String) (t : Tree) (out : List (NodeInfo × Nat)),
      visitBelow (m := Id) (fun above n out => pure (true, out ++ [(n, above.length)])) above t out =
        out ++ t.preorderFrom above.length
  | above, .node n cs, out => by
    rw [visitBelow, pure_bind]
    show visitForest _ (above ++ [n.id]) cs (out ++ [(n, above.length)]) = _
    rw [visitForest_listing, preorderFrom, List.length_append, List.length_singleton, List.append_assoc,
      List.singleton_append]

theorem visitForest_listing :
    ∀ (above : List String) (ts : List Tree) (out : List (NodeInfo × Nat)),
      visitForest (m := Id) (fun above n out => pure (true, out ++ [(n, above.length)])) above ts out =
        out ++ preorderForest above.length ts
  | _, [], out => by
    rw [visitForest, preorderForest, List.append_nil]
    rfl
  | above, t :: ts, out => by
    rw [visitForest, preorderForest, ← List.append_assoc, ← visitForest_listing above ts,
      ← visitBelow_listing above t]
    rfl

end

theorem iterTree_eq_preorder (t : Tree) : t.iterTree = t.preorder := by
  rw [iterTree, Id.run, visitStack_singleton, visitBelow_listing]
  rfl

end PluginPack.Resolve.Tree

namespace PluginPack.Traverse

open PluginPack.Resolve

variable {policy : Policy} {pinned : Option (List (String × String))}

theorem walkAccept_below {above : List String} (named : above ≠ []) (n : NodeInfo) (st : WalkState) :
    walkAccept policy pinned above n st = acceptNode policy pinned (above ++ [n.id]) n st := by
  rw [walkAccept, if_neg (by simpa [List.isEmpty_iff] using named)]

mutual

theorem visitBelow_walkAccept {above : List String} (named : above ≠ []) :
    ∀ (t : Tree) (st : WalkState),
      Tree.visitBelow (walkAccept policy pinned) above t st = walkBelow policy pinned above t st
  | .node n cs, st => by
    rw [Tree.visitBelow, walkBelow, walkAccept_below named]
    refine bind_congr fun step => ?_
    obtain ⟨entered, st'⟩ := step
    cases entered
    · rfl
    · exact visitForest_walkAccept (List.append_ne_nil_of_right_ne_nil above (List.cons_ne_nil n.id [])) cs st'

theorem visitForest_walkAccept {above : List String} (named : above ≠ []) :
    ∀ (ts : List Tree) (st : WalkState),
      Tree.visitForest (walkAccept policy pinned) above ts st = walkForest policy pinned above ts st
  | [], st => rfl
  | t :: ts, st => by
    rw [Tree.visitForest, walkForest, visitBelow_walkAccept named t]
    exact bind_congr fun st' => visitForest_walkAccept named ts st'

end

theorem walkLoop_eq_walkOnce (t : Tree) (known : Classified) :
    walkLoop policy pinned t known = walkOnce policy pinned t known := by
  obtain ⟨r, cs⟩ := t
  rw [walkLoop, Tree.visitStack_singleton, Tree.visitBelow, walkAccept, if_pos List.isEmpty_nil, pure_bind]
  exact visitForest_walkAccept (List.cons_ne_nil r.id []) cs _

theorem traverse_visited_by_walkLoop {t : Tree} {sel : Selection} {w w' : Workspace}
    (run : (traverse t policy).run' w = (.ok sel, w')) :
    ∃ pinned known st w₁, (walkLoop policy pinned t known).run' w₁ = (.ok st, w') ∧
      sel.visited = st.gathered.visited.toList := by
  simp only [traverse] at run
  obtain ⟨g, w₂, walked, rest⟩ := Step.run'_bind_eq_ok run
  simp only [Step.run'_pure, Prod.mk.injEq, Except.ok.injEq] at rest
  obtain ⟨rfl, rfl⟩ := rest
  obtain ⟨pinned, known, st, w₁, -, walk, rfl⟩ :=
    rewalk_last_walk (fun _ _ => True) (fun _ _ => trivial) _ _ _ _ trivial walked
  exact ⟨pinned, known, st, w₁, by rw [walkLoop_eq_walkOnce]; exact walk, rfl⟩

end PluginPack.Traverse

namespace PluginPack.Traverse

open PluginPack.Resolve

/-- The stack walks of the library are preorder walks. Listing every node over an explicit stack
gives the preorder. In any lawful monad, a stack walk from the root makes the calls of `accept`, with
their effects and in their order, of the recursive walk that goes into a node's children only when
`accept` entered the node. One walk of a traversal over the stack is `walkOnce`, and what a
traversal reports as visited is what such a walk visited. -/
theorem stack_walks_are_preorder_walks :
    (∀ t : Tree, t.iterTree = t.preorder) ∧
    (∀ (m : Type → Type) [Monad m] [LawfulMonad m] (σ : Type) (accept : List String → NodeInfo → σ → m (Bool × σ))
        (t : Tree) (s : σ), Tree.visitStack accept [([], t)] s = Tree.visitBelow accept [] t s) ∧
    (∀ (policy : Policy) (pinned : Option (List (String × String))) (t : Tree) (known : Classified),
        walkLoop policy pinned t known = walkOnce policy pinned t known) ∧
    ∀ (t : Tree) (policy : Policy) (sel : Selection) (w w' : Workspace), (traverse t policy).run' w = (.ok sel, w') →
      ∃ pinned known st w₁, (walkLoop policy pinned t known).run' w₁ = (.ok st, w') ∧
        sel.visited = st.gathered.visited.toList :=
  ⟨Tree.iterTree_eq_preorder, fun _ _ _ _ accept t s => Tree.visitStack_singleton accept [] t s,
    fun _ _ => walkLoop_eq_walkOnce, fun _ _ _ _ _ => traverse_visited_by_walkLoop⟩

/-- The tree of `demo`: `a` below it, and below `a` first `b`, with an older `a` left out below it,
then `ex`. -/
def demoTree : Tree :=
  .node { coordinate := { groupId := "com.acme", artifactId := "demo", version := "1.0" } }
    [libraryNode "org.lib" "a" "1.0"
      [libraryNode "org.lib" "b" "1.0"
        [.node { coordinate := { groupId := "org.lib", artifactId := "a", version := "0.9", scope := some "compile" },
                 winner := some "1.0" } []],
       libraryNode "org.lib" "ex" "1.0" []]]

example : demoTree.iterTree.map (·.1.coordinate.artifactId) = ["demo", "a", "b", "a", "ex"] := by
  rw [Tree.iterTree_eq_preorder]
  rfl

/-- Listing the nodes of `demoTree` over the stack is the recursive listing, and traversing it visits
every node, in preorder, as its last stack walk did. -/
theorem demo_walks_in_preorder :
    Tree.visitStack (m := Id) (fun above n out => pure (true, out ++ [(n, above.length)])) [([], demoTree)] [] =
      Tree.visitBelow (fun above n out => pure (true, out ++ [(n, above.length)])) [] demoTree [] ∧
    ∃ sel w', (traverse demoTree {}).run' { store := {} } = (.ok sel, w') ∧
      sel.visited = ["com.acme:demo:jar:1.0", "org.lib:a:jar:1.0", "org.lib:b:jar:1.0", "org.lib:a:jar:0.9",
        "org.lib:ex:jar:1.0"] ∧
      ∃ pinned known st w₁, (walkLoop {} pinned demoTree known).run' w₁ = (.ok st, w') ∧
        sel.visited = st.gathered.visited.toList := by
  have computed : ((traverse demoTree {}).run' { store := {} }).1.toOption.map Selection.visited =
      some ["com.acme:demo:jar:1.0", "org.lib:a:jar:1.0", "org.lib:b:jar:1.0", "org.lib:a:jar:0.9",
        "org.lib:ex:jar:1.0"] := by
    decide +kernel
  obtain ⟨sel, run, visited⟩ := Step.run'_of_toOption_map computed
  exact ⟨stack_walks_are_preorder_walks.2.1 Id _ _ demoTree [], sel, _, run, visited,
    stack_walks_are_preorder_walks.2.2.2 demoTree {} sel _ _ run⟩

end PluginPack.Traverse
