import Mathlib.Data.List.Sort
import PluginPack.Resolve.Collect

/-! Level order of a tree, and the tree that `treeAt` builds from nodes made breadth
first. A level lists the subtrees at one depth from left to right, and level order lists
the levels from the root down. When the root is made first, every other node after its
parent, and the nodes in the order of their parents, level order lists the nodes of the
tree `treeAt` builds in the order they were made: each level is a run of consecutive
nodes, and the runs follow each other. -/

namespace PluginPack.Resolve

namespace Tree

/-- The subtrees at depth `d`, from left to right. -/
def level : Nat → Tree → List Tree
  | 0, t => [t]
  | d + 1, .node _ cs => cs.flatMap (level d)

def levelOrder (t : Tree) : List (Tree × Nat) :=
  (List.range t.preorder.length).flatMap fun d => (t.level d).map (·, d)

theorem length_preorderFrom_le {k : Nat} {c : Tree} : ∀ {cs : List Tree}, c ∈ cs →
    (preorderFrom k c).length ≤ (preorderForest k cs).length
  | _ :: cs, member => by
    rw [preorderForest, List.length_append]
    rcases List.mem_cons.mp member with rfl | later
    · omega
    · have := length_preorderFrom_le (k := k) later
      omega

theorem lt_length_of_level_ne_nil : ∀ (d : Nat) (t : Tree) (k : Nat), t.level d ≠ [] →
    d < (preorderFrom k t).length
  | 0, .node _ _, _, _ => by simp [preorderFrom]
  | d + 1, .node _ cs, k, reached => by
    obtain ⟨c, member, below⟩ : ∃ c ∈ cs, c.level d ≠ [] := by
      simpa [level, List.flatMap_eq_nil_iff] using reached
    have deep := lt_length_of_level_ne_nil d c (k + 1) below
    have within := length_preorderFrom_le (k := k + 1) member
    simp only [preorderFrom, List.length_cons]
    omega

theorem levelOrder_depth_sorted (t : Tree) : t.levelOrder.Pairwise fun a b => a.2 ≤ b.2 := by
  unfold levelOrder
  rw [List.pairwise_flatMap]
  refine ⟨fun d _ => List.pairwise_map.mpr (List.pairwise_of_forall fun _ _ => Nat.le_refl d), ?_⟩
  refine List.pairwise_lt_range.imp fun {a b} lower => ?_
  intro x atA y atB
  obtain ⟨_, _, rfl⟩ := List.mem_map.mp atA
  obtain ⟨_, _, rfl⟩ := List.mem_map.mp atB
  exact Nat.le_of_lt lower

end Tree

section Slots

variable (slots : Array Slot)

def childSlots (i : Nat) : List Nat :=
  (List.range slots.size).filter fun j => (slots.getD j default).parent == some i

/-- The nodes `d` levels below node `i`, from left to right. -/
def descendants : Nat → Nat → List Nat
  | 0, i => [i]
  | d + 1, i => (childSlots slots i).flatMap (descendants d)

def slotInfos : List NodeInfo :=
  (List.range slots.size).map fun i => (slots.getD i default).info

theorem getD_push_lt (s : Slot) {i : Nat} (bound : i < slots.size) :
    (slots.push s).getD i default = slots.getD i default := by
  simp [Array.getD_eq_getD_getElem?, Array.getElem?_push, Nat.ne_of_lt bound]

theorem getD_push_size (s : Slot) : (slots.push s).getD slots.size default = s := by
  simp [Array.getD_eq_getD_getElem?]

theorem slotInfos_push (s : Slot) : slotInfos (slots.push s) = slotInfos slots ++ [s.info] := by
  unfold slotInfos
  rw [Array.size_push, List.range_succ, List.map_append, List.map_singleton, getD_push_size]
  congr 1
  exact List.map_congr_left fun i member => by rw [getD_push_lt slots s (List.mem_range.mp member)]

theorem mem_childSlots {i j : Nat} :
    j ∈ childSlots slots i ↔ j < slots.size ∧ (slots.getD j default).parent = some i := by
  simp [childSlots]

theorem treeAt_succ (fuel i : Nat) :
    treeAt slots (fuel + 1) i = .node (slots.getD i default).info ((childSlots slots i).map (treeAt slots fuel)) :=
  rfl

@[simp] theorem info_treeAt (fuel i : Nat) : (treeAt slots fuel i).info = (slots.getD i default).info := by
  cases fuel <;> rfl

theorem level_treeAt : ∀ (d fuel i : Nat), d ≤ fuel →
    (treeAt slots fuel i).level d = (descendants slots d i).map (treeAt slots (fuel - d))
  | 0, fuel, i, _ => by simp [Tree.level, descendants]
  | d + 1, 0, _, within => absurd within (by omega)
  | d + 1, fuel + 1, i, within => by
    rw [treeAt_succ, Tree.level, descendants, List.flatMap_map, List.map_flatMap]
    refine List.flatMap_congr fun j _ => ?_
    rw [level_treeAt d fuel j (by omega), Nat.add_sub_add_right]

theorem grandchild_treeAt {fuel : Nat} {c g : Tree} (top : c ∈ (treeAt slots fuel 0).children)
    (below : g ∈ c.children) : ∃ j k fuel', j ∈ childSlots slots 0 ∧ k ∈ childSlots slots j ∧
      c.info = (slots.getD j default).info ∧ g = treeAt slots fuel' k := by
  cases fuel with
  | zero => exact absurd top List.not_mem_nil
  | succ fuel =>
    rw [treeAt_succ, Tree.children] at top
    obtain ⟨j, atTop, rfl⟩ := List.mem_map.mp top
    cases fuel with
    | zero => exact absurd below List.not_mem_nil
    | succ fuel =>
      rw [treeAt_succ, Tree.children] at below
      obtain ⟨k, atJ, rfl⟩ := List.mem_map.mp below
      exact ⟨j, k, fuel, atTop, atJ, info_treeAt slots _ j, rfl⟩

theorem level_treeAt_beyond : ∀ (fuel d i : Nat), fuel < d → (treeAt slots fuel i).level d = []
  | 0, d + 1, _, _ => rfl
  | fuel + 1, d + 1, i, beyond => by
    rw [treeAt_succ, Tree.level, List.flatMap_map]
    exact List.flatMap_eq_nil_iff.mpr fun j _ => level_treeAt_beyond fuel d j (by omega)

theorem descendants_succ : ∀ (d i : Nat),
    descendants slots (d + 1) i = (descendants slots d i).flatMap (childSlots slots)
  | 0, i => by simp [descendants]
  | d + 1, i => by
    rw [descendants, descendants, List.flatMap_assoc]
    exact List.flatMap_congr fun j _ => descendants_succ d j

theorem descendants_lt_size : ∀ (d i x : Nat), i < slots.size → x ∈ descendants slots d i → x < slots.size
  | 0, i, x, bound, member => by
    rw [descendants, List.mem_singleton] at member
    rwa [member]
  | d + 1, i, x, _, member => by
    rw [descendants, List.mem_flatMap] at member
    obtain ⟨j, child, below⟩ := member
    exact descendants_lt_size d j x ((mem_childSlots slots).mp child).1 below

/-- Nodes made breadth first: the root comes first and has no parent, every other node
comes after its parent, and parents come in the order their children were made. -/
structure BreadthFirst : Prop where
  rooted : 0 < slots.size
  rootParent : (slots.getD 0 default).parent = none
  parentBefore : ∀ i, 0 < i → i < slots.size → ∃ p, (slots.getD i default).parent = some p ∧ p < i
  parentsOrdered : ∀ i j p q, i ≤ j → j < slots.size → (slots.getD i default).parent = some p →
    (slots.getD j default).parent = some q → p ≤ q

variable {slots}

namespace BreadthFirst

theorem push (shaped : BreadthFirst slots) (info : NodeInfo) {q : Nat} (made : q < slots.size)
    (latest : ∀ i p, i < slots.size → (slots.getD i default).parent = some p → p ≤ q) :
    BreadthFirst (slots.push ⟨info, some q⟩) := by
  have old : ∀ i, i < slots.size → (slots.push ⟨info, some q⟩).getD i default = slots.getD i default :=
    fun i bound => getD_push_lt slots _ bound
  have new := getD_push_size slots ⟨info, some q⟩
  refine ⟨by simp, by rw [old 0 shaped.rooted]; exact shaped.rootParent, ?_, ?_⟩
  · intro i pos bound
    rw [Array.size_push] at bound
    rcases Nat.lt_succ_iff_lt_or_eq.mp bound with earlier | rfl
    · rw [old i earlier]
      exact shaped.parentBefore i pos earlier
    · exact ⟨q, by rw [new], made⟩
  · intro i j p p' le bound atI atJ
    rw [Array.size_push] at bound
    rcases Nat.lt_succ_iff_lt_or_eq.mp bound with earlier | rfl
    · rw [old i (by omega)] at atI
      rw [old j earlier] at atJ
      exact shaped.parentsOrdered i j p p' le earlier atI atJ
    · rw [new, Option.some.injEq] at atJ
      subst atJ
      rcases Nat.lt_or_ge i slots.size with before | atEnd
      · rw [old i before] at atI
        exact latest i p before atI
      · rw [show i = slots.size by omega, new, Option.some.injEq] at atI
        rw [atI]

theorem lt_of_mem_childSlots (shaped : BreadthFirst slots) {i j : Nat} (child : j ∈ childSlots slots i) :
    i < j := by
  obtain ⟨bound, parent⟩ := (mem_childSlots slots).mp child
  rcases Nat.eq_zero_or_pos j with rfl | pos
  · rw [shaped.rootParent] at parent
    cases parent
  · obtain ⟨p, named, before⟩ := shaped.parentBefore j pos bound
    rw [named, Option.some.injEq] at parent
    rwa [← parent]

theorem parent_lt (shaped : BreadthFirst slots) {k j : Nat} (bound : k < slots.size)
    (parent : (slots.getD k default).parent = some j) : j < k :=
  shaped.lt_of_mem_childSlots ((mem_childSlots slots).mpr ⟨bound, parent⟩)

theorem childSlots_lt (shaped : BreadthFirst slots) {i i' j j' : Nat} (earlier : i < i')
    (child : j ∈ childSlots slots i) (child' : j' ∈ childSlots slots i') : j < j' := by
  obtain ⟨bound, parent⟩ := (mem_childSlots slots).mp child
  obtain ⟨-, parent'⟩ := (mem_childSlots slots).mp child'
  apply Nat.lt_of_not_le
  intro later
  have := shaped.parentsOrdered j' j i' i later bound parent' parent
  omega

theorem add_le_of_mem_descendants (shaped : BreadthFirst slots) :
    ∀ (d i x : Nat), x ∈ descendants slots d i → i + d ≤ x
  | 0, i, x, member => by
    rw [descendants, List.mem_singleton] at member
    omega
  | d + 1, i, x, member => by
    rw [descendants, List.mem_flatMap] at member
    obtain ⟨j, child, below⟩ := member
    have := shaped.lt_of_mem_childSlots child
    have := shaped.add_le_of_mem_descendants d j x below
    omega

theorem descendants_lt (shaped : BreadthFirst slots) :
    ∀ (d j j' x y : Nat), j < j' → x ∈ descendants slots d j → y ∈ descendants slots d j' → x < y
  | 0, j, j', x, y, earlier, atX, atY => by
    rw [descendants, List.mem_singleton] at atX atY
    rw [atX, atY]
    exact earlier
  | d + 1, j, j', x, y, earlier, atX, atY => by
    rw [descendants, List.mem_flatMap] at atX atY
    obtain ⟨c, child, belowC⟩ := atX
    obtain ⟨c', child', belowC'⟩ := atY
    exact shaped.descendants_lt d c c' x y (shaped.childSlots_lt earlier child child') belowC belowC'

theorem descendants_sorted (shaped : BreadthFirst slots) :
    ∀ (d i : Nat), (descendants slots d i).Pairwise (· < ·)
  | 0, _ => List.pairwise_singleton _ _
  | d + 1, i => by
    rw [descendants, List.pairwise_flatMap]
    refine ⟨fun j _ => shaped.descendants_sorted d j, ?_⟩
    have ordered : (childSlots slots i).Pairwise (· < ·) := List.pairwise_lt_range.filter _
    exact ordered.imp fun {j j'} earlier x atX y atY => shaped.descendants_lt d j j' x y earlier atX atY

theorem descendants_lt_of_depth (shaped : BreadthFirst slots) :
    ∀ (d d' x y : Nat), x ∈ descendants slots d 0 → y ∈ descendants slots d' 0 → d < d' → x < y
  | 0, d', x, y, atX, atY, deeper => by
    rw [descendants, List.mem_singleton] at atX
    have := shaped.add_le_of_mem_descendants d' 0 y atY
    omega
  | d + 1, d' + 1, x, y, atX, atY, deeper => by
    rw [descendants_succ, List.mem_flatMap] at atX atY
    obtain ⟨p, upX, child⟩ := atX
    obtain ⟨q, upY, child'⟩ := atY
    exact shaped.childSlots_lt (shaped.descendants_lt_of_depth d d' p q upX upY (by omega)) child child'

theorem mem_descendants (shaped : BreadthFirst slots) (i : Nat) (bound : i < slots.size) :
    ∃ d ≤ i, i ∈ descendants slots d 0 := by
  induction i using Nat.strong_induction_on with
  | _ i ih =>
    rcases Nat.eq_zero_or_pos i with rfl | pos
    · exact ⟨0, le_rfl, by simp [descendants]⟩
    · obtain ⟨p, parent, before⟩ := shaped.parentBefore i pos bound
      obtain ⟨d, shallow, atP⟩ := ih p before (by omega)
      refine ⟨d + 1, by omega, ?_⟩
      rw [descendants_succ, List.mem_flatMap]
      exact ⟨p, atP, (mem_childSlots slots).mpr ⟨bound, parent⟩⟩

theorem flatMap_descendants (shaped : BreadthFirst slots) {levels : Nat}
    (deep : ∀ i < slots.size, ∃ d < levels, i ∈ descendants slots d 0) :
    (List.range levels).flatMap (descendants slots · 0) = List.range slots.size := by
  have sorted : ((List.range levels).flatMap (descendants slots · 0)).Pairwise (· < ·) := by
    rw [List.pairwise_flatMap]
    refine ⟨fun d _ => shaped.descendants_sorted d 0, ?_⟩
    exact List.pairwise_lt_range.imp fun {d d'} deeper x atX y atY =>
      shaped.descendants_lt_of_depth d d' x y atX atY deeper
  refine sorted.eq_of_mem_iff List.pairwise_lt_range fun x => ?_
  rw [List.mem_flatMap, List.mem_range]
  constructor
  · rintro ⟨d, -, member⟩
    exact descendants_lt_size slots d 0 x shaped.rooted member
  · intro bound
    obtain ⟨d, within, member⟩ := deep x bound
    exact ⟨d, List.mem_range.mpr within, member⟩

theorem levelOrder_treeAt (shaped : BreadthFirst slots) :
    (treeAt slots slots.size 0).levelOrder =
      (List.range (treeAt slots slots.size 0).preorder.length).flatMap fun d =>
        (descendants slots d 0).map fun i => (treeAt slots (slots.size - d) i, d) := by
  unfold Tree.levelOrder
  refine List.flatMap_congr fun d _ => ?_
  by_cases within : d ≤ slots.size
  · rw [level_treeAt slots d slots.size 0 within, List.map_map]
    rfl
  · have none : descendants slots d 0 = [] := List.eq_nil_iff_forall_not_mem.mpr fun x member => by
      have := shaped.add_le_of_mem_descendants d 0 x member
      have := descendants_lt_size slots d 0 x shaped.rooted member
      omega
    rw [level_treeAt_beyond slots slots.size d 0 (by omega), none]
    rfl

theorem levelOrder_infos (shaped : BreadthFirst slots) :
    (treeAt slots slots.size 0).levelOrder.map (·.1.info) = slotInfos slots := by
  have deep : ∀ i < slots.size, ∃ d < (treeAt slots slots.size 0).preorder.length, i ∈ descendants slots d 0 := by
    intro i bound
    obtain ⟨d, shallow, member⟩ := shaped.mem_descendants i bound
    refine ⟨d, Tree.lt_length_of_level_ne_nil d _ 0 ?_, member⟩
    rw [level_treeAt slots d slots.size 0 (by omega)]
    exact List.ne_nil_of_mem (List.mem_map_of_mem member)
  rw [shaped.levelOrder_treeAt, List.map_flatMap, slotInfos, ← shaped.flatMap_descendants deep, List.map_flatMap]
  refine List.flatMap_congr fun d _ => ?_
  simp [Function.comp_def]

theorem mem_levelOrder (shaped : BreadthFirst slots) {e : Tree × Nat}
    (member : e ∈ (treeAt slots slots.size 0).levelOrder) :
    ∃ i fuel, i < slots.size ∧ e.1 = treeAt slots fuel i := by
  rw [shaped.levelOrder_treeAt, List.mem_flatMap] at member
  obtain ⟨d, -, atD⟩ := member
  obtain ⟨i, below, rfl⟩ := List.mem_map.mp atD
  exact ⟨i, _, descendants_lt_size slots d 0 i shaped.rooted below, rfl⟩

end BreadthFirst

end Slots

end PluginPack.Resolve
