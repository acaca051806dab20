import Mathlib.Data.Finset.Card
import Mathlib.Data.Finset.Powerset
import PluginPack.Proofs.Traverse.FixedPoint

/-! Why re-walking stops. A walk selects facades made at nodes below the root, one per
artifact id, so the versions it selects form a *version map of the tree*: a set of artifact
id and version pairs of those nodes with no artifact id twice. There are finitely many such
maps. The loop keeps the maps of the walks it has done, and a walk that does not end the loop
adds a map that none of them equals; so after as many walks as there are maps, the next one
repeats a map and ends the loop. Fuel beyond that number changes nothing, and the fuel that
`traverse` gives is beyond it. -/

namespace PluginPack.Resolve

def Tree.Descendant (t : Tree) (n : NodeInfo) : Prop :=
  ∃ ancestors, Tree.Reaches t.children ancestors n

theorem Tree.preorder_eq (t : Tree) : t.preorder = (t.info, 0) :: Tree.preorderForest 1 t.children := by
  cases t with
  | node i cs => simp [Tree.preorder, Tree.preorderFrom, Tree.info, Tree.children]

theorem Tree.preorderFrom_subset {t : Tree} {ts : List Tree} (member : t ∈ ts) (depth : Nat) :
    Tree.preorderFrom depth t ⊆ Tree.preorderForest depth ts := by
  induction ts with
  | nil => simp at member
  | cons head rest ih =>
    intro x listed
    rw [Tree.preorderForest]
    rcases List.mem_cons.mp member with rfl | later
    · exact List.mem_append_left _ listed
    · exact List.mem_append_right _ (ih later listed)

theorem Tree.Reaches.mem_preorderForest {ts : List Tree} {ancestors : List NodeInfo} {n : NodeInfo}
    (reach : Tree.Reaches ts ancestors n) (depth : Nat) :
    ∃ d, (n, d) ∈ Tree.preorderForest depth ts := by
  induction reach generalizing depth with
  | root member =>
    exact ⟨depth, Tree.preorderFrom_subset member depth (by simp [Tree.preorderFrom])⟩
  | down member _ ih =>
    obtain ⟨d, listed⟩ := ih (depth + 1)
    refine ⟨d, Tree.preorderFrom_subset member depth ?_⟩
    rw [Tree.preorderFrom]
    exact List.mem_cons_of_mem _ listed

def Tree.versionPairs (t : Tree) : Finset (String × String) :=
  ((Tree.preorderForest 1 t.children).map fun p => (p.1.coordinate.artifactId, p.1.coordinate.version)).toFinset

theorem Tree.Descendant.mem_versionPairs {t : Tree} {n : NodeInfo} (below : t.Descendant n) :
    (n.coordinate.artifactId, n.coordinate.version) ∈ t.versionPairs := by
  obtain ⟨ancestors, reach⟩ := below
  obtain ⟨d, listed⟩ := reach.mem_preorderForest 1
  exact List.mem_toFinset.mpr (List.mem_map.mpr ⟨(n, d), listed, rfl⟩)

end PluginPack.Resolve

namespace PluginPack.Traverse

open PluginPack.Artifact
open PluginPack.Resolve

/-! Every walk invariant follows from what accepting one node of the tree keeps. -/

section Induction

variable {policy : Policy} {pinned : Option (List (String × String))} {t : Tree}

mutual

theorem walkBelow_induction (Inv : WalkState → Workspace → Prop)
    (step : ∀ {n trail st st' accepted w w'}, t.Descendant n → Inv st w →
      (acceptNode policy pinned trail n st).run' w = (.ok (accepted, st'), w') → Inv st' w') :
    ∀ (sub : Tree) {trail : List String} {st st' : WalkState} {w w' : Workspace},
    (∀ ancestors n, Tree.Reaches [sub] ancestors n → t.Descendant n) → Inv st w →
    (walkBelow policy pinned trail sub st).run' w = (.ok st', w') → Inv st' w'
  | .node n cs, trail, st, st', w, w', placed, holds, run => by
    simp only [walkBelow] at run
    obtain ⟨⟨accepted, st₁⟩, w₁, accept, run⟩ := Step.run'_bind_eq_ok run
    have accepted₁ := step (placed [] n (.root (List.mem_singleton_self _))) holds accept
    cases accepted
    · simp only [Bool.false_eq_true, if_false, Step.run'_pure, Prod.mk.injEq, Except.ok.injEq] at run
      obtain ⟨rfl, rfl⟩ := run
      exact accepted₁
    · -- The children's nodes are reached through `n`.
      refine walkForest_induction Inv step cs (fun ancestors m reach => ?_) accepted₁ run
      exact placed (n :: ancestors) m (.down (List.mem_singleton_self _) reach)

theorem walkForest_induction (Inv : WalkState → Workspace → Prop)
    (step : ∀ {n trail st st' accepted w w'}, t.Descendant n → Inv st w →
      (acceptNode policy pinned trail n st).run' w = (.ok (accepted, st'), w') → Inv st' w') :
    ∀ (ts : List Tree) {trail : List String} {st st' : WalkState} {w w' : Workspace},
    (∀ ancestors n, Tree.Reaches ts ancestors n → t.Descendant n) → Inv st w →
    (walkForest policy pinned trail ts st).run' w = (.ok st', w') → Inv st' w'
  | [], trail, st, st', w, w', placed, holds, run => by
    simp only [walkForest, Step.run'_pure, Prod.mk.injEq, Except.ok.injEq] at run
    obtain ⟨rfl, rfl⟩ := run
    exact holds
  | sub :: rest, trail, st, st', w, w', placed, holds, run => by
    simp only [walkForest] at run
    obtain ⟨st₁, w₁, first, run⟩ := Step.run'_bind_eq_ok run
    have holds₁ := walkBelow_induction Inv step sub
      (fun ancestors n reach => placed ancestors n (reach.mono (by simp))) holds first
    exact walkForest_induction Inv step rest
      (fun ancestors n reach => placed ancestors n (reach.mono (List.subset_cons_self _ _))) holds₁ run

end

theorem walkOnce_induction (Inv : WalkState → Workspace → Prop)
    (step : ∀ {n trail st st' accepted w w'}, t.Descendant n → Inv st w →
      (acceptNode policy pinned trail n st).run' w = (.ok (accepted, st'), w') → Inv st' w')
    {known : Classified} {st : WalkState} {w w' : Workspace}
    (start : Inv { gathered := { visited := #[t.info.id] }, classified := known } w)
    (run : (walkOnce policy pinned t known).run' w = (.ok st, w')) : Inv st w' := by
  dsimp only [walkOnce] at run
  exact walkForest_induction Inv step t.children (fun ancestors n reach => ⟨ancestors, reach⟩) start run

end Induction

/-- A selection made by walking `t`: one entry per artifact id, each the facade made at a node
below the root, filed under that facade's artifact id. -/
structure FromTree (t : Tree) (selection : List (String × Facade)) : Prop where
  keysNodup : (selection.map Prod.fst).Nodup
  made : ∀ e ∈ selection, e.1 = e.2.artifactId ∧
    ∃ n trail, t.Descendant n ∧ e.2 = Facade.make n.coordinate n.file trail n.packaging

theorem FromTree.put {t : Tree} {selection : List (String × Facade)} (fromTree : FromTree t selection)
    {n : NodeInfo} (below : t.Descendant n) (trail : List String) :
    FromTree t (putSelected selection (Facade.make n.coordinate n.file trail n.packaging)) := by
  refine ⟨keys_nodup_putSelected _ _ fromTree.keysNodup, fun e member => ?_⟩
  rcases mem_putSelected _ _ member with old | rfl
  · exact fromTree.made e old
  · exact ⟨rfl, n, trail, below, rfl⟩

theorem walkOnce_fromTree {policy : Policy} {pinned : Option (List (String × String))} {t : Tree}
    {known : Classified} {st : WalkState} {w w' : Workspace}
    (run : (walkOnce policy pinned t known).run' w = (.ok st, w')) : FromTree t st.gathered.selection := by
  refine walkOnce_induction (fun st _ => FromTree t st.gathered.selection) (fun below fromTree accept => ?_)
    ⟨List.nodup_nil, fun _ member => by simp at member⟩ run
  rcases (acceptNode_selection accept).1 with same | put
  · exact same ▸ fromTree
  · exact put ▸ fromTree.put below _

/-! Version maps. -/

def versionMaps (t : Tree) : Finset (Finset (String × String)) :=
  t.versionPairs.powerset.filter fun m => ∀ a ∈ m, ∀ b ∈ m, a.1 = b.1 → a = b

theorem card_versionMaps_lt_walkBound (t : Tree) : (versionMaps t).card < walkBound t := by
  have pairs : t.versionPairs.card < t.preorder.length := by
    calc t.versionPairs.card ≤ (Tree.preorderForest 1 t.children).length :=
          (List.toFinset_card_le _).trans (List.length_map _).le
      _ < t.preorder.length := by rw [Tree.preorder_eq]; exact Nat.lt_succ_self _
  calc (versionMaps t).card ≤ t.versionPairs.powerset.card := Finset.card_filter_le _ _
    _ = 2 ^ t.versionPairs.card := Finset.card_powerset _
    _ < 2 ^ t.preorder.length + 1 := Nat.lt_succ_of_le (Nat.pow_le_pow_right (by decide) pairs.le)
    _ = walkBound t := rfl

theorem walkOnce_versionMap {policy : Policy} {pinned : Option (List (String × String))} {t : Tree}
    {known : Classified} {st : WalkState} {w w' : Workspace}
    (run : (walkOnce policy pinned t known).run' w = (.ok st, w')) :
    (versionsOf st.gathered).Nodup ∧ (versionsOf st.gathered).toFinset ∈ versionMaps t := by
  have fromTree := walkOnce_fromTree run
  have keys : ((versionsOf st.gathered).map Prod.fst).Nodup := by
    rw [versionsOf_keys]
    exact fromTree.keysNodup
  refine ⟨keys.of_map _, Finset.mem_filter.mpr ⟨Finset.mem_powerset.mpr fun pair listed => ?_, ?_⟩⟩
  · -- Each pair is the artifact id and version of the node its facade was made at.
    obtain ⟨⟨k, f⟩, member, rfl⟩ := List.mem_map.mp (List.mem_toFinset.mp listed)
    obtain ⟨keyed, n, trail, below, made⟩ := fromTree.made _ member
    dsimp only at keyed made ⊢
    subst keyed made
    exact below.mem_versionPairs
  · intro a held b held' same
    exact List.inj_on_of_nodup_map keys (List.mem_toFinset.mp held) (List.mem_toFinset.mp held') same

/-! The maps the loop has seen. -/

theorem sameVersions_of_toFinset_eq {a b : List (String × String)} (aNodup : a.Nodup) (bNodup : b.Nodup)
    (same : a.toFinset = b.toFinset) : sameVersions a b = true := by
  have length : a.length = b.length := by
    rw [← List.toFinset_card_of_nodup aNodup, ← List.toFinset_card_of_nodup bNodup, same]
  simp only [sameVersions, length, beq_self_eq_true, Bool.true_and, List.all_eq_true, List.contains_iff_mem]
  intro x member
  exact List.mem_toFinset.mp (same ▸ List.mem_toFinset.mpr member)

/-- The maps of the walks that did not end the loop: version maps of the tree, each without
repeats, no two the same. -/
structure SeenMaps (t : Tree) (seen : List (List (String × String))) : Prop where
  maps : ∀ m ∈ seen, m.Nodup ∧ m.toFinset ∈ versionMaps t
  distinct : (seen.map List.toFinset).Nodup

theorem SeenMaps.nil (t : Tree) : SeenMaps t [] := ⟨nofun, List.nodup_nil⟩

theorem SeenMaps.snoc {t : Tree} {seen : List (List (String × String))} (seenMaps : SeenMaps t seen)
    {m : List (String × String)} (nodup : m.Nodup) (map : m.toFinset ∈ versionMaps t)
    (unseen : seen.any (sameVersions m) = false) : SeenMaps t (seen ++ [m]) := by
  refine ⟨fun m' member => ?_, ?_⟩
  · rcases List.mem_append.mp member with old | new
    · exact seenMaps.maps m' old
    · rw [List.mem_singleton.mp new]
      exact ⟨nodup, map⟩
  · rw [List.map_append, List.nodup_append]
    refine ⟨seenMaps.distinct, List.nodup_singleton _, fun a old b new same => ?_⟩
    obtain ⟨m', member, rfl⟩ := List.mem_map.mp old
    rw [List.map_singleton, List.mem_singleton] at new
    subst new
    have repeated := sameVersions_of_toFinset_eq nodup (seenMaps.maps m' member).1 same.symm
    exact absurd (List.any_eq_true.mpr ⟨m', member, repeated⟩) (by simp [unseen])

theorem SeenMaps.any_of_full {t : Tree} {seen : List (List (String × String))} (seenMaps : SeenMaps t seen)
    (full : (versionMaps t).card ≤ seen.length) {m : List (String × String)} (nodup : m.Nodup)
    (map : m.toFinset ∈ versionMaps t) : seen.any (sameVersions m) = true := by
  have within : (seen.map List.toFinset).toFinset ⊆ versionMaps t := by
    intro s listed
    obtain ⟨m', member, rfl⟩ := List.mem_map.mp (List.mem_toFinset.mp listed)
    exact (seenMaps.maps m' member).2
  have all : (seen.map List.toFinset).toFinset = versionMaps t := by
    refine Finset.eq_of_subset_of_card_le within ?_
    rw [List.toFinset_card_of_nodup seenMaps.distinct, List.length_map]
    exact full
  obtain ⟨m', member, same⟩ := List.mem_map.mp (List.mem_toFinset.mp (all ▸ map))
  exact List.any_eq_true.mpr ⟨m', member, sameVersions_of_toFinset_eq nodup (seenMaps.maps m' member).1 same.symm⟩

/-! The loop. -/

section Loop

variable {policy : Policy} {t : Tree}

theorem rewalk_more_fuel : ∀ (fuel : Nat) {pinned : Option (List (String × String))}
    {seen : List (List (String × String))} {known : Classified}, SeenMaps t seen →
    (versionMaps t).card ≤ fuel + seen.length → ∀ extra w,
    (rewalk policy t (fuel + extra) pinned seen known).run' w = (rewalk policy t fuel pinned seen known).run' w
  | 0, pinned, seen, known, seenMaps, full, extra, w => by
    cases extra with
    | zero => rfl
    | succ extra =>
      rw [Nat.zero_add]
      simp only [rewalk, Step.run'_bind]
      rcases walked : (walkOnce policy pinned t known).run' w with ⟨_ | st, w₁⟩
      · rfl
      · -- Every map has been seen, so this walk repeats one and the loop ends with it.
        obtain ⟨nodup, map⟩ := walkOnce_versionMap walked
        have repeated := seenMaps.any_of_full (by simpa using full) nodup map
        simp [repeated]
  | fuel + 1, pinned, seen, known, seenMaps, full, extra, w => by
    rw [show fuel + 1 + extra = fuel + extra + 1 by omega]
    simp only [rewalk, Step.run'_bind]
    rcases walked : (walkOnce policy pinned t known).run' w with ⟨_ | st, w₁⟩
    · rfl
    · obtain ⟨nodup, map⟩ := walkOnce_versionMap walked
      dsimp only
      split
      all_goals
        split
        · rfl
        · rename_i going
          simp only [Bool.or_eq_true, not_or, Bool.not_eq_true] at going
          simp only [report_run', Step.run'_bind]
          exact rewalk_more_fuel fuel (seenMaps.snoc nodup map going.2)
            (by simp only [List.length_append, List.length_singleton]; omega) extra _

end Loop

/-- Re-walking stops. However many walks it is allowed, the loop of `traverse` gives what it
gives when allowed one walk more than the tree has version maps: each walk that does not end
the loop adds a version map it has not seen, so the loop ends after at most that many walks.
`traverse` allows more. -/
theorem rewalk_stops_within_version_maps (policy : Policy) (t : Tree) (w : Workspace) :
    (versionMaps t).card < walkBound t ∧ ∀ extra,
      (rewalk policy t ((versionMaps t).card + extra) none [] []).run' w =
        (rewalk policy t (versionMaps t).card none [] []).run' w :=
  ⟨card_versionMaps_lt_walkBound t,
    fun extra => rewalk_more_fuel _ (SeenMaps.nil t) (Nat.le_add_right _ _) extra w⟩

end PluginPack.Traverse
