import Mathlib.Data.List.Nodup
import Mathlib.Tactic.SplitIfs
import PluginPack.Assembly.Placement
import PluginPack.Proofs.Step

/-! The file names `plan` gives. Each artifact keeps its default final name unless an artifact
placed before it took that name; then it goes by its group-qualified name, and only kept names
are remembered. So the default names that are kept are pairwise distinct, and the placements
that keep their names and are not `par` archives have pairwise distinct targets.

Nothing more is guaranteed. A `par` archive is placed as a jar, under its name with `.jar` in
place of the last four characters, which may be another artifact's default name; and a
qualified name is checked neither against the names taken nor against other qualified names.

Which artifact keeps a contested name depends only on the placing order, by artifact id, then
group id, then id. That key is a total order which tells artifacts of distinct ids apart, so
`plan` gives the same result for every order of the same artifacts. -/

namespace PluginPack.Assembly

open PluginPack.Artifact

def bundledType (type : String) : Bool :=
  ["tld", "jar", "ejb", "ejb-client", "par", "war"].contains type

def fileNameFor (type name : String) : String :=
  if type == "par" then asJarName name else name

/-- A placement is named for its artifact: by the artifact's default final name, or, when
renamed, by its qualified one; a `par` archive is named as a jar. -/
def Placement.Named (p : Placement) : Prop :=
  (p.renamedTo = none ∨ p.renamedTo = some p.facade.qualifiedFinalName) ∧
    p.fileName = fileNameFor p.facade.type (p.renamedTo.getD p.facade.defaultFinalName)

def keptNames (ps : List Placement) : List String :=
  (ps.filter (·.renamedTo.isNone)).map (·.facade.defaultFinalName)

theorem placementOf_isSome (f : Facade) (name : String) (renamedTo : Option String) :
    (placementOf f name renamedTo).isSome = bundledType f.type := by
  unfold placementOf bundledType
  simp only [List.contains_cons, List.contains_nil, Bool.or_false]
  split_ifs with tld library <;> simp_all
  rcases library with same | same | same <;> simp [same]

theorem placementOf_eq_some {f : Facade} {name : String} {renamedTo : Option String} {p : Placement}
    (placed : placementOf f name renamedTo = some p) :
    p.facade = f ∧ p.renamedTo = renamedTo ∧ p.fileName = fileNameFor f.type name := by
  unfold placementOf at placed
  split_ifs at placed with tld library par <;> cases placed
  · simp_all [fileNameFor]
  · have notPar : f.type ≠ "par" := by
      simp only [List.contains_cons, List.contains_nil, Bool.or_false, Bool.or_eq_true, beq_iff_eq] at library
      rcases library with same | same | same <;> simp [same]
    simp [fileNameFor, notPar]
  all_goals simp_all [fileNameFor]

/-- One artifact's turn in `placeAll`: the name it goes by, what it is renamed to, and the
names taken after it. -/
def nameStep (taken : List String) (f : Facade) : String × Option String × List String :=
  if taken.contains f.defaultFinalName then (f.qualifiedFinalName, some f.qualifiedFinalName, taken)
  else (f.defaultFinalName, none, f.defaultFinalName :: taken)

theorem placeAll_cons_run' {taken : List String} {f : Facade} {rest : List Facade} {w w' : Workspace}
    {r : Except PackagingError (List Placement)} (run : (placeAll taken (f :: rest)).run' w = (r, w')) :
    ∃ w₁ r₁, (placeAll (nameStep taken f).2.2 rest).run' w₁ = (r₁, w') ∧ w₁.store = w.store ∧
      r = ((placementOf f (nameStep taken f).1 (nameStep taken f).2.1).toList ++ ·) <$> r₁ := by
  have finish {taken' : List String} {g : List Placement → List Placement} {w₀ : Workspace}
      (run : (g <$> placeAll taken' rest).run' w₀ = (r, w')) (same : w₀.store = w.store) :
      ∃ w₁ r₁, (placeAll taken' rest).run' w₁ = (r₁, w') ∧ w₁.store = w.store ∧ r = g <$> r₁ := by
    obtain ⟨r₁, ran, rfl⟩ := Step.run'_map_inv run
    exact ⟨_, r₁, ran, same, rfl⟩
  rw [placeAll] at run
  by_cases kept : taken.contains f.defaultFinalName = true
  · simp only [kept, if_true, nameStep, bind_pure_comp, Step.run'_bind, report_run', Step.run'_pure] at run ⊢
    generalize placementOf f f.qualifiedFinalName (some f.qualifiedFinalName) = placed at run ⊢
    cases placed <;> simp only [Option.isNone_none, Option.isNone_some, Bool.false_eq_true, if_true, if_false,
      Step.run'_bind, report_run'] at run <;> exact finish run rfl
  · simp only [kept, Bool.false_eq_true, if_false, nameStep, bind_pure_comp, Step.run'_bind, Step.run'_pure] at run ⊢
    generalize placementOf f f.defaultFinalName none = placed at run ⊢
    cases placed <;> simp only [Option.isNone_none, Option.isNone_some, Bool.false_eq_true, if_true, if_false,
      Step.run'_bind, report_run'] at run <;> exact finish run rfl

@[simp] theorem keptNames_nil : keptNames [] = [] := rfl

@[simp] theorem keptNames_cons (p : Placement) (ps : List Placement) :
    keptNames (p :: ps) =
      if p.renamedTo.isNone then p.facade.defaultFinalName :: keptNames ps else keptNames ps := by
  unfold keptNames
  by_cases kept : p.renamedTo.isNone = true <;> simp [kept]

theorem mem_nameStep_taken {taken : List String} {n : String} (f : Facade) (member : n ∈ taken) :
    n ∈ (nameStep taken f).2.2 := by
  unfold nameStep
  split <;> simp [member]

theorem map_facade_placementOf (f : Facade) (name : String) (renamedTo : Option String) :
    (placementOf f name renamedTo).toList.map (·.facade) = if bundledType f.type then [f] else [] := by
  rw [← placementOf_isSome f name renamedTo]
  cases placed : placementOf f name renamedTo with
  | none => rfl
  | some p => simp [(placementOf_eq_some placed).1]

/-- What a run of `placeAll` on the names `taken` keeps apart: every placement is named for its
artifact, and the default names kept are pairwise distinct and none of them was taken before. -/
structure NamedApart (taken : List String) (ps : List Placement) : Prop where
  named : ∀ p ∈ ps, p.Named
  nodup : (keptNames ps).Nodup
  fresh : ∀ n ∈ keptNames ps, n ∉ taken

theorem NamedApart.nil (taken : List String) : NamedApart taken [] :=
  ⟨by simp, by simp, by simp⟩

theorem NamedApart.cons {taken : List String} {f : Facade} {ps : List Placement}
    (apart : NamedApart (nameStep taken f).2.2 ps) :
    NamedApart taken ((placementOf f (nameStep taken f).1 (nameStep taken f).2.1).toList ++ ps) := by
  have fresh (n : String) (member : n ∈ keptNames ps) : n ∉ taken :=
    fun taken => apart.fresh n member (mem_nameStep_taken f taken)
  cases placed : placementOf f (nameStep taken f).1 (nameStep taken f).2.1 with
  | none => exact ⟨apart.named, apart.nodup, fresh⟩
  | some p =>
    obtain ⟨rfl, renamed, fileName⟩ := placementOf_eq_some placed
    unfold nameStep at renamed fileName apart
    by_cases kept : taken.contains p.facade.defaultFinalName = true
    · -- Renamed: the placement goes by the qualified name and keeps no default name.
      simp only [kept, if_true] at renamed fileName
      refine ⟨?_, ?_, ?_⟩
      · simp only [Option.toList_some, List.singleton_append, List.mem_cons, forall_eq_or_imp]
        exact ⟨⟨.inr renamed, by rw [fileName, renamed, Option.getD_some]⟩, apart.named⟩
      · simpa [renamed] using apart.nodup
      · simpa [renamed] using fresh
    · -- Kept: the default name is new, and taken from now on.
      simp only [kept, Bool.false_eq_true, if_false] at renamed fileName apart
      refine ⟨?_, ?_, ?_⟩
      · simp only [Option.toList_some, List.singleton_append, List.mem_cons, forall_eq_or_imp]
        exact ⟨⟨.inl renamed, by rw [fileName, renamed, Option.getD_none]⟩, apart.named⟩
      · simp only [Option.toList_some, List.singleton_append, keptNames_cons, renamed, Option.isNone_none,
          if_true, List.nodup_cons]
        exact ⟨fun member => apart.fresh _ member List.mem_cons_self, apart.nodup⟩
      · simp only [Option.toList_some, List.singleton_append, keptNames_cons, renamed, Option.isNone_none,
          if_true, List.mem_cons, forall_eq_or_imp]
        exact ⟨by simpa using kept, fresh⟩

theorem placeAll_run' : ∀ (fs : List Facade) (taken : List String) {w w' : Workspace}
    {r : Except PackagingError (List Placement)}, (placeAll taken fs).run' w = (r, w') →
    w'.store = w.store ∧ ∃ ps, r = .ok ps ∧ ps.map (·.facade) = fs.filter (bundledType ·.type) ∧
      NamedApart taken ps
  | [], taken, _, _, _, run => by
    obtain ⟨rfl, rfl⟩ := Prod.mk.inj run
    exact ⟨rfl, [], rfl, rfl, .nil taken⟩
  | f :: rest, taken, _, _, _, run => by
    obtain ⟨w₁, r₁, ran, store₁, rfl⟩ := placeAll_cons_run' run
    obtain ⟨store, ps, rfl, facades, apart⟩ := placeAll_run' rest _ ran
    refine ⟨store.trans store₁, _, rfl, ?_, apart.cons⟩
    rw [List.map_append, map_facade_placementOf, facades, List.filter_cons]
    split <;> rfl

/-- `plan` always succeeds and only reports. It places the artifacts of bundled types in its
order, each named for itself, and the placements that keep their default names, apart from
`par` archives, have pairwise distinct targets. -/
theorem plan_keeps_default_names_apart (fs : List Facade) (w : Workspace) :
    ∃ ps w', (plan fs).run' w = (.ok ps, w') ∧ w'.store = w.store ∧
      ps.map (·.facade) = (fs.mergeSort placedBefore).filter (bundledType ·.type) ∧
      (∀ p ∈ ps, p.Named) ∧
      ((ps.filter fun p => p.renamedTo.isNone && p.facade.type != "par").map
        fun p => (p.destination, p.fileName)).Nodup := by
  rcases ran : (plan fs).run' w with ⟨r, w'⟩
  obtain ⟨store, ps, rfl, facades, apart⟩ := placeAll_run' _ [] ran
  refine ⟨ps, w', rfl, store, facades, apart.named, ?_⟩
  have plainName (p : Placement) (member : p ∈ ps.filter fun p => p.renamedTo.isNone && p.facade.type != "par") :
      p.fileName = p.facade.defaultFinalName := by
    obtain ⟨placed, plain⟩ := List.mem_filter.mp member
    simp only [Bool.and_eq_true, Option.isNone_iff_eq_none, bne_iff_ne, ne_eq] at plain
    rw [(apart.named p placed).2, plain.1, Option.getD_none, fileNameFor, if_neg (by simpa using plain.2)]
  have kept : ((ps.filter fun p => p.renamedTo.isNone && p.facade.type != "par").map
      (·.facade.defaultFinalName)).Sublist (keptNames ps) :=
    (List.monotone_filter_right ps fun p plain => (Bool.and_eq_true _ _ ▸ plain).1).map _
  have names : ((ps.filter fun p => p.renamedTo.isNone && p.facade.type != "par").map
      fun p => (p.destination, p.fileName)).map Prod.snd =
        (ps.filter fun p => p.renamedTo.isNone && p.facade.type != "par").map (·.facade.defaultFinalName) := by
    rw [List.map_map]
    exact List.map_congr_left fun p member => plainName p member
  exact List.Nodup.of_map Prod.snd (names ▸ apart.nodup.sublist kept)

/-- A jar and a `par` archive of one artifact and version. -/
def jarAndPar : List Facade :=
  [⟨{ groupId := "g", artifactId := "a", version := "1" }, none, ["g:a:jar:1"], none⟩,
    ⟨{ groupId := "g", artifactId := "a", version := "1", type := "par" }, none, ["g:a:par:1"], none⟩]

/-- The `par` archive's default name differs from the jar's, so neither is renamed, and both
are placed as `a-1.jar` among the libraries. -/
theorem par_archive_collides_with_jar :
    ∃ ps w', (plan jarAndPar).run' { store := {} } = (.ok ps, w') ∧
      ps.map (fun p => (p.facade.id, p.destination, p.fileName)) =
        [("g:a:jar:1", .library, "a-1.jar"), ("g:a:par:1", .library, "a-1.jar")] := by
  -- The jar comes first in placing order; the kernel does not run the sort itself.
  have sorted : jarAndPar.mergeSort placedBefore = jarAndPar :=
    List.mergeSort_of_pairwise (by decide +kernel)
  have computed : ((plan jarAndPar).run' { store := {} }).1.toOption.map
      (fun ps => ps.map fun p => (p.facade.id, p.destination, p.fileName)) =
        some [("g:a:jar:1", .library, "a-1.jar"), ("g:a:par:1", .library, "a-1.jar")] := by
    rw [plan, sorted]
    decide +kernel
  obtain ⟨ps, planned, placed⟩ := Step.run'_of_toOption_map computed
  exact ⟨ps, _, planned, placed⟩

/-! The placing order does not depend on the order of the input. -/

theorem isLE_compare_eq_decide_le (a b : String) : (compare a b).isLE = decide (a ≤ b) := by
  have iff : (compareOfLessAndEq a b).isLE ↔ a ≤ b :=
    isLE_compareOfLessAndEq String.le_antisymm String.not_le String.le_total
  exact Bool.eq_iff_iff.mpr (iff.trans decide_eq_true_iff.symm)

def placingKey (f : Facade) : List String := [f.artifactId, f.groupId, f.id]

theorem placedBefore_eq_isLE (x y : Facade) :
    placedBefore x y = (compare (placingKey x) (placingKey y)).isLE := by
  simp only [placedBefore, placingKey, List.compare_cons_cons]
  cases compare x.artifactId y.artifactId <;> cases compare x.groupId y.groupId <;>
    simp [isLE_compare_eq_decide_le]

theorem placedBefore_total (x y : Facade) : (placedBefore x y || placedBefore y x) = true := by
  have swapped : compare (placingKey y) (placingKey x) = (compare (placingKey x) (placingKey y)).swap :=
    Std.OrientedCmp.eq_swap
  rw [placedBefore_eq_isLE, placedBefore_eq_isLE, swapped]
  cases compare (placingKey x) (placingKey y) <;> rfl

theorem placedBefore_trans {x y z : Facade} (first : placedBefore x y = true)
    (second : placedBefore y z = true) : placedBefore x z = true := by
  rw [placedBefore_eq_isLE] at first second ⊢
  exact Std.TransCmp.isLE_trans first second

theorem placingKey_eq_of_placedBefore {x y : Facade} (first : placedBefore x y = true)
    (second : placedBefore y x = true) : placingKey x = placingKey y := by
  have swapped : compare (placingKey y) (placingKey x) = (compare (placingKey x) (placingKey y)).swap :=
    Std.OrientedCmp.eq_swap
  rw [placedBefore_eq_isLE] at first second
  rw [swapped] at second
  exact Std.LawfulEqCmp.eq_of_compare (Ordering.eq_eq_of_isLE_of_isLE_swap first second)

theorem mergeSort_placedBefore_eq_of_perm {fs gs : List Facade} (perm : fs.Perm gs)
    (distinct : (fs.map Facade.id).Nodup) : fs.mergeSort placedBefore = gs.mergeSort placedBefore := by
  have sorted (hs : List Facade) : (hs.mergeSort placedBefore).Pairwise (fun x y => placedBefore x y = true) :=
    @List.pairwise_mergeSort Facade placedBefore (fun _ _ _ first second => placedBefore_trans first second)
      placedBefore_total hs
  have sameId {x y : Facade} (first : placedBefore x y = true) (second : placedBefore y x = true) :
      x.id = y.id := by
    have keys := placingKey_eq_of_placedBefore first second
    simp only [placingKey, List.cons.injEq] at keys
    exact keys.2.2.1
  have injective : ∀ x ∈ fs, ∀ y ∈ fs, x.id = y.id → x = y := List.inj_on_of_nodup_map distinct
  refine List.Perm.eq_of_pairwise (fun x y xSorted ySorted first second => ?_) (sorted fs) (sorted gs)
    ((List.mergeSort_perm fs _).trans (perm.trans (List.mergeSort_perm gs _).symm))
  have xListed : x ∈ fs := (List.mergeSort_perm fs _).subset xSorted
  have yListed : y ∈ fs := perm.symm.subset ((List.mergeSort_perm gs _).subset ySorted)
  exact injective x xListed y yListed (sameId first second)

/-- Placing artifacts of distinct ids does not depend on the order they are given in: the same
placements, named the same, with the same messages reported. -/
theorem plan_eq_of_perm {fs gs : List Facade} (perm : fs.Perm gs) (distinct : (fs.map Facade.id).Nodup) :
    plan fs = plan gs := by
  rw [plan, plan, mergeSort_placedBefore_eq_of_perm perm distinct]

/-- Two jars of one name from two groups: the one whose group comes first keeps the name. -/
def sameNameTwoGroups : List Facade :=
  [⟨{ groupId := "h", artifactId := "a", version := "1" }, none, ["h:a:jar:1"], none⟩,
    ⟨{ groupId := "g", artifactId := "a", version := "1" }, none, ["g:a:jar:1"], none⟩]

theorem plan_same_name_any_order :
    sameNameTwoGroups.Perm sameNameTwoGroups.reverse ∧ (sameNameTwoGroups.map Facade.id).Nodup ∧
      plan sameNameTwoGroups = plan sameNameTwoGroups.reverse :=
  ⟨List.reverse_perm _ |>.symm, by decide +kernel,
    plan_eq_of_perm (List.reverse_perm _).symm (by decide +kernel)⟩

end PluginPack.Assembly
