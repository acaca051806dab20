import Mathlib.Data.List.Find
import Mathlib.Data.List.Nodup
import Mathlib.Data.List.Perm.Subperm
import PluginPack.Proofs.Traverse.Walk

/-! When the re-walks settle. A walk whose selection holds exactly the versions pinned for it
is where the loop stops, and there the pinning has done its work: every ancestor on the
trail of a selected artifact is selected at its own version, and walking once more with
those versions pinned ends in the same state. The loop also stops when a version map
repeats an earlier one, and then neither need hold: two versions of two artifacts that
each depend on the other's newer version keep the walks swapping between two maps. -/

namespace PluginPack.Traverse

open PluginPack.Artifact
open PluginPack.Resolve

/-- Every facade of a selection was made at a node of `t` reached through ancestors whose
artifact ids the selection holds at exactly their versions. -/
def AncestorsSelected (t : Tree) (selection : List (String × Facade)) : Prop :=
  ∀ e ∈ selection, ∃ ancestors n, Tree.Reaches t.children ancestors n ∧ e.2.coordinate = n.coordinate ∧
    e.2.trail = t.info.id :: (ancestors ++ [n]).map NodeInfo.id ∧
    ∀ a ∈ ancestors, (a.coordinate.artifactId, a.coordinate.version) ∈ selection.map fun e => (e.1, e.2.version)

theorem AncestorsSelected.perm {t : Tree} {selection selection' : List (String × Facade)}
    (ancestorsSelected : AncestorsSelected t selection) (perm : selection.Perm selection') :
    AncestorsSelected t selection' := by
  intro e member
  obtain ⟨ancestors, n, reach, coordinate, trail, selected⟩ := ancestorsSelected e (perm.mem_iff.mpr member)
  exact ⟨ancestors, n, reach, coordinate, trail,
    fun a above => (perm.map fun e => (e.1, e.2.version)).mem_iff.mp (selected a above)⟩

theorem versionsOf_keys (g : Gathered) : (versionsOf g).map Prod.fst = g.selection.map Prod.fst := by
  simp [versionsOf, Function.comp_def]

theorem versionsOf_perm_of_sameVersions {g : Gathered} {pins : List (String × String)}
    (nodup : (g.selection.map Prod.fst).Nodup) (same : sameVersions (versionsOf g) pins = true) :
    (versionsOf g).Perm pins := by
  simp only [sameVersions, Bool.and_eq_true, beq_iff_eq, List.all_eq_true, List.contains_iff_mem] at same
  have distinct : (versionsOf g).Nodup := List.Nodup.of_map Prod.fst (by rw [versionsOf_keys]; exact nodup)
  exact (distinct.subperm same.2).perm_of_length_le same.1.ge

theorem descends_eq_of_perm {pins pins' : List (String × String)} (perm : pins.Perm pins')
    (nodup : (pins.map Prod.fst).Nodup) (f : Facade) :
    descends (some pins) f = descends (some pins') f := by
  simp only [descends]
  rw [List.find?_eq_find?_of_perm perm]
  rintro x ⟨member, keyed⟩ y ⟨member', keyed'⟩
  exact List.inj_on_of_nodup_map nodup member member' (by simp_all)

theorem mem_versionsOf_of_descendsAt {g : Gathered} {pins : List (String × String)}
    (perm : (versionsOf g).Perm pins) {c : Coordinate} (descended : descendsAt (some pins) c = true)
    (selected : c.artifactId ∈ g.selection.map Prod.fst) :
    (c.artifactId, c.version) ∈ versionsOf g := by
  obtain ⟨v, held⟩ : ∃ v, (c.artifactId, v) ∈ pins := by
    rw [← versionsOf_keys] at selected
    obtain ⟨e, member, keyed⟩ := List.mem_map.mp selected
    exact ⟨e.2, perm.mem_iff.mp (keyed ▸ member)⟩
  obtain ⟨e, found⟩ : ∃ e, pins.find? (·.1 == c.artifactId) = some e :=
    Option.isSome_iff_exists.mp (List.find?_isSome.mpr ⟨_, held, by simp⟩)
  have keyed : e.1 = c.artifactId := by simpa using List.find?_some found
  have version : e.2 = c.version := by
    simpa [descendsAt, descends, Facade.artifactId, Facade.version, found] using descended
  have entry : e = (c.artifactId, c.version) := Prod.ext keyed version
  exact perm.mem_iff.mpr (entry ▸ List.mem_of_find?_eq_some found)

theorem SelectedOnPins.ancestorsSelected {t : Tree} {g : Gathered} {pins : List (String × String)}
    (onPins : SelectedOnPins t (some pins) g.selection) (perm : (versionsOf g).Perm pins) :
    AncestorsSelected t g.selection := by
  intro e member
  obtain ⟨ancestors, n, reach, coordinate, trail, pinned⟩ := onPins.onPath e member
  exact ⟨ancestors, n, reach, coordinate, trail,
    fun a above => mem_versionsOf_of_descendsAt perm (pinned a above).1 (pinned a above).2⟩

/-- A walk whose selection holds exactly the versions pinned for it is where re-walking
stops, and it is a fixed point of re-walking: the loop returns its selection, every ancestor
on the trail of a selected artifact is selected at its own version, and walking once more
with the selection's versions pinned, from the cache the walk left, ends in the same state.
Every walk, stable or not, selects an artifact only through ancestors it selected and that
its pinned versions let it descend into. -/
theorem stable_walk_is_fixed_point (policy : Policy) (t : Tree) (pins : List (String × String))
    (known : Classified) (w : Workspace) {st : WalkState} {w₁ : Workspace}
    (walked : (walkOnce policy (some pins) t known).run' w = (.ok st, w₁))
    (stable : sameVersions (versionsOf st.gathered) pins = true) :
    (∀ fuel seen, (rewalk policy t (fuel + 1) (some pins) seen known).run' w = (.ok st.gathered, w₁)) ∧
      AncestorsSelected t st.gathered.selection ∧
      (∀ w', ∃ w'', (walkOnce policy (some (versionsOf st.gathered)) t st.classified).run' w' = (.ok st, w'')) ∧
      ∀ pinned cache (w' : Workspace) st' w'', (walkOnce policy pinned t cache).run' w' = (.ok st', w'') →
        SelectedOnPins t pinned st'.gathered.selection := by
  have onPins := walkOnce_onPins walked
  have perm := versionsOf_perm_of_sameVersions onPins.keysNodup stable
  have nodup : ((versionsOf st.gathered).map Prod.fst).Nodup := by
    rw [versionsOf_keys]
    exact onPins.keysNodup
  refine ⟨fun fuel seen => ?_, onPins.ancestorsSelected perm, fun w' => ?_,
    fun pinned cache w' st' w'' run => walkOnce_onPins run⟩
  · simp [rewalk, walked, stable]
  · exact walkOnce_replay (fun f => descends_eq_of_perm perm nodup f) walked (Covers.refl _) w'

def libraryNode (groupId artifactId version : String) (children : List Tree) : Tree :=
  .node { coordinate := { groupId, artifactId, version, scope := some "compile" } } children

def deeperNewer : Tree :=
  .node { coordinate := { groupId := "com.acme", artifactId := "demo", version := "1.0", type := "hpi" } }
    [libraryNode "org.lib" "l2" "1.0" [libraryNode "org.lib" "old-only" "1.0" []],
      libraryNode "org.lib" "x" "1.0" [libraryNode "org.lib" "l2" "1.2" [libraryNode "org.lib" "m" "1.0" []]]]

def deeperNewerPins : List (String × String) := [("l2", "1.2"), ("x", "1.0"), ("m", "1.0")]

theorem deeper_newer_walk_is_fixed_point :
    ∃ st w₁, (walkOnce {} (some deeperNewerPins) deeperNewer []).run' { store := {} } = (.ok st, w₁) ∧
      sameVersions (versionsOf st.gathered) deeperNewerPins = true ∧
      (∀ fuel seen, (rewalk {} deeperNewer (fuel + 1) (some deeperNewerPins) seen []).run' { store := {} } =
        (.ok st.gathered, w₁)) ∧
      AncestorsSelected deeperNewer st.gathered.selection ∧
      (∀ w', ∃ w'', (walkOnce {} (some (versionsOf st.gathered)) deeperNewer st.classified).run' w' = (.ok st, w'')) ∧
      ∀ pinned cache (w' : Workspace) st' w'', (walkOnce {} pinned deeperNewer cache).run' w' = (.ok st', w'') →
        SelectedOnPins deeperNewer pinned st'.gathered.selection := by
  have computed : ((walkOnce {} (some deeperNewerPins) deeperNewer []).run' { store := {} }).1.toOption.map
      (fun st => sameVersions (versionsOf st.gathered) deeperNewerPins) = some true := by
    decide +kernel
  obtain ⟨st, walked, stable⟩ := Except.exists_of_toOption_map computed
  have run : (walkOnce {} (some deeperNewerPins) deeperNewer []).run' { store := {} } =
      (.ok st, ((walkOnce {} (some deeperNewerPins) deeperNewer []).run' { store := {} }).2) := by
    rw [← walked]
  exact ⟨st, _, run, stable, stable_walk_is_fixed_point {} deeperNewer deeperNewerPins [] _ run stable⟩

theorem traverse_chosen_perm {t : Tree} {policy : Policy} {w w' : Workspace} {g : Gathered}
    (run : (rewalk policy t (walkBound t) none [] []).run' w = (.ok g, w')) :
    ∃ s, (traverse t policy).run' w = (.ok s, w') ∧ s.chosen.Perm g.selection := by
  simp only [traverse, Step.run'_bind, run, Step.run'_pure]
  exact ⟨_, rfl, List.mergeSort_perm _ _⟩

/-- Two versions of two artifacts, each depending on the other artifact's newer version. -/
def oscillation : Tree :=
  .node { coordinate := { groupId := "g", artifactId := "app", version := "1" } }
    [libraryNode "g" "A" "1" [libraryNode "g" "B" "2" []], libraryNode "g" "B" "1" [libraryNode "g" "A" "2" []]]

/-- On `oscillation` the walks swap between two version maps, and the loop stops on the
repeat with `A:2` selected below `B:1` while `B` is selected at version 2. -/
theorem traverse_selects_below_superseded_version :
    ∃ s w, (traverse oscillation {}).run' { store := {} } = (.ok s, w) ∧ ¬ AncestorsSelected oscillation s.chosen := by
  have computed : ((rewalk {} oscillation (walkBound oscillation) none [] []).run' { store := {} }).1.toOption.map
      (fun g => g.selection.map fun e => (e.1, e.2.coordinate, e.2.trail)) =
      some [("A", ⟨"g", "A", "2", "jar", none, some "compile", false⟩, ["g:app:jar:1", "g:B:jar:1", "g:A:jar:2"]),
        ("B", ⟨"g", "B", "2", "jar", none, some "compile", false⟩, ["g:app:jar:1", "g:A:jar:1", "g:B:jar:2"])] := by
    decide +kernel
  obtain ⟨g, walked, selection⟩ := Except.exists_of_toOption_map computed
  have run : (rewalk {} oscillation (walkBound oscillation) none [] []).run' { store := {} } =
      (.ok g, ((rewalk {} oscillation (walkBound oscillation) none [] []).run' { store := {} }).2) := by
    rw [← walked]
  obtain ⟨s, traversed, perm⟩ := traverse_chosen_perm run
  refine ⟨s, _, traversed, fun ancestorsSelected => ?_⟩
  have versions : g.selection.map (fun e => (e.1, e.2.version)) = [("A", "2"), ("B", "2")] := by
    have projected := congrArg (List.map fun x : String × Coordinate × List String => (x.1, x.2.1.version)) selection
    simpa [List.map_map, Function.comp_def, Facade.version] using projected
  obtain ⟨e, member, shape⟩ := List.mem_map.mp (show ("A", (⟨"g", "A", "2", "jar", none, some "compile", false⟩ :
      Coordinate), ["g:app:jar:1", "g:B:jar:1", "g:A:jar:2"]) ∈
      g.selection.map fun e => (e.1, e.2.coordinate, e.2.trail) by rw [selection]; simp)
  obtain ⟨ancestors, n, reach, -, trail, selected⟩ := ancestorsSelected.perm perm e member
  rw [show e.2.trail = ["g:app:jar:1", "g:B:jar:1", "g:A:jar:2"] from congrArg (·.2.2) shape] at trail
  match ancestors, reach, trail, selected with
  | [], _, trail, _ => simp at trail
  | [a], reach, trail, selected =>
    have named : a.id = "g:B:jar:1" := by simp at trail; exact trail.2.1.symm
    cases reach with
    | down root _ =>
      simp only [oscillation, libraryNode, Tree.children, List.mem_cons, Tree.node.injEq,
        List.not_mem_nil, or_false] at root
      rcases root with ⟨rfl, -⟩ | ⟨rfl, -⟩
      · simp [NodeInfo.id, Coordinate.id] at named
      · have held := selected _ List.mem_cons_self
        rw [versions] at held
        simp at held
  | _ :: _ :: _, _, trail, _ => simp at trail

end PluginPack.Traverse
