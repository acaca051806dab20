import PluginPack.Proofs.Traverse.Modes
import PluginPack.Proofs.Version.TieBreak

/-! Newest wins. A walk merges a facade into the selection by comparing it with the facade its
artifact id holds, and with that one only, and takes it when it is strictly newer. So every
artifact id merged keeps an entry; and when every version merged is standard, where strictly
newer is transitive, no facade merged is newer than the entry of its artifact id. Outside
standard versions the order has cycles, and the selection can end with a facade older than
one merged before it. -/

namespace PluginPack.Version

def StandardText (v : String) : Prop :=
  ∃ u, VersionNumber.parse v = .ok u ∧ Standard u.items

end PluginPack.Version

namespace PluginPack.Traverse

open PluginPack.Artifact PluginPack.Resolve PluginPack.Version

def NotNewer (a b : String) : Prop :=
  ∃ o, compareVersions a b = .ok o ∧ o ≠ .gt

theorem compareVersions_eq_ok_iff {a b : String} {o : Ordering} :
    compareVersions a b = .ok o ↔ compareVersionTexts a b = .ok o := by
  unfold compareVersions
  cases compareVersionTexts a b <;> simp [Except.mapError]

theorem notNewer_self {a : String} (standard : StandardText a) : NotNewer a a := by
  obtain ⟨u, read, -⟩ := standard
  refine ⟨.eq, compareVersions_eq_ok_iff.mpr ?_, by decide⟩
  exact (compareVersionTexts_eq_eq_iff a a u u read read).mpr rfl

theorem NotNewer.trans_gt {a b c : String} (standardA : StandardText a) (standardB : StandardText b)
    (standardC : StandardText c) (older : NotNewer a b) (newer : compareVersions c b = .ok .gt) :
    NotNewer a c := by
  obtain ⟨u, readA, uStandard⟩ := standardA
  obtain ⟨v, readB, vStandard⟩ := standardB
  obtain ⟨w, readC, wStandard⟩ := standardC
  obtain ⟨o, compared, notGt⟩ := older
  rw [compareVersions_eq_ok_iff] at compared newer
  have cOverA : compareVersionTexts c a = .ok .gt := by
    cases o with
    | gt => exact absurd rfl notGt
    | eq =>
      rw [(compareVersionTexts_eq_eq_iff a b u v readA readB).mp compared]
      exact newer
    | lt =>
      have bOverA : compareVersionTexts b a = .ok .gt := by
        rw [compareVersionTexts_swap a b u v readA readB, compared]
        rfl
      exact compareVersionTexts_gt_trans c b a w v u readC readB readA wStandard vStandard uStandard
        newer bOverA
  refine ⟨.lt, compareVersions_eq_ok_iff.mpr ?_, by decide⟩
  rw [compareVersionTexts_swap c a w u readC readA, cOverA]
  rfl

theorem mem_putSelected_cases {xs : List (String × Facade)} {f : Facade} {e : String × Facade}
    (member : e ∈ putSelected xs f) : e = (f.artifactId, f) ∨ (e ∈ xs ∧ e.1 ≠ f.artifactId) := by
  unfold putSelected at member
  split at member
  · obtain ⟨old, oldMember, replaced⟩ := List.mem_map.mp member
    by_cases keyed : old.1 = f.artifactId
    · simp only [keyed, beq_self_eq_true, if_true] at replaced
      exact .inl replaced.symm
    · simp only [beq_iff_eq, keyed, if_false] at replaced
      exact .inr ⟨replaced ▸ oldMember, replaced ▸ keyed⟩
  · rename_i absent
    rcases List.mem_append.mp member with old | single
    · exact .inr ⟨old, fun keyed => absent (List.any_eq_true.mpr ⟨e, old, by simp [keyed]⟩)⟩
    · exact .inl (List.mem_singleton.mp single)

theorem Gathered.mergeNewest_cases {g g' : Gathered} {f : Facade} {w w' : Workspace}
    (run : (g.mergeNewest f).run' w = (.ok g', w')) :
    (f.artifactId ∉ g.selection.map Prod.fst ∧ g'.selection = putSelected g.selection f) ∨
      ∃ existing, (f.artifactId, existing) ∈ g.selection ∧
        ((compareVersions f.version existing.version = .ok .gt ∧ g'.selection = putSelected g.selection f) ∨
          (NotNewer f.version existing.version ∧ g'.selection = g.selection)) := by
  unfold Gathered.mergeNewest at run
  split at run
  · rename_i missing
    simp only [Step.run'_pure, Prod.mk.injEq, Except.ok.injEq] at run
    refine .inl ⟨fun old => ?_, by rw [← run.1]⟩
    obtain ⟨e, member, keyed⟩ := List.mem_map.mp old
    exact List.find?_eq_none.mp missing e member (by simp [keyed])
  · rename_i k existing found
    have keyed : k = f.artifactId := by simpa using List.find?_some found
    refine .inr ⟨existing, keyed ▸ List.mem_of_find?_eq_some found, ?_⟩
    simp only [Step.run'_bind, Step.ofOutcome_run'] at run
    split at run
    · rename_i order _ ran
      have compared : compareVersions f.version existing.version = .ok order := (Prod.mk.inj ran).1
      split at run
      · rename_i newer
        have gt : order = .gt := by simpa using newer
        subst gt
        refine .inl ⟨compared, ?_⟩
        split at run <;> simp only [Step.run'_bind, report_run', Step.run'_pure, Prod.mk.injEq,
          Except.ok.injEq] at run <;> rw [← run.1]
      · rename_i notNewer
        simp only [Step.run'_pure, Prod.mk.injEq, Except.ok.injEq] at run
        exact .inr ⟨⟨order, compared, by simpa using notNewer⟩, by rw [← run.1]⟩
    · simp at run

/-- Newest wins over the facades `merged`: each has an entry under its artifact id, and, when
all their versions are standard, none is newer than an entry under its artifact id. -/
structure NewestWins (selection : List (String × Facade)) (merged : List Facade) : Prop where
  present : ∀ f ∈ merged, f.artifactId ∈ selection.map Prod.fst
  newest : (∀ f ∈ merged, StandardText f.version) →
    ∀ f ∈ merged, ∀ h, (f.artifactId, h) ∈ selection → NotNewer f.version h.version

/-- What a walk keeps while it merges: newest wins, the selection has one entry per artifact
id, and each entry is a facade it merged. -/
structure KeepsNewest (selection : List (String × Facade)) (merged : List Facade) : Prop
    extends NewestWins selection merged where
  keysNodup : (selection.map Prod.fst).Nodup
  fromMerged : ∀ e ∈ selection, e.2 ∈ merged

theorem NewestWins.perm {selection selection' : List (String × Facade)} {merged : List Facade}
    (wins : NewestWins selection merged) (perm : selection'.Perm selection) : NewestWins selection' merged :=
  ⟨fun f member => (perm.map Prod.fst).mem_iff.mpr (wins.present f member),
    fun standard f member h held => wins.newest standard f member h (perm.mem_iff.mp held)⟩

theorem KeepsNewest.nil : KeepsNewest [] [] :=
  ⟨⟨nofun, fun _ _ member => nomatch member⟩, List.nodup_nil, nofun⟩

theorem mem_putSelected_of_key {xs : List (String × Facade)} {f f₀ h : Facade}
    (held : (f₀.artifactId, h) ∈ putSelected xs f) :
    (f₀.artifactId = f.artifactId ∧ h = f) ∨ (f₀.artifactId, h) ∈ xs := by
  rcases mem_putSelected_cases held with replaced | ⟨kept, -⟩
  · exact .inl (Prod.mk.inj replaced)
  · exact .inr kept

theorem eq_of_mem_putSelected_self {xs : List (String × Facade)} {f h : Facade}
    (held : (f.artifactId, h) ∈ putSelected xs f) : h = f := by
  rcases mem_putSelected_cases held with replaced | ⟨-, other⟩
  · exact (Prod.mk.inj replaced).2
  · exact absurd rfl other

theorem KeepsNewest.merge {g g' : Gathered} {merged : List Facade} {f : Facade} {w w' : Workspace}
    (keeps : KeepsNewest g.selection merged) (run : (g.mergeNewest f).run' w = (.ok g', w')) :
    KeepsNewest g'.selection (merged ++ [f]) := by
  obtain ⟨changed, selected⟩ := Gathered.mergeNewest_selection run
  have grows : ∀ k ∈ g.selection.map Prod.fst, k ∈ g'.selection.map Prod.fst := by
    rcases changed with same | put
    · rw [same]
      exact fun k old => old
    · rw [put]
      exact fun k old => (mem_keys_putSelected _ _ k).mpr (.inl old)
  refine ⟨⟨fun f₀ member => ?_, fun standard f₀ member h held => ?_⟩, ?_, fun e member => ?_⟩
  · rcases List.mem_append.mp member with old | new
    · exact grows _ (keeps.present f₀ old)
    · rw [List.mem_singleton.mp new]
      exact selected
  · have standardOld : ∀ f₀ ∈ merged, StandardText f₀.version :=
      fun f₀ old => standard f₀ (List.mem_append_left _ old)
    have standardNew : StandardText f.version := standard f (by simp)
    rcases List.mem_append.mp member with old | new
    · -- A facade merged before: its entry stayed, or was beaten by a strictly newer `f`.
      rcases Gathered.mergeNewest_cases run with ⟨absent, put⟩ | ⟨existing, found, ⟨newer, put⟩ | ⟨-, same⟩⟩
      · rw [put] at held
        rcases mem_putSelected_of_key held with ⟨sameId, -⟩ | kept
        · exact absurd (sameId ▸ keeps.present f₀ old) absent
        · exact keeps.newest standardOld f₀ old h kept
      · rw [put] at held
        rcases mem_putSelected_of_key held with ⟨sameId, rfl⟩ | kept
        · have beaten := keeps.newest standardOld f₀ old existing (sameId ▸ found)
          exact beaten.trans_gt (standardOld f₀ old) (standardOld _ (keeps.fromMerged _ found))
            standardNew newer
        · exact keeps.newest standardOld f₀ old h kept
      · rw [same] at held
        exact keeps.newest standardOld f₀ old h held
    · -- The facade merged last: the entry is itself, or the one it did not beat.
      obtain rfl := List.mem_singleton.mp new
      rcases Gathered.mergeNewest_cases run with ⟨-, put⟩ | ⟨existing, found, ⟨-, put⟩ | ⟨notNewer, same⟩⟩
      · rw [put] at held
        rw [eq_of_mem_putSelected_self held]
        exact notNewer_self standardNew
      · rw [put] at held
        rw [eq_of_mem_putSelected_self held]
        exact notNewer_self standardNew
      · rw [same] at held
        have one : (f₀.artifactId, h) = (f₀.artifactId, existing) :=
          List.inj_on_of_nodup_map keeps.keysNodup held found rfl
        rw [(Prod.mk.inj one).2]
        exact notNewer
  · rcases changed with same | put
    · exact same ▸ keeps.keysNodup
    · exact put ▸ keys_nodup_putSelected _ _ keeps.keysNodup
  · rcases changed with same | put
    · rw [same] at member
      exact List.mem_append_left _ (keeps.fromMerged e member)
    · rw [put] at member
      rcases mem_putSelected_cases member with rfl | ⟨old, -⟩
      · simp
      · exact List.mem_append_left _ (keeps.fromMerged e old)

theorem Gathered.consider_merges {g g' : Gathered} {policy : Policy}
    {pinned : Option (List (String × String))} {f : Facade} {plugin accepted : Bool} {w w' : Workspace}
    (run : (g.consider policy pinned f plugin).run' w = (.ok (accepted, g'), w')) :
    (plugin ≠ policy.mode.selectsPlugins ∧ accepted = false ∧ g'.selection = g.selection) ∨
      (plugin = policy.mode.selectsPlugins ∧ accepted = descends pinned f ∧
        ∃ g₁ : Gathered, g₁.selection = g.selection ∧ (g₁.mergeNewest f).run' w = (.ok g', w')) := by
  unfold Gathered.consider at run
  generalize noted : (if plugin && !g.pluginIds.contains f.id then
    { g with pluginIds := g.pluginIds ++ [f.id] } else g) = g₁ at run
  have same : g₁.selection = g.selection := by
    rw [← noted]
    split <;> rfl
  have merged : plugin = policy.mode.selectsPlugins →
      (Prod.mk (descends pinned f) <$> g₁.mergeNewest f).run' w = (.ok (accepted, g'), w') →
      (plugin ≠ policy.mode.selectsPlugins ∧ accepted = false ∧ g'.selection = g.selection) ∨
        (plugin = policy.mode.selectsPlugins ∧ accepted = descends pinned f ∧
          ∃ g₁ : Gathered, g₁.selection = g.selection ∧ (g₁.mergeNewest f).run' w = (.ok g', w')) := by
    intro selects ran
    obtain ⟨g₂, mergeRun, result⟩ := Step.run'_map_eq_ok ran
    simp only [Prod.mk.injEq] at result
    obtain ⟨rfl, rfl⟩ := result
    exact .inr ⟨selects, rfl, g₁, same, mergeRun⟩
  have refused : ∀ g₂ : Gathered, g₂.selection = g.selection → plugin ≠ policy.mode.selectsPlugins →
      (.ok (false, g₂), w) = ((.ok (accepted, g'), w') : Except PackagingError (Bool × Gathered) × Workspace) →
      (plugin ≠ policy.mode.selectsPlugins ∧ accepted = false ∧ g'.selection = g.selection) ∨
        (plugin = policy.mode.selectsPlugins ∧ accepted = descends pinned f ∧
          ∃ g₁ : Gathered, g₁.selection = g.selection ∧ (g₁.mergeNewest f).run' w = (.ok g', w')) := by
    intro g₂ kept other ran
    simp only [Prod.mk.injEq, Except.ok.injEq] at ran
    obtain ⟨⟨rfl, rfl⟩, -⟩ := ran
    exact .inl ⟨other, rfl, kept⟩
  cases mode : policy.mode <;> cases plugin <;> simp only [mode, Bool.not_true, Bool.not_false, if_true,
    if_false, Bool.false_eq_true, bind_pure_comp, Step.run'_pure] at run
  · exact mode ▸ merged (by simp [mode, Mode.selectsPlugins]) run
  · exact mode ▸ refused { g₁ with reasons := keepFirst g₁.reasons f.id .plugin } same
      (by simp [mode, Mode.selectsPlugins]) run
  · exact mode ▸ refused g₁ same (by simp [mode, Mode.selectsPlugins]) run
  · exact mode ▸ merged (by simp [mode, Mode.selectsPlugins]) run

mutual

/-- The facades a walk merges below a node, in order, when `known` holds its verdicts: the
node's own when it passes the scope and optional checks and has the verdict the mode looks
for, then, when the pinned versions let the walk descend, those below its children. -/
def mergedBelow (policy : Policy) (pinned : Option (List (String × String))) (known : Classified)
    (trail : List String) : Tree → List Facade
  | .node n cs =>
    let f := Facade.make n.coordinate n.file (trail ++ [n.id]) n.packaging
    if refusal policy n = none ∧ verdict known f.id = some policy.mode.selectsPlugins then
      f :: if descends pinned f then mergedForest policy pinned known (trail ++ [n.id]) cs else []
    else []

def mergedForest (policy : Policy) (pinned : Option (List (String × String))) (known : Classified)
    (trail : List String) : List Tree → List Facade
  | [] => []
  | t :: ts => mergedBelow policy pinned known trail t ++ mergedForest policy pinned known trail ts

end

/-- The facades a walk of `t` merges, in order, when `known` holds its verdicts. -/
def mergedIn (policy : Policy) (pinned : Option (List (String × String))) (known : Classified)
    (t : Tree) : List Facade :=
  mergedForest policy pinned known [t.info.id] t.children

section Walks

variable {policy : Policy} {pinned : Option (List (String × String))}

theorem acceptNode_keeps {trail : List String} {n : NodeInfo} {st st' : WalkState} {accepted : Bool}
    {w w' : Workspace} {known : Classified} {merged : List Facade}
    (run : (acceptNode policy pinned (trail ++ [n.id]) n st).run' w = (.ok (accepted, st'), w'))
    (covers : Covers known st'.classified) (keeps : KeepsNewest st.gathered.selection merged) :
    if refusal policy n = none ∧ verdict known (Facade.make n.coordinate n.file (trail ++ [n.id]) n.packaging).id =
        some policy.mode.selectsPlugins then
      KeepsNewest st'.gathered.selection (merged ++ [Facade.make n.coordinate n.file (trail ++ [n.id]) n.packaging]) ∧
        accepted = descends pinned (Facade.make n.coordinate n.file (trail ++ [n.id]) n.packaging)
    else KeepsNewest st'.gathered.selection merged ∧ accepted = false := by
  rcases acceptNode_cases run with ⟨d, refused, rfl, rfl⟩ | ⟨passed, plugin, w₁, classified, considered⟩
  · rw [if_neg (by simp [refused])]
    exact ⟨keeps, rfl⟩
  · -- The verdict the node was classified with is the one the final cache holds.
    have known_verdict := covers _ _ (classify_verdict classified).2
    rcases Gathered.consider_merges considered with ⟨other, rfl, same⟩ | ⟨selects, rfl, g₁, kept, merge⟩
    · rw [if_neg (by simp [known_verdict, other])]
      exact ⟨same ▸ keeps, rfl⟩
    · rw [if_pos ⟨passed, selects ▸ known_verdict⟩]
      exact ⟨KeepsNewest.merge (kept ▸ keeps) merge, rfl⟩

mutual

theorem walkBelow_keeps : ∀ (t : Tree) {trail : List String} {st st' : WalkState} {w w' : Workspace},
    (walkBelow policy pinned trail t st).run' w = (.ok st', w') →
    ∀ {known : Classified} {merged : List Facade}, Covers known st'.classified →
    KeepsNewest st.gathered.selection merged →
    KeepsNewest st'.gathered.selection (merged ++ mergedBelow policy pinned known trail t)
  | .node n cs, trail, st, st', w, w', run, known, merged, covers, keeps => by
    simp only [walkBelow] at run
    obtain ⟨⟨accepted, st₁⟩, w₁, accept, run⟩ := Step.run'_bind_eq_ok run
    have stopped : accepted = false → st' = st₁ := by
      rintro rfl
      simp only [Bool.false_eq_true, if_false, Step.run'_pure, Prod.mk.injEq, Except.ok.injEq] at run
      exact run.1.symm
    have coversNode : Covers known st₁.classified := by
      cases accepted
      · exact stopped rfl ▸ covers
      · exact covers.trans (walkForest_covers cs run)
    have step := acceptNode_keeps accept coversNode keeps
    rw [mergedBelow]
    split
    · rename_i merges
      obtain ⟨keeps₁, descended⟩ := (if_pos merges).symm ▸ step
      cases descent : descends pinned (Facade.make n.coordinate n.file (trail ++ [n.id]) n.packaging)
      · rw [descent] at descended
        rw [stopped descended]
        simpa using keeps₁
      · rw [descent] at descended
        subst descended
        simp only [if_true] at run
        simpa using walkForest_keeps cs run covers keeps₁
    · rename_i passes
      obtain ⟨keeps₁, refused⟩ := (if_neg passes).symm ▸ step
      rw [stopped refused]
      simpa using keeps₁

theorem walkForest_keeps : ∀ (ts : List Tree) {trail : List String} {st st' : WalkState} {w w' : Workspace},
    (walkForest policy pinned trail ts st).run' w = (.ok st', w') →
    ∀ {known : Classified} {merged : List Facade}, Covers known st'.classified →
    KeepsNewest st.gathered.selection merged →
    KeepsNewest st'.gathered.selection (merged ++ mergedForest policy pinned known trail ts)
  | [], trail, st, st', w, w', run, known, merged, covers, keeps => by
    simp only [walkForest, Step.run'_pure, Prod.mk.injEq, Except.ok.injEq] at run
    obtain ⟨rfl, -⟩ := run
    simpa [mergedForest] using keeps
  | t :: ts, trail, st, st', w, w', run, known, merged, covers, keeps => by
    simp only [walkForest] at run
    obtain ⟨st₁, w₁, first, run⟩ := Step.run'_bind_eq_ok run
    have keeps₁ := walkBelow_keeps t first (covers.trans (walkForest_covers ts run)) keeps
    simpa [mergedForest] using walkForest_keeps ts run covers keeps₁

end

theorem walkOnce_keeps {t : Tree} {known : Classified} {st : WalkState} {w w' : Workspace}
    (run : (walkOnce policy pinned t known).run' w = (.ok st, w')) :
    KeepsNewest st.gathered.selection (mergedIn policy pinned st.classified t) := by
  dsimp only [walkOnce] at run
  simpa [mergedIn] using walkForest_keeps t.children run (Covers.refl _) KeepsNewest.nil

end Walks

/-- Newest wins in a traversal. Its selection is what a walk gathered, its last one; and over
any walk that gathers it, every artifact id merged has an entry, and when every version
merged is standard no facade merged is newer than the entry of its artifact id. -/
theorem traverse_keeps_newest (t : Tree) (policy : Policy) {s : Selection} {w w' : Workspace}
    (run : (traverse t policy).run' w = (.ok s, w')) :
    (∃ pinned known st w₁ w₂, (walkOnce policy pinned t known).run' w₁ = (.ok st, w₂) ∧
      s.chosen.Perm st.gathered.selection) ∧
    ∀ pinned known st w₁ w₂, (walkOnce policy pinned t known).run' w₁ = (.ok st, w₂) →
      s.chosen.Perm st.gathered.selection → NewestWins s.chosen (mergedIn policy pinned st.classified t) := by
  refine ⟨?_, fun pinned known st w₁ w₂ walked perm => (walkOnce_keeps walked).toNewestWins.perm perm⟩
  obtain ⟨g, w₁, rewalked, perm, -, -⟩ := traverse_run run
  obtain ⟨pinned, known, st, w₂, w₃, walked, rfl⟩ := rewalk_walked _ _ _ _ rewalked
  exact ⟨pinned, known, st, w₂, w₃, walked, perm⟩

/-- Two versions of `k` under one root, both standard. -/
def twoVersions : Tree :=
  .node { coordinate := { groupId := "g", artifactId := "app", version := "1" } }
    [libraryNode "g" "k" "1.0" [], libraryNode "g" "k" "2.0" []]

theorem two_versions_keep_newest : ∃ s w, (traverse twoVersions {}).run' { store := {} } = (.ok s, w) ∧
    ∀ pinned known st w₁ w₂, (walkOnce {} pinned twoVersions known).run' w₁ = (.ok st, w₂) →
      s.chosen.Perm st.gathered.selection → NewestWins s.chosen (mergedIn {} pinned st.classified twoVersions) := by
  have computed : ((traverse twoVersions {}).run' { store := {} }).1.toOption.map
      (fun s => s.chosen.map fun e => (e.1, e.2.version)) = some [("k", "2.0")] := by
    decide +kernel
  obtain ⟨s, ran, -⟩ := Except.exists_of_toOption_map computed
  have run : (traverse twoVersions {}).run' { store := {} } =
      (.ok s, ((traverse twoVersions {}).run' { store := {} }).2) := by
    rw [← ran]
  exact ⟨s, _, run, (traverse_keeps_newest twoVersions {} run).2⟩

theorem selection_eq_of_views {a b : List (String × Facade)}
    (placed : a.map (fun e => (e.1, e.2.coordinate, e.2.trail)) = b.map fun e => (e.1, e.2.coordinate, e.2.trail))
    (filed : a.map (fun e => (e.2.file, e.2.packaging)) = b.map fun e => (e.2.file, e.2.packaging)) : a = b := by
  have injective : Function.Injective fun e : String × Facade =>
      ((e.1, e.2.coordinate, e.2.trail), (e.2.file, e.2.packaging)) := by
    rintro ⟨k, ⟨c, f, t, p⟩⟩ ⟨k', ⟨c', f', t', p'⟩⟩ same
    simp only [Prod.mk.injEq] at same
    obtain ⟨⟨rfl, rfl, rfl⟩, rfl, rfl⟩ := same
    rfl
  have pair : ∀ l : List (String × Facade),
      l.map (fun e => ((e.1, e.2.coordinate, e.2.trail), (e.2.file, e.2.packaging))) =
        (l.map fun e => (e.1, e.2.coordinate, e.2.trail)).zip (l.map fun e => (e.2.file, e.2.packaging)) :=
    fun l => List.zip_map'.symm
  apply List.map_injective_iff.mpr injective
  rw [pair, pair, placed, filed]

/-- Three versions of `k` under one root, in the order 1.0.alpha, 1, 1.ga.5: each is strictly
newer than the one before it, and 1.0.alpha is strictly newer than 1.ga.5. -/
def mixedVersions : Tree :=
  .node { coordinate := { groupId := "g", artifactId := "app", version := "1" } }
    [libraryNode "g" "k" "1.0.alpha" [], libraryNode "g" "k" "1" [], libraryNode "g" "k" "1.ga.5" []]

/-- On `mixedVersions` the selection ends with 1.ga.5, although a walk that gathers it, with
the selected version pinned, merged 1.0.alpha, which is strictly newer. -/
theorem mixed_versions_keep_older :
    ∃ s w, (traverse mixedVersions {}).run' { store := {} } = (.ok s, w) ∧
      ∃ pinned known st w₁ w₂, (walkOnce {} pinned mixedVersions known).run' w₁ = (.ok st, w₂) ∧
        s.chosen.Perm st.gathered.selection ∧
        ∃ f ∈ mergedIn {} pinned st.classified mixedVersions, ∃ h, (f.artifactId, h) ∈ s.chosen ∧
          compareVersions f.version h.version = .ok .gt := by
  let placed : String × Facade → String × Coordinate × List String := fun e => (e.1, e.2.coordinate, e.2.trail)
  let filed : String × Facade → Option String × Option String := fun e => (e.2.file, e.2.packaging)
  let pins : List (String × String) := [("k", "1.ga.5")]
  let verdicts : Classified := [("g:k:jar:1.0.alpha", false), ("g:k:jar:1", false), ("g:k:jar:1.ga.5", false)]
  let selected : List (String × Coordinate × List String) :=
    [("k", ⟨"g", "k", "1.ga.5", "jar", none, some "compile", false⟩, ["g:app:jar:1", "g:k:jar:1.ga.5"])]
  have traversed : ((traverse mixedVersions {}).run' { store := {} }).1.toOption.map
      (fun s => s.chosen.map placed) = some selected := by
    decide +kernel
  have traversedFiles : ((traverse mixedVersions {}).run' { store := {} }).1.toOption.map
      (fun s => s.chosen.map filed) = some [(none, none)] := by
    decide +kernel
  have walked : ((walkOnce {} (some pins) mixedVersions verdicts).run' { store := {} }).1.toOption.map
      (fun st => st.gathered.selection.map placed) = some selected := by
    decide +kernel
  have walkedFiles : ((walkOnce {} (some pins) mixedVersions verdicts).run' { store := {} }).1.toOption.map
      (fun st => st.gathered.selection.map filed) = some [(none, none)] := by
    decide +kernel
  have merged : ((walkOnce {} (some pins) mixedVersions verdicts).run' { store := {} }).1.toOption.map
      (fun st => (mergedIn {} (some pins) st.classified mixedVersions).map fun f => (f.artifactId, f.version)) =
      some [("k", "1.0.alpha"), ("k", "1"), ("k", "1.ga.5")] := by
    decide +kernel
  obtain ⟨s, ranTraverse, chosen⟩ := Except.exists_of_toOption_map traversed
  obtain ⟨st, ranWalk, gathered⟩ := Except.exists_of_toOption_map walked
  rw [ranTraverse] at traversedFiles
  rw [ranWalk] at walkedFiles merged
  simp only [Except.toOption, Option.map_some, Option.some.injEq] at traversedFiles walkedFiles merged
  have same : s.chosen = st.gathered.selection :=
    selection_eq_of_views (chosen.trans gathered.symm) (traversedFiles.trans walkedFiles.symm)
  obtain ⟨f, member, named⟩ := List.mem_map.mp (show ("k", "1.0.alpha") ∈
    (mergedIn {} (some pins) st.classified mixedVersions).map (fun f => (f.artifactId, f.version)) by
      rw [merged]; simp)
  obtain ⟨artifact, older⟩ := Prod.mk.inj named
  obtain ⟨e, held, shape⟩ := List.mem_map.mp (show ("k", (⟨"g", "k", "1.ga.5", "jar", none, some "compile", false⟩ :
      Coordinate), ["g:app:jar:1", "g:k:jar:1.ga.5"]) ∈ s.chosen.map placed by
    rw [chosen]; exact List.mem_singleton_self _)
  change (e.1, e.2.coordinate, e.2.trail) = _ at shape
  simp only [Prod.mk.injEq] at shape
  obtain ⟨key, coordinate, -⟩ := shape
  refine ⟨s, _, by rw [← ranTraverse], some pins, verdicts, st, { store := {} }, _, by rw [← ranWalk],
    same ▸ List.Perm.refl _, f, member, e.2, ?_, ?_⟩
  · rw [artifact, ← key]
    exact held
  · have newer : e.2.version = "1.ga.5" := by
      simp [Facade.version, coordinate]
    rw [older, newer]
    exact compareVersions_eq_ok_iff.mpr (by decide +kernel)

end PluginPack.Traverse
