import PluginPack.Assembly.Classpath
import PluginPack.Proofs.Traverse.Modes
import PluginPack.Proofs.Traverse.Termination

/-! The flat decisions of a classpath assembler against the decisions of a traversal. Given the
artifacts a traversal selected, each with its trail, the assembler decides them again on its
own: it asks which of them are plugins, then gives each the first verdict of a fixed chain
(plugin, reached through a plugin, covered by the host core, scope, optional, bundled).

The two agree when the tree names each id for one artifact and the configurations match. A
walk in `libraries` mode selects only what its plugin cache calls a library, and every verdict
in the cache is the plugin test of an artifact of the tree with that id, on a file tree that no
walk writes; so the assembler finds no plugin among the selection, and no trail that passes
through one. A selected artifact passed the walk's scope and optional checks, and the assembler's
scope check agrees with the walk's as long as an empty scope, which the assembler reads as
`compile`, is wanted only together with `compile`. What is left of the chain is the host-core
test, which is the traversal's final decision.

Main statement: `Assembler.decide_agrees_with_traverse`. Without its two conditions the
agreement fails: a scope that is the empty text is bundled by the traversal and refused by the
assembler, and two selected artifacts whose ids coincide as texts keep the traversal's last
decision but the assembler's first. -/

namespace PluginPack.Artifact

def Coordinate.unscoped (c : Coordinate) : Coordinate := { c with scope := none, optional := false }

def Facade.tested (f : Facade) : Facade :=
  { coordinate := f.coordinate.unscoped, file := f.file, trail := [], packaging := f.packaging }

theorem Facade.isPlugin_tested (store : Files.Store) (f : Facade) : f.tested.isPlugin store = f.isPlugin store := rfl

theorem Facade.isPluginBestEffort_keepsStore (f : Facade) : f.isPluginBestEffort.KeepsStore := by
  unfold Facade.isPluginBestEffort
  refine .bind .currentStore fun store => ?_
  split
  · exact .pure _
  · exact .bind (.report _ _) fun _ => .pure _
  · exact .throw _

/-! The plugin test on artifacts that are all libraries. -/

theorem keepPlugins_of_libraries (store : Files.Store) : ∀ (fs : List Facade),
    (∀ f ∈ fs, f.isPlugin store = .ok false) → keepPlugins store fs = .ok []
  | [], _ => rfl
  | f :: fs, libraries => by
    rw [keepPlugins, libraries f List.mem_cons_self,
      keepPlugins_of_libraries store fs fun g member => libraries g (List.mem_cons_of_mem f member)]
    rfl

theorem keepPluginsBestEffort_of_libraries {w : Workspace} : ∀ (fs : List Facade),
    (∀ f ∈ fs, f.isPlugin w.store = .ok false) → (keepPluginsBestEffort fs).run' w = (.ok [], w)
  | [], _ => rfl
  | f :: fs, libraries => by
    have tested : f.isPluginBestEffort.run' w = (.ok false, w) := by
      rw [Facade.isPluginBestEffort, Step.run'_bind, currentStore_run']
      dsimp only
      rw [libraries f List.mem_cons_self]
      rfl
    rw [keepPluginsBestEffort, Step.run'_bind, tested]
    simp only [Step.run'_bind, keepPluginsBestEffort_of_libraries fs fun g member =>
      libraries g (List.mem_cons_of_mem f member)]
    rfl

theorem Refinement.plugins_of_libraries (bestEffort : Bool) {fs : List Facade} {w : Workspace}
    (libraries : ∀ f ∈ fs, f.isPlugin w.store = .ok false) :
    ((Refinement.plugins bestEffort).apply fs).run' w = (.ok [], w) := by
  cases bestEffort
  · simp only [Refinement.apply, Step.run'_bind, currentStore_run', keepPlugins_of_libraries _ fs libraries,
      Step.ofOutcome_run']
  · exact keepPluginsBestEffort_of_libraries fs libraries


end PluginPack.Artifact

namespace PluginPack.Resolve

open PluginPack.Artifact

/-- Nodes below the root with equal ids name one artifact: the same coordinates apart from
scope and optional, the same file and the same packaging. -/
def Tree.IdsAgree (t : Tree) : Prop :=
  ∀ a ∈ Tree.preorderForest 1 t.children, ∀ b ∈ Tree.preorderForest 1 t.children, a.1.id = b.1.id →
    a.1.coordinate.unscoped = b.1.coordinate.unscoped ∧ a.1.file = b.1.file ∧ a.1.packaging = b.1.packaging

/-- `Tree.IdsAgree` as a test. -/
def Tree.idsAgree (t : Tree) : Bool :=
  (Tree.preorderForest 1 t.children).all fun a => (Tree.preorderForest 1 t.children).all fun b =>
    !(a.1.id == b.1.id) ||
      (a.1.coordinate.unscoped == b.1.coordinate.unscoped && a.1.file == b.1.file && a.1.packaging == b.1.packaging)

theorem Tree.idsAgree_iff (t : Tree) : t.idsAgree = true ↔ t.IdsAgree := by
  simp only [Tree.idsAgree, Tree.IdsAgree, List.all_eq_true, Bool.or_eq_true, Bool.not_eq_true', beq_eq_false_iff_ne,
    Bool.and_eq_true, beq_iff_eq]
  refine forall₂_congr fun a _ => forall₂_congr fun b _ => ?_
  by_cases same : a.1.id = b.1.id <;> simp [same, and_assoc]

instance (t : Tree) : Decidable t.IdsAgree := decidable_of_iff _ (Tree.idsAgree_iff t)

theorem Tree.IdsAgree.tested_eq {t : Tree} (agree : t.IdsAgree) {n m : NodeInfo} (belowN : t.Descendant n)
    (belowM : t.Descendant m) (same : n.id = m.id) (trail trail' : List String) :
    (Facade.make n.coordinate n.file trail n.packaging).tested =
      (Facade.make m.coordinate m.file trail' m.packaging).tested := by
  obtain ⟨_, reachN⟩ := belowN
  obtain ⟨_, reachM⟩ := belowM
  obtain ⟨d, listedN⟩ := reachN.mem_preorderForest 1
  obtain ⟨e, listedM⟩ := reachM.mem_preorderForest 1
  obtain ⟨coordinate, file, packaging⟩ := agree _ listedN _ listedM same
  show ({ coordinate := n.coordinate.unscoped, file := n.file, trail := [], packaging := n.packaging } : Facade) =
    { coordinate := m.coordinate.unscoped, file := m.file, trail := [], packaging := m.packaging }
  rw [coordinate, file, packaging]

end PluginPack.Resolve

namespace PluginPack.Traverse

open PluginPack.Artifact PluginPack.Files PluginPack.Resolve

/-! The file tree through a walk. -/

section Frame

variable {policy : Policy}

theorem classify_keepsStore (f : Facade) (known : Classified) : (classify policy f known).KeepsStore := by
  unfold classify
  split
  · exact .pure _
  · dsimp only
    split
    · exact .bind (Facade.isPluginBestEffort_keepsStore f) fun _ => .pure _
    · exact .bind .currentStore fun _ => .bind (.ofOutcome _) fun _ => .pure _

theorem Gathered.mergeNewest_keepsStore (g : Gathered) (f : Facade) : (g.mergeNewest f).KeepsStore := by
  unfold Gathered.mergeNewest
  split
  · exact .pure _
  · refine .bind (.ofOutcome _) fun order => ?_
    split
    · dsimp only
      split
      · exact .bind (.report _ _) fun _ => .bind (.pure _) fun _ => .pure _
      · exact .bind (.pure _) fun _ => .pure _
    · exact .pure _

theorem Gathered.consider_keepsStore (g : Gathered) (pinned : Option (List (String × String))) (f : Facade)
    (plugin : Bool) : (g.consider policy pinned f plugin).KeepsStore := by
  unfold Gathered.consider
  generalize (if plugin && !g.pluginIds.contains f.id then
    { g with pluginIds := g.pluginIds ++ [f.id] } else g) = g₁
  split
  · split
    · exact .pure _
    · exact .bind (Gathered.mergeNewest_keepsStore _ f) fun _ => .pure _
  · split
    · exact .pure _
    · exact .bind (Gathered.mergeNewest_keepsStore _ f) fun _ => .pure _

theorem acceptNode_keepsStore (pinned : Option (List (String × String))) (trail : List String) (n : NodeInfo)
    (st : WalkState) : (acceptNode policy pinned trail n st).KeepsStore := by
  rw [acceptNode_eq]
  dsimp only
  split
  · exact .pure _
  · refine .bind (classify_keepsStore _ _) fun verdict => ?_
    obtain ⟨plugin, classified⟩ := verdict
    exact .bind (Gathered.consider_keepsStore _ _ _ _) fun result => .pure _

end Frame

/-! The plugin cache of a walk. -/

/-- Every verdict in a plugin cache is the plugin test, on the file tree, of an artifact of the
tree with that id. -/
def CacheSound (t : Tree) (store : Store) (known : Classified) : Prop :=
  ∀ e ∈ known, ∃ n trail, t.Descendant n ∧ n.id = e.1 ∧
    (Facade.make n.coordinate n.file trail n.packaging).isPlugin store = .ok e.2

theorem CacheSound.nil (t : Tree) (store : Store) : CacheSound t store [] :=
  fun _ member => absurd member List.not_mem_nil

section Walks

variable {policy : Policy} {t : Tree}

theorem classify_sound (strict : policy.bestEffort = false) {n : NodeInfo} {trail : List String}
    (below : t.Descendant n) {known known' : Classified} {b : Bool} {w w' : Workspace}
    (sound : CacheSound t w.store known)
    (run : (classify policy (Facade.make n.coordinate n.file trail n.packaging) known).run' w = (.ok (b, known'), w')) :
    CacheSound t w.store known' := by
  unfold classify at run
  split at run
  · simp only [Step.run'_pure, Prod.mk.injEq, Except.ok.injEq] at run
    rw [← run.1.2]
    exact sound
  · simp only [strict, Bool.false_eq_true, if_false, Step.run'_bind, currentStore_run', Step.ofOutcome_run'] at run
    split at run
    · rename_i tested _ passed
      simp only [Step.run'_pure, Prod.mk.injEq, Except.ok.injEq] at run
      obtain ⟨⟨rfl, rfl⟩, -⟩ := run
      intro e member
      rcases List.mem_append.mp member with old | new
      · exact sound e old
      · rw [List.mem_singleton.mp new]
        exact ⟨n, trail, below, rfl, (Prod.mk.inj passed).1⟩
    · simp at run

theorem acceptNode_sound (strict : policy.bestEffort = false) {pinned : Option (List (String × String))}
    {trail : List String} {n : NodeInfo} (below : t.Descendant n) {st st' : WalkState} {accepted : Bool}
    {w w' : Workspace} (sound : CacheSound t w.store st.classified)
    (run : (acceptNode policy pinned trail n st).run' w = (.ok (accepted, st'), w')) :
    w'.store = w.store ∧ CacheSound t w.store st'.classified := by
  refine ⟨(acceptNode_keepsStore pinned trail n st).store_eq run, ?_⟩
  rcases acceptNode_cases run with ⟨d, -, -, rfl⟩ | ⟨-, plugin, w₁, classified, -⟩
  · exact sound
  · exact classify_sound strict below sound classified

theorem walkOnce_sound (strict : policy.bestEffort = false) {pinned : Option (List (String × String))}
    {known : Classified} {st : WalkState} {w w' : Workspace} (sound : CacheSound t w.store known)
    (run : (walkOnce policy pinned t known).run' w = (.ok st, w')) :
    w'.store = w.store ∧ CacheSound t w.store st.classified := by
  refine walkOnce_induction (fun st w₁ => w₁.store = w.store ∧ CacheSound t w.store st.classified)
    (fun below held accept => ?_) ⟨rfl, sound⟩ run
  obtain ⟨kept, cached⟩ := held
  obtain ⟨kept', cached'⟩ := acceptNode_sound strict below (kept ▸ cached) accept
  exact ⟨kept'.trans kept, kept ▸ cached'⟩

theorem rewalk_last_walk (Inv : Classified → Store → Prop)
    (walked : ∀ {pinned known st w w'}, Inv known w.store →
      (walkOnce policy pinned t known).run' w = (.ok st, w') → Inv st.classified w'.store) :
    ∀ (fuel : Nat) (pinned : Option (List (String × String))) (seen : List (List (String × String)))
      (known : Classified) {g : Gathered} {w w' : Workspace}, Inv known w.store →
      (rewalk policy t fuel pinned seen known).run' w = (.ok g, w') →
      ∃ pinned' known' st w₁, Inv known' w₁.store ∧ (walkOnce policy pinned' t known').run' w₁ = (.ok st, w') ∧
        g = st.gathered
  | 0, pinned, _, known, g, w, w', start, run => by
    simp only [rewalk] at run
    obtain ⟨st, w₁, walk, rest⟩ := Step.run'_bind_eq_ok run
    simp only [Step.run'_pure, Prod.mk.injEq, Except.ok.injEq] at rest
    obtain ⟨rfl, rfl⟩ := rest
    exact ⟨pinned, known, st, w, start, walk, rfl⟩
  | fuel + 1, pinned, seen, known, g, w, w', start, run => by
    simp only [rewalk] at run
    obtain ⟨st, w₁, walk, rest⟩ := Step.run'_bind_eq_ok run
    split at rest
    all_goals
      split at rest
      · simp only [Step.run'_pure, Prod.mk.injEq, Except.ok.injEq] at rest
        obtain ⟨rfl, rfl⟩ := rest
        exact ⟨_, known, st, w, start, walk, rfl⟩
      · -- The loop reports and walks again from the cache this walk left.
        obtain ⟨_, w₂, reported, again⟩ := Step.run'_bind_eq_ok rest
        have kept : w₂.store = w₁.store := (Step.KeepsStore.report _ _).store_eq reported
        exact rewalk_last_walk Inv walked fuel _ _ _ (kept ▸ walked start walk) again

theorem traverse_last_walk (strict : policy.bestEffort = false) {s : Selection} {w w' : Workspace}
    (run : (traverse t policy).run' w = (.ok s, w')) :
    ∃ st, s.ReadsWalk policy st ∧ FromTree t st.gathered.selection ∧ s.chosen.Perm st.gathered.selection ∧
      w'.store = w.store ∧ CacheSound t w.store st.classified := by
  obtain ⟨g, w₁, walked, perm, plugins, decisions⟩ := traverse_run run
  have ended : w' = w₁ := by
    simp only [traverse, Step.run'_bind, walked, Step.run'_pure, Prod.mk.injEq] at run
    exact run.2.symm
  subst ended
  have eachWalk : ∀ {pinned known st} {w₂ w₃ : Workspace}, (w₂.store = w.store ∧ CacheSound t w.store known) →
      (walkOnce policy pinned t known).run' w₂ = (.ok st, w₃) →
      w₃.store = w.store ∧ CacheSound t w.store st.classified := by
    intro pinned known st w₂ w₃ held walk
    obtain ⟨kept, cached⟩ := held
    obtain ⟨kept', cached'⟩ := walkOnce_sound strict (kept ▸ cached) walk
    exact ⟨kept'.trans kept, kept ▸ cached'⟩
  obtain ⟨pinned, known, st, w₂, held, last, rfl⟩ :=
    rewalk_last_walk (fun known store => store = w.store ∧ CacheSound t w.store known) eachWalk
      _ _ _ _ ⟨rfl, CacheSound.nil t w.store⟩ walked
  obtain ⟨kept, cached⟩ := eachWalk held last
  exact ⟨st, .of_walk (walkOnce_respects last) perm plugins decisions, walkOnce_fromTree last, perm, kept, cached⟩

end Walks

/-! What a traversal in `libraries` mode selected. -/

section Selected

variable {policy : Policy} {t : Tree}

theorem FitsMode.isPlugin_false (agree : t.IdsAgree) (libraries : policy.mode = .libraries) {store : Store}
    {st : WalkState} (sound : CacheSound t store st.classified) {f : Facade} (fits : FitsMode policy st f)
    (made : ∃ n trail, t.Descendant n ∧ f = Facade.make n.coordinate n.file trail n.packaging) :
    f.isPlugin store = .ok false := by
  obtain ⟨n, trail, below, rfl⟩ := made
  have cached : verdict st.classified n.id = some false := by
    have selected := fits.verdictSelected
    rw [libraries] at selected
    exact selected
  obtain ⟨e, found, library⟩ := Option.map_eq_some_iff.mp cached
  obtain ⟨n', trail', below', named, tested⟩ := sound e (List.mem_of_find?_eq_some found)
  have sameId : n'.id = n.id := named.trans (by simpa using List.find?_some found)
  rw [← Facade.isPlugin_tested, ← agree.tested_eq below' below sameId trail' trail, Facade.isPlugin_tested,
    tested, library]

theorem FromTree.ids_nodup (agree : t.IdsAgree) {selection : List (String × Facade)} (fromTree : FromTree t selection) :
    (selection.map (·.2.id)).Nodup := by
  have nodup : selection.Nodup := List.Nodup.of_map Prod.fst fromTree.keysNodup
  refine nodup.map_on fun x xMember y yMember sameId => ?_
  obtain ⟨xKey, n, trail, below, xMade⟩ := fromTree.made x xMember
  obtain ⟨yKey, m, trail', below', yMade⟩ := fromTree.made y yMember
  have sameNode : n.id = m.id := by
    rw [xMade, yMade] at sameId
    exact sameId
  have tested := agree.tested_eq below below' sameNode trail trail'
  have sameArtifact : x.2.artifactId = y.2.artifactId := by
    rw [xMade, yMade]
    have unscoped := congrArg (fun f : Facade => f.coordinate.artifactId) tested
    exact unscoped
  exact List.inj_on_of_nodup_map fromTree.keysNodup xMember yMember (xKey.trans (sameArtifact.trans yKey.symm))

end Selected

end PluginPack.Traverse

namespace PluginPack.Assembly

open PluginPack.Artifact PluginPack.Resolve PluginPack.Traverse

/-! The assembler on libraries. -/

theorem find?_id_of_nodup {fs : List Facade} (distinct : (fs.map Facade.id).Nodup) {f : Facade} (member : f ∈ fs) :
    fs.find? (·.id == f.id) = some f := by
  cases found : fs.find? (·.id == f.id) with
  | none => simpa using List.find?_eq_none.mp found f member
  | some g =>
    have sameId : g.id = f.id := by simpa using List.find?_some found
    rw [List.inj_on_of_nodup_map distinct (List.mem_of_find?_eq_some found) member sameId]

theorem Assembler.pluginIds_of_libraries (a : Assembler) {fs : List Facade} {w : Workspace}
    (libraries : ∀ f ∈ fs, f.isPlugin w.store = .ok false) : (a.pluginIds fs).run' w = (.ok [], w) := by
  simp only [Assembler.pluginIds, Step.run'_bind, Refinement.plugins_of_libraries a.bestEffort libraries,
    Step.run'_pure]
  rfl

theorem Assembler.verdict_of_library (a : Assembler) {f : Facade} {scope : String} (scopeOf : f.scope = some scope)
    (wanted : scope ∈ a.scopes) (emptyScope : "" ∈ a.scopes → "compile" ∈ a.scopes) (required : f.optional = false) :
    a.verdict [] f = if a.hostCore.covers f.trail then .coveredByHost else .bundle := by
  have effective : effectiveScope f ∈ a.scopes := by
    rw [effectiveScope, scopeOf]
    dsimp only
    split
    · rename_i empty
      rw [String.isEmpty_iff.mp empty] at wanted
      exact emptyScope wanted
    · exact wanted
  simp [Assembler.verdict, throughPlugin, effective, required]

theorem lookup_recordFirst (acc : List (String × Decision)) (key id : String) (d : Decision) :
    (recordFirst acc key d).lookup id = (acc.lookup id).or ([(key, d)].lookup id) := by
  unfold recordFirst
  split
  · rename_i present
    by_cases same : id = key
    · -- The id already has a verdict, which the new one does not replace.
      subst same
      obtain ⟨p, member, keyed⟩ := List.any_eq_true.mp present
      have found : (acc.lookup id).isSome :=
        List.lookup_isSome_iff.mpr ⟨p, member, beq_iff_eq.mpr (beq_iff_eq.mp keyed).symm⟩
      obtain ⟨d', hit⟩ := Option.isSome_iff_exists.mp found
      rw [hit]
      rfl
    · simp only [List.lookup_cons, List.lookup_nil, beq_false_of_ne same, Option.or_none]
  · rw [List.lookup_append]

theorem lookup_foldl_recordFirst (verdict : Facade → Decision) (id : String) : ∀ (fs : List Facade)
    (acc : List (String × Decision)), (fs.foldl (fun acc f => recordFirst acc f.id (verdict f)) acc).lookup id =
      (acc.lookup id).or ((fs.find? (·.id == id)).map verdict)
  | [], acc => by simp
  | f :: fs, acc => by
    rw [List.foldl_cons, lookup_foldl_recordFirst verdict id fs, lookup_recordFirst, Option.or_assoc]
    congr 1
    by_cases same : f.id = id
    · rw [List.find?_cons_of_pos (by simp [same])]
      simp only [List.lookup_cons, same, beq_self_eq_true]
      rfl
    · rw [List.find?_cons_of_neg (by simp [same])]
      simp only [List.lookup_cons, List.lookup_nil, beq_false_of_ne (Ne.symm same)]
      rfl

theorem lookup_foldl_recordFirst_of_agree {verdict : Facade → Decision} {decision : String → Option Decision}
    {fs : List Facade} (distinct : (fs.map Facade.id).Nodup) (agree : ∀ f ∈ fs, decision f.id = some (verdict f))
    (id : String) :
    (fs.foldl (fun acc f => recordFirst acc f.id (verdict f)) []).lookup id =
      if id ∈ fs.map Facade.id then decision id else none := by
  rw [lookup_foldl_recordFirst, List.lookup_nil, Option.none_or]
  split
  · rename_i selected
    obtain ⟨f, member, rfl⟩ := List.mem_map.mp selected
    rw [find?_id_of_nodup distinct member, Option.map_some, agree f member]
  · rename_i unselected
    have absent : fs.find? (·.id == id) = none :=
      List.find?_eq_none.mpr fun f member same => unselected (List.mem_map.mpr ⟨f, member, beq_iff_eq.mp same⟩)
    rw [absent, Option.map_none]

theorem Assembler.decide_of_libraries (a : Assembler) {fs : List Facade} {w : Workspace}
    (libraries : ∀ f ∈ fs, f.isPlugin w.store = .ok false) :
    (a.decide fs).run' w = (.ok (fs.foldl (fun acc f => recordFirst acc f.id (a.verdict [] f)) []), w) := by
  simp only [Assembler.decide, Step.run'_bind, a.pluginIds_of_libraries libraries, Step.run'_pure]

theorem Assembler.bundled_of_libraries (a : Assembler) {fs : List Facade} {w : Workspace}
    (libraries : ∀ f ∈ fs, f.isPlugin w.store = .ok false) :
    (a.bundled fs).run' w = (.ok (fs.filter fun f =>
      (fs.foldl (fun acc f => recordFirst acc f.id (a.verdict [] f)) []).lookup f.id == some .bundle), w) := by
  simp only [Assembler.bundled, Step.run'_bind, a.decide_of_libraries libraries, Step.run'_pure]

/-! The agreement. -/

/-- An assembler configured as a traversal in `libraries` mode decides the traversal's
selection as the traversal did: its verdicts are the traversal's decisions restricted to the
selected ids, and it bundles what the traversal bundled. This holds when the tree names each id
for one artifact, optional artifacts are not wanted, the plugin test runs without best effort,
and an empty scope is wanted only together with `compile`. -/
theorem Assembler.decide_agrees_with_traverse (t : Tree) (policy : Policy) (a : Assembler) {s : Selection}
    {w w' : Workspace} (agree : t.IdsAgree) (libraries : policy.mode = .libraries)
    (noOptional : policy.includeOptional = false) (strict : policy.bestEffort = false)
    (sameScopes : a.scopes = policy.scopes) (sameHost : a.hostCore = policy.hostCore)
    (emptyScope : "" ∈ policy.scopes → "compile" ∈ policy.scopes)
    (run : (traverse t policy).run' w = (.ok s, w')) :
    ∃ ds, (a.decide (s.chosen.map (·.2))).run' w' = (.ok ds, w') ∧
      (∀ id, ds.lookup id = if id ∈ s.chosen.map (·.2.id) then s.decisionOf id else none) ∧
      (a.bundled (s.chosen.map (·.2))).run' w' = (.ok s.bundled, w') := by
  obtain ⟨st, reads, fromTree, perm, kept, sound⟩ := traverse_last_walk strict run
  have made (f : Facade) (member : f ∈ s.chosen.map (·.2)) :
      ∃ n trail, t.Descendant n ∧ f = Facade.make n.coordinate n.file trail n.packaging := by
    obtain ⟨e, chosen, rfl⟩ := List.mem_map.mp member
    exact (fromTree.made e (perm.mem_iff.mp chosen)).2
  have tested (f : Facade) (member : f ∈ s.chosen.map (·.2)) : f.isPlugin w'.store = .ok false :=
    kept ▸ (reads.fits f member).isPlugin_false agree libraries sound (made f member)
  have distinct : ((s.chosen.map (·.2)).map Facade.id).Nodup := by
    rw [List.map_map]
    exact (perm.map _).nodup_iff.mpr (fromTree.ids_nodup agree)
  have agreeing (f : Facade) (member : f ∈ s.chosen.map (·.2)) : s.decisionOf f.id = some (a.verdict [] f) := by
    have fits := reads.fits f member
    obtain ⟨scope, scopeOf, wanted⟩ := fits.inScope
    have required : f.optional = false := by
      cases optional : f.optional
      · rfl
      · exact absurd (fits.optionalAllowed optional) (by simp [noOptional])
    obtain ⟨f', member', sameId, read⟩ := reads.decided f member
    obtain rfl : f' = f := List.inj_on_of_nodup_map distinct member' member sameId
    rw [read, finalDecision_of_libraries reads.respects fits libraries,
      a.verdict_of_library scopeOf (sameScopes ▸ wanted) (sameScopes ▸ emptyScope) required, sameHost]
  have looked (id : String) :
      ((s.chosen.map (·.2)).foldl (fun acc f => recordFirst acc f.id (a.verdict [] f)) []).lookup id =
        if id ∈ s.chosen.map (·.2.id) then s.decisionOf id else none := by
    rw [lookup_foldl_recordFirst_of_agree distinct agreeing, List.map_map]
    rfl
  refine ⟨_, a.decide_of_libraries tested, looked, ?_⟩
  rw [a.bundled_of_libraries tested, Selection.bundled]
  congr 2
  refine List.filter_congr fun f member => ?_
  have selected : f.id ∈ s.chosen.map (·.2.id) := by
    obtain ⟨e, chosen, rfl⟩ := List.mem_map.mp member
    exact List.mem_map_of_mem chosen
  rw [looked, if_pos selected]

/-- A plugin's libraries: `a` reaches `b` 1.0 in runtime scope while `b` 2.0 is a direct
dependency, `c` is reached below the host core and directly, and `d` is optional. -/
def hostCoreLibraries : Tree :=
  .node { coordinate := { groupId := "g", artifactId := "app", version := "1", type := "hpi" } }
    [libraryNode "g" "a" "1.0"
      [.node { coordinate := { groupId := "g", artifactId := "b", version := "1.0", scope := some "runtime" } } []],
     libraryNode "g" "b" "2.0" [],
     libraryNode "org.jenkins-ci.main" "jenkins-core" "2.0" [libraryNode "g" "c" "1.0" []],
     .node { coordinate := { groupId := "g", artifactId := "c", version := "1.0", scope := some "runtime" } } [],
     .node { coordinate := { groupId := "g", artifactId := "d", version := "1.0", optional := true } } []]

def corePolicy : Policy := { hostCore := .coordinate "org.jenkins-ci.main:jenkins-core" }

/-- On `hostCoreLibraries` the assembler decides the selection as the traversal did. -/
theorem hostCoreLibraries_decided_alike : hostCoreLibraries.IdsAgree ∧
    ∃ s w', (traverse hostCoreLibraries corePolicy).run' { store := {} } = (.ok s, w') ∧
      ∃ ds, (({ workDir := "work", hostCore := corePolicy.hostCore } : Assembler).decide (s.chosen.map (·.2))).run' w' =
          (.ok ds, w') ∧
        (∀ id, ds.lookup id = if id ∈ s.chosen.map (·.2.id) then s.decisionOf id else none) ∧
        (({ workDir := "work", hostCore := corePolicy.hostCore } : Assembler).bundled (s.chosen.map (·.2))).run' w' =
          (.ok s.bundled, w') := by
  have agree : hostCoreLibraries.IdsAgree := by decide +kernel
  have computed : ((rewalk corePolicy hostCoreLibraries (walkBound hostCoreLibraries) none [] []).run'
      { store := {} }).1.toOption.map (fun g => g.selection.map (·.1)) = some ["a", "b", "jenkins-core", "c"] := by
    decide +kernel
  obtain ⟨g, run, -⟩ := Step.run'_of_toOption_map computed
  obtain ⟨s, traversed, -⟩ := traverse_chosen_perm run
  exact ⟨agree, s, _, traversed, Assembler.decide_agrees_with_traverse hostCoreLibraries corePolicy _ agree rfl rfl rfl rfl
    rfl (by decide) traversed⟩

theorem traverse_then_decide {t : Tree} {policy : Policy} {a : Assembler} {w : Workspace} {id : String}
    (keys : List String) {d : Option Decision} {ds : Option (List (String × Decision))}
    (computed : ((rewalk policy t (walkBound t) none [] []).run' w).1.toOption.map (fun g =>
      (g.selection.map (·.1), (g.finish policy g.selection).decisionOf id,
        ((a.decide ((g.finish policy g.selection).chosen.map (·.2))).run'
          ((rewalk policy t (walkBound t) none [] []).run' w).2).1.toOption)) = some (keys, d, ds))
    (sorted : keys.Pairwise (· < ·)) :
    ∃ s w', (traverse t policy).run' w = (.ok s, w') ∧ s.decisionOf id = d ∧
      ((a.decide (s.chosen.map (·.2))).run' w').1.toOption = ds := by
  obtain ⟨g, run, read⟩ := Step.run'_of_toOption_map computed
  simp only [Prod.mk.injEq] at read
  exact ⟨_, _, traverse_of_sorted run (read.1 ▸ sorted), read.2.1, read.2.2⟩

/-- One library whose scope is the empty text. -/
def emptyScopeLibrary : Tree :=
  .node { coordinate := { groupId := "r", artifactId := "app", version := "1" } }
    [.node { coordinate := { groupId := "g", artifactId := "k", version := "1", scope := some "" } } []]

def emptyScopePolicy : Policy := { hostCore := .coordinate "h:jenkins-core", scopes := [""] }

/-- Without its two conditions the agreement fails. A walk that wants the empty scope bundles a
library of that scope, which the assembler reads as `compile` and refuses. Of two selected
artifacts of `collidingIds` with one id, the traversal keeps the decision of the last, bundled,
and the assembler the verdict of the first, covered by the host core. -/
theorem decide_differs_from_traverse :
    (∃ s w', (traverse emptyScopeLibrary emptyScopePolicy).run' { store := {} } = (.ok s, w') ∧
      s.decisionOf "g:k:jar:1" = some .bundle ∧
      ((({ workDir := "work", hostCore := emptyScopePolicy.hostCore, scopes := [""] } : Assembler).decide
        (s.chosen.map (·.2))).run' w').1.toOption = some [("g:k:jar:1", .scope)]) ∧
    (∃ s w', (traverse collidingIds hostCoordinatePolicy).run' { store := {} } = (.ok s, w') ∧
      s.decisionOf "g:x:y:jar:1" = some .bundle ∧
      ((({ workDir := "work", hostCore := hostCoordinatePolicy.hostCore } : Assembler).decide
        (s.chosen.map (·.2))).run' w').1.toOption =
          some [("h:jenkins-core:jar:1", .coveredByHost), ("g:x:y:jar:1", .coveredByHost)]) :=
  ⟨traverse_then_decide ["k"] (by decide +kernel) (by decide),
    traverse_then_decide ["jenkins-core", "x:y", "y"] (by decide +kernel) (by decide)⟩

end PluginPack.Assembly
