import PluginPack.Proofs.Traverse.FixedPoint

/-! What a traversal selects under each mode. A walk checks a node's scope and optional flag
first, then asks the cached verdict on its artifact, and merges or descends only where the
verdict is the one the mode looks for: a library in `libraries` mode, a plugin in `plugins`
mode. So every selected artifact, and every ancestor between the root and it, has that
verdict, and every id the walk notes as a plugin has the plugin verdict. The final decisions
are then written over the walk's reasons, one per selected artifact in the order of artifact
ids. Two selected artifacts share an id only when a group or artifact id holds a colon; then
both read the decision of the later one, so a bundled artifact is one that shares its id
with a selected artifact reached through no plugin and outside the host core. -/

namespace PluginPack.Traverse

open PluginPack.Artifact
open PluginPack.Resolve

/-- The verdict a mode merges and descends through: `libraries` follows what is not a
plugin, `plugins` what is. -/
def Mode.selectsPlugins : Mode → Bool
  | .libraries => false
  | .plugins => true

theorem refusal_eq_none {policy : Policy} {n : NodeInfo} (passed : refusal policy n = none) :
    (∃ s, n.coordinate.scope = some s ∧ s ∈ policy.scopes) ∧
      (n.coordinate.optional = true → policy.includeOptional = true) := by
  unfold refusal at passed
  cases scope : n.coordinate.scope with
  | none => simp [scope] at passed
  | some s =>
    simp only [scope] at passed
    by_cases wanted : s ∈ policy.scopes
    · refine ⟨⟨s, rfl, wanted⟩, fun optional => ?_⟩
      cases included : policy.includeOptional
      · simp [wanted, optional, included] at passed
      · rfl
    · simp [wanted] at passed

theorem Gathered.mergeNewest_pluginIds {g g' : Gathered} {f : Facade} {w w' : Workspace}
    (run : (g.mergeNewest f).run' w = (.ok g', w')) : g'.pluginIds = g.pluginIds := by
  unfold Gathered.mergeNewest at run
  split at run
  · simp only [Step.run'_pure, Prod.mk.injEq, Except.ok.injEq] at run
    rw [← run.1]
  · simp only [Step.run'_bind, Step.ofOutcome_run'] at run
    split at run
    · split at run
      · split at run <;> simp only [Step.run'_bind, report_run', Step.run'_pure, Prod.mk.injEq,
          Except.ok.injEq] at run <;> rw [← run.1]
      · simp only [Step.run'_pure, Prod.mk.injEq, Except.ok.injEq] at run
        rw [← run.1]
    · simp at run

theorem Gathered.consider_mode {g g' : Gathered} {policy : Policy}
    {pinned : Option (List (String × String))} {f : Facade} {plugin accepted : Bool} {w w' : Workspace}
    (run : (g.consider policy pinned f plugin).run' w = (.ok (accepted, g'), w')) :
    g'.pluginIds = (if plugin && !g.pluginIds.contains f.id then g.pluginIds ++ [f.id] else g.pluginIds) ∧
      (g'.selection = g.selection ∨
        plugin = policy.mode.selectsPlugins ∧ g'.selection = putSelected g.selection f) ∧
      (accepted = true → plugin = policy.mode.selectsPlugins) := by
  unfold Gathered.consider at run
  generalize noted : (if plugin && !g.pluginIds.contains f.id then
    { g with pluginIds := g.pluginIds ++ [f.id] } else g) = g₁ at run
  have notedIds : g₁.pluginIds =
      if plugin && !g.pluginIds.contains f.id then g.pluginIds ++ [f.id] else g.pluginIds := by
    rw [← noted]
    split <;> rfl
  have sameSelection : g₁.selection = g.selection := by
    rw [← noted]
    split <;> rfl
  have merged : plugin = policy.mode.selectsPlugins →
      (Prod.mk (descends pinned f) <$> g₁.mergeNewest f).run' w = (.ok (accepted, g'), w') →
      g'.pluginIds = (if plugin && !g.pluginIds.contains f.id then g.pluginIds ++ [f.id] else g.pluginIds) ∧
        (g'.selection = g.selection ∨
          plugin = policy.mode.selectsPlugins ∧ g'.selection = putSelected g.selection f) ∧
        (accepted = true → plugin = policy.mode.selectsPlugins) := by
    intro selected ran
    obtain ⟨g₂, mergeRun, result⟩ := Step.run'_map_eq_ok ran
    simp only [Prod.mk.injEq] at result
    obtain ⟨rfl, rfl⟩ := result
    obtain ⟨changed, -⟩ := Gathered.mergeNewest_selection mergeRun
    rw [sameSelection] at changed
    refine ⟨(Gathered.mergeNewest_pluginIds mergeRun).trans notedIds, ?_, fun _ => selected⟩
    rcases changed with same | put
    · exact .inl same
    · exact .inr ⟨selected, put⟩
  have refused : ∀ g₂ : Gathered, g₂.selection = g.selection → g₂.pluginIds = g₁.pluginIds →
      (.ok (false, g₂), w) = ((.ok (accepted, g'), w') : Except PackagingError (Bool × Gathered) × Workspace) →
      g'.pluginIds = (if plugin && !g.pluginIds.contains f.id then g.pluginIds ++ [f.id] else g.pluginIds) ∧
        (g'.selection = g.selection ∨
          plugin = policy.mode.selectsPlugins ∧ g'.selection = putSelected g.selection f) ∧
        (accepted = true → plugin = policy.mode.selectsPlugins) := by
    intro g₂ keptSelection keptIds ran
    simp only [Prod.mk.injEq, Except.ok.injEq] at ran
    obtain ⟨⟨rfl, rfl⟩, -⟩ := ran
    exact ⟨keptIds.trans notedIds, .inl keptSelection, nofun⟩
  cases mode : policy.mode <;> cases plugin <;> simp only [mode, Bool.not_true, Bool.not_false, if_true,
    if_false, Bool.false_eq_true, bind_pure_comp, Step.run'_pure] at run
  · exact mode ▸ merged (by simp [mode, Mode.selectsPlugins]) run
  · exact mode ▸ refused { g₁ with reasons := keepFirst g₁.reasons f.id .plugin } sameSelection rfl run
  · exact mode ▸ refused g₁ sameSelection rfl run
  · exact mode ▸ merged (by simp [mode, Mode.selectsPlugins]) run

/-- What a walk keeps of a selected artifact: it passed the scope and optional checks, it and
every ancestor between the root and it have the verdict the mode looks for, and in `plugins`
mode they are all noted as plugins. -/
structure FitsMode (policy : Policy) (st : WalkState) (f : Facade) : Prop where
  inScope : ∃ s, f.scope = some s ∧ s ∈ policy.scopes
  optionalAllowed : f.optional = true → policy.includeOptional = true
  verdictSelected : verdict st.classified f.id = some policy.mode.selectsPlugins
  betweenSelected : ∀ id ∈ (f.trail.drop 1).dropLast, verdict st.classified id = some policy.mode.selectsPlugins
  pluginsNoted : policy.mode = .plugins →
    f.id ∈ st.gathered.pluginIds ∧ ∀ id ∈ (f.trail.drop 1).dropLast, id ∈ st.gathered.pluginIds

/-- Every artifact a walk has selected fits the mode, and every id it noted is a plugin. -/
structure RespectsMode (policy : Policy) (st : WalkState) : Prop where
  selected : ∀ e ∈ st.gathered.selection, FitsMode policy st e.2
  notedPlugins : ∀ id ∈ st.gathered.pluginIds, verdict st.classified id = some true

/-- The trail a walk descends along: below the root, every id on it has the verdict the mode
looks for and, in `plugins` mode, is noted as a plugin. -/
structure TrailAccepted (policy : Policy) (trail : List String) (st : WalkState) : Prop where
  rooted : trail ≠ []
  verdicts : ∀ id ∈ trail.drop 1, verdict st.classified id = some policy.mode.selectsPlugins
  noted : policy.mode = .plugins → ∀ id ∈ trail.drop 1, id ∈ st.gathered.pluginIds

def Grows (st st' : WalkState) : Prop :=
  Covers st'.classified st.classified ∧ ∀ id ∈ st.gathered.pluginIds, id ∈ st'.gathered.pluginIds

theorem Grows.refl (st : WalkState) : Grows st st := ⟨Covers.refl _, fun _ noted => noted⟩

theorem Grows.trans {a b c : WalkState} (first : Grows a b) (second : Grows b c) : Grows a c :=
  ⟨second.1.trans first.1, fun id noted => second.2 id (first.2 id noted)⟩

theorem Grows.of_same {st st' : WalkState} (cache : st'.classified = st.classified)
    (ids : st'.gathered.pluginIds = st.gathered.pluginIds) : Grows st st' :=
  ⟨cache ▸ Covers.refl _, fun _ noted => ids ▸ noted⟩

section Grow

variable {policy : Policy} {st st' : WalkState}

theorem FitsMode.grow {f : Facade} (fits : FitsMode policy st f) (grows : Grows st st') : FitsMode policy st' f :=
  ⟨fits.inScope, fits.optionalAllowed, grows.1 _ _ fits.verdictSelected,
    fun id between => grows.1 _ _ (fits.betweenSelected id between),
    fun plugins => ⟨grows.2 _ (fits.pluginsNoted plugins).1,
      fun id between => grows.2 id ((fits.pluginsNoted plugins).2 id between)⟩⟩

theorem TrailAccepted.grow {trail : List String} (onTrail : TrailAccepted policy trail st)
    (grows : Grows st st') : TrailAccepted policy trail st' :=
  ⟨onTrail.rooted, fun id member => grows.1 _ _ (onTrail.verdicts id member),
    fun plugins id member => grows.2 id (onTrail.noted plugins id member)⟩

end Grow

theorem between_make {trail : List String} (rooted : trail ≠ []) (n : NodeInfo) :
    ((Facade.make n.coordinate n.file (trail ++ [n.id]) n.packaging).trail.drop 1).dropLast = trail.drop 1 := by
  have length : 1 ≤ trail.length := List.length_pos_iff.mpr rooted
  simp [Facade.make, List.drop_append_of_le_length length]

theorem drop_append_single {trail : List String} (rooted : trail ≠ []) (id : String) :
    (trail ++ [id]).drop 1 = trail.drop 1 ++ [id] :=
  List.drop_append_of_le_length (List.length_pos_iff.mpr rooted)

theorem TrailAccepted.snoc {policy : Policy} {trail : List String} {st : WalkState} {id : String}
    (onTrail : TrailAccepted policy trail st) (selected : verdict st.classified id = some policy.mode.selectsPlugins)
    (noted : policy.mode = .plugins → id ∈ st.gathered.pluginIds) : TrailAccepted policy (trail ++ [id]) st := by
  refine ⟨by simp, fun id' member => ?_, fun plugins id' member => ?_⟩
  · rw [drop_append_single onTrail.rooted] at member
    rcases List.mem_append.mp member with old | single
    · exact onTrail.verdicts id' old
    · rw [List.mem_singleton.mp single]
      exact selected
  · rw [drop_append_single onTrail.rooted] at member
    rcases List.mem_append.mp member with old | single
    · exact onTrail.noted plugins id' old
    · rw [List.mem_singleton.mp single]
      exact noted plugins

theorem acceptNode_respects {policy : Policy} {pinned : Option (List (String × String))}
    {trail : List String} {n : NodeInfo} {st st' : WalkState} {accepted : Bool} {w w' : Workspace}
    (respects : RespectsMode policy st) (onTrail : TrailAccepted policy trail st)
    (run : (acceptNode policy pinned (trail ++ [n.id]) n st).run' w = (.ok (accepted, st'), w')) :
    RespectsMode policy st' ∧ Grows st st' ∧ (accepted = true → TrailAccepted policy (trail ++ [n.id]) st') := by
  rcases acceptNode_cases run with ⟨d, -, rfl, rfl⟩ | ⟨passed, plugin, w₁, classified, considered⟩
  · -- Refused: only the visited ids and the reasons change.
    exact ⟨⟨fun e member => (respects.selected e member).grow (Grows.of_same rfl rfl), respects.notedPlugins⟩,
      Grows.of_same rfl rfl, nofun⟩
  obtain ⟨covers, verdictNode⟩ := classify_verdict classified
  obtain ⟨noted, selection, descended⟩ := Gathered.consider_mode considered
  obtain ⟨inScope, optionalAllowed⟩ := refusal_eq_none passed
  have grows : Grows st st' := by
    refine ⟨covers, fun id old => ?_⟩
    rw [noted]
    split
    · exact List.mem_append_left _ old
    · exact old
  have notedNode : plugin = true → n.id ∈ st'.gathered.pluginIds := by
    intro isPlugin
    rw [noted]
    split
    · exact List.mem_append_right _ (List.mem_singleton_self _)
    · rename_i present
      simp only [isPlugin, Bool.true_and, Bool.not_eq_true', Bool.not_eq_false] at present
      exact List.contains_iff_mem.mp present
  have fitsNode : plugin = policy.mode.selectsPlugins →
      FitsMode policy st' (Facade.make n.coordinate n.file (trail ++ [n.id]) n.packaging) := by
    intro selects
    refine ⟨inScope, optionalAllowed, selects ▸ verdictNode, ?_, fun plugins => ⟨?_, ?_⟩⟩
    · rw [between_make onTrail.rooted]
      exact (onTrail.grow grows).verdicts
    · exact notedNode (by simp [selects, plugins, Mode.selectsPlugins])
    · rw [between_make onTrail.rooted]
      exact (onTrail.grow grows).noted plugins
  refine ⟨⟨fun e member => ?_, fun id isNoted => ?_⟩, grows, fun descends => ?_⟩
  · rcases selection with same | ⟨selects, put⟩
    · rw [same] at member
      exact (respects.selected e member).grow grows
    · rw [put] at member
      rcases mem_putSelected _ _ member with old | rfl
      · exact (respects.selected e old).grow grows
      · exact fitsNode selects
  · rw [noted] at isNoted
    split at isNoted
    · rename_i fresh
      rcases List.mem_append.mp isNoted with old | single
      · exact covers _ _ (respects.notedPlugins id old)
      · rw [List.mem_singleton.mp single]
        simp only [Bool.and_eq_true] at fresh
        rw [fresh.1] at verdictNode
        exact verdictNode
    · exact covers _ _ (respects.notedPlugins id isNoted)
  · have selects := descended descends
    refine (onTrail.grow grows).snoc (selects ▸ verdictNode) fun plugins => notedNode ?_
    simp [selects, plugins, Mode.selectsPlugins]

section Walks

variable {policy : Policy} {pinned : Option (List (String × String))}

mutual

theorem walkBelow_respects : ∀ (t : Tree) {trail : List String} {st st' : WalkState} {w w' : Workspace},
    RespectsMode policy st → TrailAccepted policy trail st →
    (walkBelow policy pinned trail t st).run' w = (.ok st', w') → RespectsMode policy st' ∧ Grows st st'
  | .node n cs, trail, st, st', w, w', respects, onTrail, run => by
    simp only [walkBelow] at run
    obtain ⟨⟨accepted, st₁⟩, w₁, accept, run⟩ := Step.run'_bind_eq_ok run
    obtain ⟨respects₁, grows₁, below⟩ := acceptNode_respects respects onTrail accept
    cases accepted
    · simp only [Bool.false_eq_true, if_false, Step.run'_pure, Prod.mk.injEq, Except.ok.injEq] at run
      obtain ⟨rfl, -⟩ := run
      exact ⟨respects₁, grows₁⟩
    · simp only [if_true] at run
      obtain ⟨respects', grows'⟩ := walkForest_respects cs respects₁ (below rfl) run
      exact ⟨respects', grows₁.trans grows'⟩

theorem walkForest_respects : ∀ (ts : List Tree) {trail : List String} {st st' : WalkState} {w w' : Workspace},
    RespectsMode policy st → TrailAccepted policy trail st →
    (walkForest policy pinned trail ts st).run' w = (.ok st', w') → RespectsMode policy st' ∧ Grows st st'
  | [], trail, st, st', w, w', respects, _, run => by
    simp only [walkForest, Step.run'_pure, Prod.mk.injEq, Except.ok.injEq] at run
    obtain ⟨rfl, -⟩ := run
    exact ⟨respects, Grows.refl _⟩
  | t :: ts, trail, st, st', w, w', respects, onTrail, run => by
    simp only [walkForest] at run
    obtain ⟨st₁, w₁, first, run⟩ := Step.run'_bind_eq_ok run
    obtain ⟨respects₁, grows₁⟩ := walkBelow_respects t respects onTrail first
    obtain ⟨respects', grows'⟩ := walkForest_respects ts respects₁ (onTrail.grow grows₁) run
    exact ⟨respects', grows₁.trans grows'⟩

end

theorem walkOnce_respects {t : Tree} {known : Classified} {st : WalkState} {w w' : Workspace}
    (run : (walkOnce policy pinned t known).run' w = (.ok st, w')) : RespectsMode policy st := by
  dsimp only [walkOnce] at run
  refine (walkForest_respects t.children ?_ ?_ run).1
  · exact ⟨fun _ member => by simp at member, fun _ member => by simp at member⟩
  · exact ⟨by simp, fun _ member => by simp at member, fun _ _ member => by simp at member⟩

theorem rewalk_walked {t : Tree} : ∀ (fuel : Nat) (pinned : Option (List (String × String)))
    (seen : List (List (String × String))) (known : Classified) {g : Gathered} {w w' : Workspace},
    (rewalk policy t fuel pinned seen known).run' w = (.ok g, w') →
    ∃ pinned' known' st w₁ w₂, (walkOnce policy pinned' t known').run' w₁ = (.ok st, w₂) ∧ g = st.gathered
  | 0, pinned, _, known, g, w, w', run => by
    simp only [rewalk] at run
    obtain ⟨st, w₁, walked, rest⟩ := Step.run'_bind_eq_ok run
    simp only [Step.run'_pure, Prod.mk.injEq, Except.ok.injEq] at rest
    exact ⟨pinned, known, st, w, w₁, walked, rest.1.symm⟩
  | fuel + 1, pinned, seen, known, g, w, w', run => by
    simp only [rewalk] at run
    obtain ⟨st, w₁, walked, rest⟩ := Step.run'_bind_eq_ok run
    split at rest
    all_goals
      split at rest
      · simp only [Step.run'_pure, Prod.mk.injEq, Except.ok.injEq] at rest
        exact ⟨_, known, st, w, w₁, walked, rest.1.symm⟩
      · obtain ⟨_, w₂, -, again⟩ := Step.run'_bind_eq_ok rest
        exact rewalk_walked fuel _ _ _ again

end Walks

section Decisions

variable (xs : List (String × Decision)) (d : Decision)

theorem find?_setDecision_self (id : String) : (setDecision xs id d).find? (·.1 == id) = some (id, d) := by
  unfold setDecision
  split
  · rename_i present
    rw [List.find?_map]
    have same : ((fun e : String × Decision => e.1 == id) ∘ fun e => if e.1 == id then (id, d) else e) =
        fun e => e.1 == id := by
      funext e
      by_cases keyed : e.1 = id <;> simp [keyed]
    rw [same]
    obtain ⟨e, member, keyed⟩ := List.any_eq_true.mp present
    obtain ⟨e', hit⟩ : ∃ e', xs.find? (·.1 == id) = some e' :=
      Option.isSome_iff_exists.mp (List.find?_isSome.mpr ⟨e, member, keyed⟩)
    have keyed' : e'.1 = id := by simpa using List.find?_some hit
    simp [hit, keyed']
  · rename_i absent
    have none : xs.find? (·.1 == id) = none :=
      List.find?_eq_none.mpr fun e member keyed => absent (List.any_eq_true.mpr ⟨e, member, keyed⟩)
    simp [List.find?_append, none]

theorem find?_setDecision_other {id id' : String} (other : id' ≠ id) :
    (setDecision xs id d).find? (·.1 == id') = xs.find? (·.1 == id') := by
  unfold setDecision
  split
  · rw [List.find?_map]
    have same : ((fun e : String × Decision => e.1 == id') ∘ fun e => if e.1 == id then (id, d) else e) =
        fun e => e.1 == id' := by
      funext e
      by_cases keyed : e.1 = id <;> simp [keyed]
    rw [same]
    cases hit : xs.find? (·.1 == id') with
    | none => rfl
    | some e =>
      have keyed : e.1 = id' := by simpa using List.find?_some hit
      have : e.1 ≠ id := by rw [keyed]; exact other
      simp [this]
  · simp [List.find?_append, Ne.symm other]

end Decisions

section Final

variable (policy : Policy) (pluginIds : List String)

theorem find?_finalDecisions_untouched : ∀ (chosen : List (String × Facade)) (acc : List (String × Decision))
    (id : String), (∀ f ∈ chosen.map (·.2), f.id ≠ id) →
    (chosen.foldl (fun acc (_, f) => setDecision acc f.id (finalDecision policy pluginIds f)) acc).find? (·.1 == id) =
      acc.find? (·.1 == id)
  | [], _, _, _ => rfl
  | (k, f) :: chosen, acc, id, untouched => by
    rw [List.foldl_cons, find?_finalDecisions_untouched chosen _ id fun f' member =>
      untouched f' (List.mem_cons_of_mem _ member)]
    exact find?_setDecision_other acc _ (Ne.symm (untouched f List.mem_cons_self))

theorem find?_finalDecisions_chosen : ∀ (chosen : List (String × Facade)) (acc : List (String × Decision))
    (f : Facade), f ∈ chosen.map (·.2) → ∃ f' ∈ chosen.map (·.2), f'.id = f.id ∧
    (chosen.foldl (fun acc (_, f) => setDecision acc f.id (finalDecision policy pluginIds f)) acc).find? (·.1 == f.id) =
      some (f.id, finalDecision policy pluginIds f')
  | [], _, _, member => absurd member List.not_mem_nil
  | (k, head) :: chosen, acc, f, member => by
    rw [List.foldl_cons]
    by_cases later : ∃ f'' ∈ chosen.map (·.2), f''.id = f.id
    · obtain ⟨f'', member'', same⟩ := later
      obtain ⟨f', member', sameId, found⟩ := find?_finalDecisions_chosen chosen _ f'' member''
      rw [same] at sameId found
      exact ⟨f', List.mem_cons_of_mem _ member', sameId, found⟩
    · -- No later artifact has the id, so it is the head's, written last for that id.
      simp only [not_exists, not_and] at later
      have isHead : head = f := by
        rcases List.mem_cons.mp member with first | rest
        · exact first.symm
        · exact absurd rfl (later f rest)
      subst isHead
      refine ⟨head, List.mem_cons_self, rfl, ?_⟩
      rw [find?_finalDecisions_untouched policy pluginIds chosen _ head.id later]
      exact find?_setDecision_self acc _ head.id

end Final

section Respects

variable {policy : Policy} {st : WalkState}

theorem RespectsMode.not_noted (respects : RespectsMode policy st) {id : String}
    (library : verdict st.classified id = some false) : id ∉ st.gathered.pluginIds := fun noted => by
  simpa [library] using respects.notedPlugins id noted

theorem finalDecision_of_libraries {f : Facade} (respects : RespectsMode policy st) (fits : FitsMode policy st f)
    (mode : policy.mode = .libraries) :
    finalDecision policy st.gathered.pluginIds f =
      if policy.hostCore.covers f.trail then .coveredByHost else .bundle := by
  have clear : throughPlugin f.trail st.gathered.pluginIds = false := by
    unfold throughPlugin
    rw [List.any_eq_false]
    intro id between noted
    have library : verdict st.classified id = some false := by
      simpa [mode, Mode.selectsPlugins] using fits.betweenSelected id between
    exact respects.not_noted library (List.contains_iff_mem.mp noted)
  simp only [finalDecision, mode, clear, Bool.false_eq_true, if_false]

theorem finalDecision_of_plugins (pluginIds : List String) (f : Facade) (mode : policy.mode = .plugins) :
    finalDecision policy pluginIds f = .plugin := by
  simp only [finalDecision, mode]

end Respects

/-- The selection a traversal builds from the last walk once the selected artifacts are put in
order: the final decisions are written over the walk's reasons in that order. -/
def Gathered.finish (policy : Policy) (g : Gathered) (chosen : List (String × Facade)) : Selection :=
  { chosen, pluginIds := g.pluginIds, visited := g.visited.toList,
    decisions := chosen.foldl (fun acc (_, f) => setDecision acc f.id (finalDecision policy g.pluginIds f)) g.reasons }

theorem traverse_run {t : Tree} {policy : Policy} {s : Selection} {w w' : Workspace}
    (run : (traverse t policy).run' w = (.ok s, w')) :
    ∃ g w₁, (rewalk policy t (walkBound t) none [] []).run' w = (.ok g, w₁) ∧ s.chosen.Perm g.selection ∧
      s.pluginIds = g.pluginIds ∧
      s.decisions = s.chosen.foldl (fun acc (_, f) => setDecision acc f.id (finalDecision policy g.pluginIds f))
        g.reasons := by
  simp only [traverse] at run
  obtain ⟨g, w₁, walked, rest⟩ := Step.run'_bind_eq_ok run
  simp only [Step.run'_pure, Prod.mk.injEq, Except.ok.injEq] at rest
  rw [← rest.1]
  exact ⟨g, w₁, walked, List.mergeSort_perm _ _, rfl, rfl⟩

/-- A selection that respects its policy's mode. Every selected artifact passed the scope and
optional checks. In `libraries` mode no selected artifact, and no id between the root and it,
is a plugin, and it is decided bundled or covered by the host. In `plugins` mode all of them
are plugins, and it is decided a plugin. A bundled artifact shares its id with a selected
artifact whose trail the host core does not cover, and is that artifact when selected ids
are distinct. -/
structure Selection.Respects (policy : Policy) (s : Selection) : Prop where
  inScope : ∀ f ∈ s.chosen.map (·.2), ∃ sc, f.scope = some sc ∧ sc ∈ policy.scopes
  optionalAllowed : ∀ f ∈ s.chosen.map (·.2), f.optional = true → policy.includeOptional = true
  libraries : policy.mode = .libraries → ∀ f ∈ s.chosen.map (·.2),
    f.id ∉ s.pluginIds ∧ (∀ id ∈ (f.trail.drop 1).dropLast, id ∉ s.pluginIds) ∧
      (s.decisionOf f.id = some .bundle ∨ s.decisionOf f.id = some .coveredByHost)
  plugins : policy.mode = .plugins → ∀ f ∈ s.chosen.map (·.2),
    f.id ∈ s.pluginIds ∧ (∀ id ∈ (f.trail.drop 1).dropLast, id ∈ s.pluginIds) ∧ s.decisionOf f.id = some .plugin
  bundledShared : ∀ f ∈ s.bundled, ∃ f' ∈ s.chosen.map (·.2), f'.id = f.id ∧ policy.hostCore.covers f'.trail = false
  bundledUncovered : (s.chosen.map (·.2.id)).Nodup → ∀ f ∈ s.bundled, policy.hostCore.covers f.trail = false

/-- How a selection reads the last walk of its traversal: the walk's state respects the mode,
every selected artifact fits the mode in it, the selection reports the walk's plugins, and
each selected id reads the final decision of a selected artifact with that id. -/
structure Selection.ReadsWalk (policy : Policy) (s : Selection) (st : WalkState) : Prop where
  respects : RespectsMode policy st
  fits : ∀ f ∈ s.chosen.map (·.2), FitsMode policy st f
  plugins : s.pluginIds = st.gathered.pluginIds
  decided : ∀ f ∈ s.chosen.map (·.2), ∃ f' ∈ s.chosen.map (·.2), f'.id = f.id ∧
    s.decisionOf f.id = some (finalDecision policy st.gathered.pluginIds f')

theorem Selection.ReadsWalk.of_walk {policy : Policy} {s : Selection} {st : WalkState}
    (respects : RespectsMode policy st) (perm : s.chosen.Perm st.gathered.selection)
    (plugins : s.pluginIds = st.gathered.pluginIds)
    (decisions : s.decisions = s.chosen.foldl (fun acc (_, f) =>
      setDecision acc f.id (finalDecision policy st.gathered.pluginIds f)) st.gathered.reasons) :
    s.ReadsWalk policy st := by
  refine ⟨respects, fun f member => ?_, plugins, fun f member => ?_⟩
  · obtain ⟨e, chosen, named⟩ := List.mem_map.mp member
    exact named ▸ respects.selected e (perm.mem_iff.mp chosen)
  · -- The decisions are written over the walk's reasons, one per selected artifact.
    obtain ⟨f', member', same, found⟩ :=
      find?_finalDecisions_chosen policy st.gathered.pluginIds s.chosen st.gathered.reasons f member
    refine ⟨f', member', same, ?_⟩
    rw [Selection.decisionOf, decisions, found]
    rfl

theorem traverse_reads_walk {t : Tree} {policy : Policy} {s : Selection} {w w' : Workspace}
    (run : (traverse t policy).run' w = (.ok s, w')) : ∃ st, s.ReadsWalk policy st := by
  obtain ⟨g, w₁, walked, perm, plugins, decisions⟩ := traverse_run run
  obtain ⟨_, _, st, _, _, last, gathered⟩ := rewalk_walked _ _ _ _ walked
  subst gathered
  exact ⟨st, .of_walk (walkOnce_respects last) perm plugins decisions⟩

namespace Selection.ReadsWalk

variable {policy : Policy} {s : Selection} {st : WalkState}

theorem bundled_shared (reads : s.ReadsWalk policy st) :
    ∀ f ∈ s.bundled, ∃ f' ∈ s.chosen.map (·.2), f'.id = f.id ∧ policy.hostCore.covers f'.trail = false := by
  intro f bundled
  obtain ⟨member, bundle⟩ := List.mem_filter.mp bundled
  obtain ⟨f', member', same, read⟩ := reads.decided f member
  refine ⟨f', member', same, ?_⟩
  rw [read] at bundle
  cases mode : policy.mode
  · rw [finalDecision_of_libraries reads.respects (reads.fits f' member') mode] at bundle
    cases covered : policy.hostCore.covers f'.trail
    · rfl
    · simp [covered] at bundle
  · simp [finalDecision_of_plugins st.gathered.pluginIds f' mode] at bundle

theorem inLibraries (reads : s.ReadsWalk policy st) (mode : policy.mode = .libraries) :
    ∀ f ∈ s.chosen.map (·.2), f.id ∉ s.pluginIds ∧ (∀ id ∈ (f.trail.drop 1).dropLast, id ∉ s.pluginIds) ∧
      (s.decisionOf f.id = some .bundle ∨ s.decisionOf f.id = some .coveredByHost) := by
  intro f member
  have library : ∀ id, verdict st.classified id = some policy.mode.selectsPlugins → id ∉ s.pluginIds :=
    fun id selected => reads.plugins ▸ reads.respects.not_noted (by simpa [mode, Mode.selectsPlugins] using selected)
  obtain ⟨f', member', _, read⟩ := reads.decided f member
  refine ⟨library f.id (reads.fits f member).verdictSelected,
    fun id between => library id ((reads.fits f member).betweenSelected id between), ?_⟩
  rw [read, finalDecision_of_libraries reads.respects (reads.fits f' member') mode]
  split
  · exact .inr rfl
  · exact .inl rfl

theorem inPlugins (reads : s.ReadsWalk policy st) (mode : policy.mode = .plugins) :
    ∀ f ∈ s.chosen.map (·.2), f.id ∈ s.pluginIds ∧ (∀ id ∈ (f.trail.drop 1).dropLast, id ∈ s.pluginIds) ∧
      s.decisionOf f.id = some .plugin := by
  intro f member
  obtain ⟨f', _, _, read⟩ := reads.decided f member
  obtain ⟨noted, between⟩ := (reads.fits f member).pluginsNoted mode
  exact ⟨reads.plugins ▸ noted, reads.plugins ▸ between, by rw [read, finalDecision_of_plugins _ _ mode]⟩

end Selection.ReadsWalk

theorem Selection.bundled_uncovered {policy : Policy} {s : Selection}
    (shared : ∀ f ∈ s.bundled, ∃ f' ∈ s.chosen.map (·.2), f'.id = f.id ∧ policy.hostCore.covers f'.trail = false)
    (distinct : (s.chosen.map (·.2.id)).Nodup) : ∀ f ∈ s.bundled, policy.hostCore.covers f.trail = false := by
  intro f bundled
  obtain ⟨f', member', same, uncovered⟩ := shared f bundled
  obtain ⟨e', chosen', named'⟩ := List.mem_map.mp member'
  obtain ⟨e, chosen, named⟩ := List.mem_map.mp (List.mem_filter.mp bundled).1
  have sameEntry : e' = e := List.inj_on_of_nodup_map distinct chosen' chosen (by simp [named, named', same])
  rw [← named, ← sameEntry, named']
  exact uncovered

/-- Every traversal that returns a selection respects the policy's mode. -/
theorem traverse_respects_mode (t : Tree) (policy : Policy) {s : Selection} {w w' : Workspace}
    (run : (traverse t policy).run' w = (.ok s, w')) : s.Respects policy := by
  obtain ⟨st, reads⟩ := traverse_reads_walk run
  refine ⟨fun f member => (reads.fits f member).inScope, fun f member => (reads.fits f member).optionalAllowed,
    reads.inLibraries, reads.inPlugins, reads.bundled_shared, ?_⟩
  exact Selection.bundled_uncovered reads.bundled_shared

theorem traverse_of_sorted {t : Tree} {policy : Policy} {g : Gathered} {w w₁ : Workspace}
    (run : (rewalk policy t (walkBound t) none [] []).run' w = (.ok g, w₁))
    (sorted : (g.selection.map (·.1)).Pairwise (· < ·)) :
    (traverse t policy).run' w = (.ok (g.finish policy g.selection), w₁) := by
  simp only [traverse, Step.run'_bind, run, Step.run'_pure]
  rw [List.mergeSort_of_pairwise]
  · rfl
  · rw [List.pairwise_map] at sorted
    exact sorted.imp fun lt => by simp [lt]

/-- Two artifacts whose group and artifact ids, joined with colons, spell the same id
`g:x:y:jar:1`: one below the host core `h:jenkins-core`, one directly under the root. -/
def collidingIds : Tree :=
  .node { coordinate := { groupId := "r", artifactId := "app", version := "1" } }
    [libraryNode "h" "jenkins-core" "1" [libraryNode "g" "x:y" "1" []], libraryNode "g:x" "y" "1" []]

def hostCoordinatePolicy : Policy := { hostCore := .coordinate "h:jenkins-core" }

theorem collidingIds_traversed : ∃ s w, (traverse collidingIds hostCoordinatePolicy).run' { store := {} } = (.ok s, w) ∧
    s.bundled.map (fun f => (f.id, hostCoordinatePolicy.hostCore.covers f.trail)) =
      [("g:x:y:jar:1", true), ("g:x:y:jar:1", false)] := by
  have computed : ((rewalk hostCoordinatePolicy collidingIds (walkBound collidingIds) none [] []).run'
      { store := {} }).1.toOption.map (fun g => (g.selection.map (·.1),
        (g.finish hostCoordinatePolicy g.selection).bundled.map fun f => (f.id, hostCoordinatePolicy.hostCore.covers f.trail))) =
      some (["jenkins-core", "x:y", "y"], [("g:x:y:jar:1", true), ("g:x:y:jar:1", false)]) := by
    decide +kernel
  obtain ⟨g, walked, read⟩ := Except.exists_of_toOption_map computed
  simp only [Prod.mk.injEq] at read
  have run : (rewalk hostCoordinatePolicy collidingIds (walkBound collidingIds) none [] []).run' { store := {} } =
      (.ok g, ((rewalk hostCoordinatePolicy collidingIds (walkBound collidingIds) none [] []).run' { store := {} }).2) := by
    rw [← walked]
  have sorted : (g.selection.map (·.1)).Pairwise (· < ·) := by
    rw [read.1]
    decide
  exact ⟨_, _, traverse_of_sorted run sorted, read.2⟩

theorem colliding_selection_respects_mode : ∃ s w,
    (traverse collidingIds hostCoordinatePolicy).run' { store := {} } = (.ok s, w) ∧ s.Respects hostCoordinatePolicy := by
  obtain ⟨s, w, run, -⟩ := collidingIds_traversed
  exact ⟨s, w, run, traverse_respects_mode collidingIds hostCoordinatePolicy run⟩

theorem bundled_artifact_may_be_covered : ∃ s w,
    (traverse collidingIds hostCoordinatePolicy).run' { store := {} } = (.ok s, w) ∧
      ∃ f ∈ s.bundled, hostCoordinatePolicy.hostCore.covers f.trail = true := by
  obtain ⟨s, w, run, bundled⟩ := collidingIds_traversed
  have covered : ("g:x:y:jar:1", true) ∈ s.bundled.map fun f => (f.id, hostCoordinatePolicy.hostCore.covers f.trail) := by
    rw [bundled]
    exact List.mem_cons_self
  obtain ⟨f, member, named⟩ := List.mem_map.mp covered
  exact ⟨s, w, run, f, member, (Prod.mk.inj named).2⟩

end PluginPack.Traverse
