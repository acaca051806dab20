import PluginPack.Proofs.Step
import PluginPack.Traverse.Walk

/-! One walk over the resolved tree, taken apart. Accepting a node is the scope and
optional checks, one verdict from the cache of classifications, and then what the mode
does with that verdict. A walk keeps three things from it: the selection holds one facade
per artifact id, each made at a node reached through ancestors that the walk selected and
was let descend into by the pinned versions; the cache of verdicts only grows; and
walking again, with a cache that holds every verdict of the first walk and pinned
versions that let it descend into the same artifacts, gives the same result. -/

namespace PluginPack.Resolve

/-- `ancestors` lead down a forest to `n`: the first is one of its roots, each next one a
child of the one before, and `n` a child of the last, or a root when there is none. -/
inductive Tree.Reaches : List Tree → List NodeInfo → NodeInfo → Prop
  | root {n : NodeInfo} {cs ts : List Tree} : Tree.node n cs ∈ ts → Tree.Reaches ts [] n
  | down {a n : NodeInfo} {cs ts : List Tree} {ancestors : List NodeInfo} :
      Tree.node a cs ∈ ts → Tree.Reaches cs ancestors n → Tree.Reaches ts (a :: ancestors) n

theorem Tree.Reaches.mono {ts ts' : List Tree} {ancestors : List NodeInfo} {n : NodeInfo}
    (reach : Tree.Reaches ts ancestors n) (sub : ts ⊆ ts') : Tree.Reaches ts' ancestors n := by
  cases reach with
  | root member => exact .root (sub member)
  | down member rest => exact .down (sub member) rest

end PluginPack.Resolve

namespace PluginPack.Traverse

open PluginPack.Artifact
open PluginPack.Resolve

section Selection

variable (xs : List (String × Facade)) (f : Facade)

theorem putSelected_keys : (putSelected xs f).map Prod.fst =
    if xs.any (·.1 == f.artifactId) then xs.map Prod.fst else xs.map Prod.fst ++ [f.artifactId] := by
  unfold putSelected
  split
  · simp [Function.comp_def, apply_ite]
  · simp

theorem mem_keys_putSelected (k : String) :
    k ∈ (putSelected xs f).map Prod.fst ↔ k ∈ xs.map Prod.fst ∨ k = f.artifactId := by
  rw [putSelected_keys]
  split
  · rename_i present
    obtain ⟨e, member, keyed⟩ := List.any_eq_true.mp present
    have old : f.artifactId ∈ xs.map Prod.fst := List.mem_map.mpr ⟨e, member, by simpa using keyed⟩
    constructor
    · exact .inl
    · rintro (found | rfl)
      · exact found
      · exact old
  · simp

theorem keys_nodup_putSelected (nodup : (xs.map Prod.fst).Nodup) :
    ((putSelected xs f).map Prod.fst).Nodup := by
  rw [putSelected_keys]
  split
  · exact nodup
  · rename_i absent
    have fresh : f.artifactId ∉ xs.map Prod.fst := by
      intro old
      obtain ⟨e, member, keyed⟩ := List.mem_map.mp old
      exact absent (List.any_eq_true.mpr ⟨e, member, by simp [keyed]⟩)
    refine List.nodup_append.mpr ⟨nodup, by simp, fun k old k' single same => ?_⟩
    rw [List.mem_singleton.mp single] at same
    exact fresh (same ▸ old)

theorem mem_putSelected {e : String × Facade} (member : e ∈ putSelected xs f) :
    e ∈ xs ∨ e = (f.artifactId, f) := by
  unfold putSelected at member
  split at member
  · obtain ⟨old, oldMember, replaced⟩ := List.mem_map.mp member
    by_cases keyed : old.1 = f.artifactId
    · simp only [keyed, beq_self_eq_true, if_true] at replaced
      exact .inr replaced.symm
    · simp only [beq_iff_eq, keyed, if_false] at replaced
      exact .inl (replaced ▸ oldMember)
  · simpa using member

end Selection

theorem Gathered.mergeNewest_selection {g g' : Gathered} {f : Facade} {w w' : Workspace}
    (run : (g.mergeNewest f).run' w = (.ok g', w')) :
    (g'.selection = g.selection ∨ g'.selection = putSelected g.selection f) ∧
      f.artifactId ∈ g'.selection.map Prod.fst := by
  unfold Gathered.mergeNewest at run
  split at run
  · simp only [Step.run'_pure, Prod.mk.injEq, Except.ok.injEq] at run
    rw [← run.1]
    exact ⟨.inr rfl, (mem_keys_putSelected _ _ _).mpr (.inr rfl)⟩
  · rename_i k existing found
    have selected : f.artifactId ∈ g.selection.map Prod.fst :=
      List.mem_map.mpr ⟨(k, existing), List.mem_of_find?_eq_some found, by simpa using List.find?_some found⟩
    simp only [Step.run'_bind, Step.ofOutcome_run'] at run
    split at run
    · rename_i order _
      split at run
      · split at run <;> simp only [Step.run'_bind, report_run', Step.run'_pure, Prod.mk.injEq,
          Except.ok.injEq] at run <;> rw [← run.1] <;>
          exact ⟨.inr rfl, (mem_keys_putSelected _ _ _).mpr (.inr rfl)⟩
      · simp only [Step.run'_pure, Prod.mk.injEq, Except.ok.injEq] at run
        rw [← run.1]
        exact ⟨.inl rfl, selected⟩
    · simp at run

theorem Gathered.mergeNewest_outcome (g : Gathered) (f : Facade) (w w' : Workspace) :
    ((g.mergeNewest f).run' w).1 = ((g.mergeNewest f).run' w').1 := by
  unfold Gathered.mergeNewest
  split
  · rfl
  · rename_i k existing _
    simp only [Step.run'_bind, Step.ofOutcome_run']
    cases compareVersions f.version existing.version with
    | error e => rfl
    | ok order =>
      simp only
      split
      · split <;> simp
      · rfl

def verdict (known : Classified) (id : String) : Option Bool :=
  (known.find? (·.1 == id)).map (·.2)

def Covers (known earlier : Classified) : Prop :=
  ∀ id b, verdict earlier id = some b → verdict known id = some b

theorem Covers.refl (known : Classified) : Covers known known := fun _ _ => id

theorem Covers.trans {a b c : Classified} (later : Covers a b) (earlier : Covers b c) : Covers a c :=
  fun id v held => later id v (earlier id v held)

theorem classify_cached (policy : Policy) (f : Facade) {known : Classified} {b : Bool}
    (hit : verdict known f.id = some b) (w : Workspace) :
    (classify policy f known).run' w = (.ok (b, known), w) := by
  obtain ⟨⟨id, b'⟩, found, same⟩ := Option.map_eq_some_iff.mp hit
  cases same
  unfold classify
  rw [found]
  rfl

theorem classify_verdict {policy : Policy} {f : Facade} {known known' : Classified} {b : Bool}
    {w w' : Workspace} (run : (classify policy f known).run' w = (.ok (b, known'), w')) :
    Covers known' known ∧ verdict known' f.id = some b := by
  unfold classify at run
  split at run
  · rename_i id b' found
    simp only [Step.run'_pure, Prod.mk.injEq, Except.ok.injEq] at run
    obtain ⟨⟨rfl, rfl⟩, -⟩ := run
    exact ⟨Covers.refl _, by simp [verdict, found]⟩
  · rename_i missing
    obtain rfl : known' = known ++ [(f.id, b)] := by
      split at run <;> simp only [Step.run'_bind, currentStore_run', Step.ofOutcome_run'] at run <;>
        split at run <;> simp only [Step.run'_pure, Prod.mk.injEq, Except.ok.injEq, reduceCtorEq, false_and] at run <;>
        (obtain ⟨⟨rfl, rfl⟩, -⟩ := run; rfl)
    refine ⟨fun id v held => ?_, by simp [verdict, List.find?_append, missing]⟩
    obtain ⟨e, found, rfl⟩ := Option.map_eq_some_iff.mp held
    simp [verdict, List.find?_append, found]

def refusal (policy : Policy) (n : NodeInfo) : Option Decision :=
  let wanted := match n.coordinate.scope with
    | some s => policy.scopes.contains s
    | none => false
  if !wanted then some .scope
  else if n.coordinate.optional && !policy.includeOptional then some .optional
  else none

/-- What accepting a node that passed those checks does once its verdict is known: the
mode turns it away, or it is merged and the walk descends into it when the pinned
versions let it. -/
def Gathered.consider (g : Gathered) (policy : Policy) (pinned : Option (List (String × String)))
    (f : Facade) (plugin : Bool) : Step (Bool × Gathered) :=
  let g := if plugin && !g.pluginIds.contains f.id then { g with pluginIds := g.pluginIds ++ [f.id] } else g
  match policy.mode with
  | .libraries =>
    if plugin then pure (false, { g with reasons := keepFirst g.reasons f.id .plugin })
    else do
      let g ← g.mergeNewest f
      pure (descends pinned f, g)
  | .plugins =>
    if !plugin then pure (false, g)
    else do
      let g ← g.mergeNewest f
      pure (descends pinned f, g)

theorem acceptNode_eq (policy : Policy) (pinned : Option (List (String × String))) (trail : List String)
    (n : NodeInfo) (st : WalkState) :
    acceptNode policy pinned trail n st =
      (let g := { st.gathered with visited := st.gathered.visited.push n.id }
      let f := Facade.make n.coordinate n.file trail n.packaging
      match refusal policy n with
      | some d => pure (false, { st with gathered := { g with reasons := keepFirst g.reasons n.id d } })
      | none => do
        let (plugin, classified) ← classify policy f st.classified
        let (accepted, g) ← g.consider policy pinned f plugin
        pure (accepted, { gathered := g, classified })) := by
  unfold acceptNode refusal
  cases scope : n.coordinate.scope with
  | none => rfl
  | some s =>
    dsimp only
    cases wanted : policy.scopes.contains s
    · rfl
    · cases optional : (n.coordinate.optional && !policy.includeOptional)
      · simp only [Bool.not_true, Bool.false_eq_true, if_false]
        refine congrArg (fun k => classify policy _ st.classified >>= k) (funext fun verdict => ?_)
        obtain ⟨plugin, classified⟩ := verdict
        cases mode : policy.mode <;> cases plugin <;> simp [Gathered.consider, mode]
      · rfl

theorem Gathered.consider_selection {g g' : Gathered} {policy : Policy}
    {pinned : Option (List (String × String))} {f : Facade} {plugin accepted : Bool} {w w' : Workspace}
    (run : (g.consider policy pinned f plugin).run' w = (.ok (accepted, g'), w')) :
    (g'.selection = g.selection ∨ g'.selection = putSelected g.selection f) ∧
      (accepted = true → descends pinned f = true ∧ f.artifactId ∈ g'.selection.map Prod.fst) := by
  unfold Gathered.consider at run
  generalize noted : (if plugin && !g.pluginIds.contains f.id then
    { g with pluginIds := g.pluginIds ++ [f.id] } else g) = g₁ at run
  have same : g₁.selection = g.selection := by
    rw [← noted]
    split <;> rfl
  have refused : ∀ g₂ : Gathered, g₂.selection = g.selection → (.ok (false, g₂), w) = ((.ok (accepted, g'), w') :
      Except PackagingError (Bool × Gathered) × Workspace) →
      (g'.selection = g.selection ∨ g'.selection = putSelected g.selection f) ∧
        (accepted = true → descends pinned f = true ∧ f.artifactId ∈ g'.selection.map Prod.fst) := by
    intro g₂ kept ran
    simp only [Prod.mk.injEq, Except.ok.injEq] at ran
    obtain ⟨⟨rfl, rfl⟩, -⟩ := ran
    exact ⟨.inl kept, nofun⟩
  have merged : (Prod.mk (descends pinned f) <$> g₁.mergeNewest f).run' w = (.ok (accepted, g'), w') →
      (g'.selection = g.selection ∨ g'.selection = putSelected g.selection f) ∧
        (accepted = true → descends pinned f = true ∧ f.artifactId ∈ g'.selection.map Prod.fst) := by
    intro ran
    obtain ⟨g₂, mergeRun, result⟩ := Step.run'_map_eq_ok ran
    simp only [Prod.mk.injEq] at result
    obtain ⟨rfl, rfl⟩ := result
    obtain ⟨changed, selected⟩ := Gathered.mergeNewest_selection mergeRun
    rw [same] at changed
    exact ⟨changed, fun descended => ⟨descended, selected⟩⟩
  cases mode : policy.mode <;> cases plugin <;> simp only [mode, Bool.not_true, Bool.not_false, if_true,
    if_false, Bool.false_eq_true, bind_pure_comp, Step.run'_pure] at run
  · exact merged run
  · exact refused { g₁ with reasons := keepFirst g₁.reasons f.id .plugin } same run
  · exact refused g₁ same run
  · exact merged run

theorem Gathered.consider_outcome (g : Gathered) (policy : Policy) {pinned pinned' : Option (List (String × String))}
    (f : Facade) (plugin : Bool) (same : descends pinned' f = descends pinned f) (w w' : Workspace) :
    ((g.consider policy pinned' f plugin).run' w').1 = ((g.consider policy pinned f plugin).run' w).1 := by
  unfold Gathered.consider
  rw [same]
  cases policy.mode <;> cases plugin <;> simp only [Bool.not_true, Bool.not_false, if_true, if_false,
    Bool.false_eq_true, bind_pure_comp, Step.run'_pure]
  all_goals rw [Step.run'_map_fst, Step.run'_map_fst, Gathered.mergeNewest_outcome _ _ w' w]

theorem acceptNode_cases {policy : Policy} {pinned : Option (List (String × String))} {trail : List String}
    {n : NodeInfo} {st st' : WalkState} {accepted : Bool} {w w' : Workspace}
    (run : (acceptNode policy pinned trail n st).run' w = (.ok (accepted, st'), w')) :
    (∃ d, refusal policy n = some d ∧ accepted = false ∧ st' = { st with gathered :=
      { st.gathered with visited := st.gathered.visited.push n.id, reasons := keepFirst st.gathered.reasons n.id d } }) ∨
    (refusal policy n = none ∧ ∃ plugin w₁,
      (classify policy (Facade.make n.coordinate n.file trail n.packaging) st.classified).run' w =
        (.ok (plugin, st'.classified), w₁) ∧
      ({ st.gathered with visited := st.gathered.visited.push n.id }.consider policy pinned
        (Facade.make n.coordinate n.file trail n.packaging) plugin).run' w₁ = (.ok (accepted, st'.gathered), w')) := by
  rw [acceptNode_eq] at run
  dsimp only at run
  split at run
  · rename_i d refused
    simp only [Step.run'_pure, Prod.mk.injEq, Except.ok.injEq] at run
    obtain ⟨⟨rfl, rfl⟩, -⟩ := run
    exact .inl ⟨d, refused, rfl, rfl⟩
  · rename_i passed
    simp only [Step.run'_bind] at run
    split at run
    · rename_i verdict w₁ classified
      obtain ⟨plugin, known⟩ := verdict
      dsimp only at run
      split at run
      · rename_i result w₂ considered
        obtain ⟨accepted', g⟩ := result
        simp only [Step.run'_pure, Prod.mk.injEq, Except.ok.injEq] at run
        obtain ⟨⟨rfl, rfl⟩, rfl⟩ := run
        exact .inr ⟨passed, plugin, w₁, classified, considered⟩
      · simp at run
    · simp at run

section Accept

variable {policy : Policy} {pinned : Option (List (String × String))} {trail : List String} {n : NodeInfo}
  {st st' : WalkState} {accepted : Bool} {w w' : Workspace}

theorem acceptNode_covers (run : (acceptNode policy pinned trail n st).run' w = (.ok (accepted, st'), w')) :
    Covers st'.classified st.classified := by
  rcases acceptNode_cases run with ⟨d, -, -, rfl⟩ | ⟨-, plugin, w₁, classified, -⟩
  · exact Covers.refl _
  · exact (classify_verdict classified).1

theorem acceptNode_selection (run : (acceptNode policy pinned trail n st).run' w = (.ok (accepted, st'), w')) :
    (st'.gathered.selection = st.gathered.selection ∨
      st'.gathered.selection = putSelected st.gathered.selection (Facade.make n.coordinate n.file trail n.packaging)) ∧
    (accepted = true → descends pinned (Facade.make n.coordinate n.file trail n.packaging) = true ∧
      n.coordinate.artifactId ∈ st'.gathered.selection.map Prod.fst) := by
  rcases acceptNode_cases run with ⟨d, -, rfl, rfl⟩ | ⟨-, plugin, w₁, -, considered⟩
  · exact ⟨.inl rfl, nofun⟩
  · have consideredSelection := Gathered.consider_selection considered
    exact consideredSelection

theorem acceptNode_replay {pinned' : Option (List (String × String))}
    (same : ∀ f, descends pinned' f = descends pinned f)
    (run : (acceptNode policy pinned trail n st).run' w = (.ok (accepted, st'), w'))
    {known : Classified} (covers : Covers known st'.classified) (w₂ : Workspace) :
    ∃ w₃, (acceptNode policy pinned' trail n { st with classified := known }).run' w₂ =
      (.ok (accepted, { st' with classified := known }), w₃) := by
  rw [acceptNode_eq]
  rcases acceptNode_cases run with ⟨d, refused, rfl, rfl⟩ | ⟨passed, plugin, w₁, classified, considered⟩
  · exact ⟨w₂, by simp [refused]⟩
  · have cached := classify_cached policy (Facade.make n.coordinate n.file trail n.packaging)
      (covers _ _ (classify_verdict classified).2) w₂
    have outcome := Gathered.consider_outcome { st.gathered with visited := st.gathered.visited.push n.id } policy
      (Facade.make n.coordinate n.file trail n.packaging) plugin (same _) w₁ w₂
    rw [considered] at outcome
    simp only [passed, Step.run'_bind, cached]
    rcases replayed : ({ st.gathered with visited := st.gathered.visited.push n.id }.consider policy pinned'
      (Facade.make n.coordinate n.file trail n.packaging) plugin).run' w₂ with ⟨result, w₃⟩
    rw [replayed] at outcome
    obtain rfl : result = .ok (accepted, st'.gathered) := outcome
    rw [replayed]
    exact ⟨w₃, rfl⟩

end Accept

section Walks

variable {policy : Policy} {pinned : Option (List (String × String))}

mutual

theorem walkBelow_covers : ∀ (t : Tree) {trail : List String} {st st' : WalkState} {w w' : Workspace},
    (walkBelow policy pinned trail t st).run' w = (.ok st', w') → Covers st'.classified st.classified
  | .node n cs, trail, st, st', w, w', run => by
    simp only [walkBelow] at run
    obtain ⟨⟨accepted, st₁⟩, w₁, accept, run⟩ := Step.run'_bind_eq_ok run
    have first := acceptNode_covers accept
    cases accepted
    · simp only [Bool.false_eq_true, if_false, Step.run'_pure, Prod.mk.injEq, Except.ok.injEq] at run
      obtain ⟨rfl, -⟩ := run
      exact first
    · exact (walkForest_covers cs run).trans first

theorem walkForest_covers : ∀ (ts : List Tree) {trail : List String} {st st' : WalkState} {w w' : Workspace},
    (walkForest policy pinned trail ts st).run' w = (.ok st', w') → Covers st'.classified st.classified
  | [], trail, st, st', w, w', run => by
    simp only [walkForest, Step.run'_pure, Prod.mk.injEq, Except.ok.injEq] at run
    obtain ⟨rfl, -⟩ := run
    exact Covers.refl _
  | t :: ts, trail, st, st', w, w', run => by
    simp only [walkForest] at run
    obtain ⟨st₁, w₁, first, run⟩ := Step.run'_bind_eq_ok run
    exact (walkForest_covers ts run).trans (walkBelow_covers t first)

end

mutual

theorem walkBelow_replay {pinned' : Option (List (String × String))}
    (same : ∀ f, descends pinned' f = descends pinned f) :
    ∀ (t : Tree) {trail : List String} {st st' : WalkState} {w w' : Workspace},
    (walkBelow policy pinned trail t st).run' w = (.ok st', w') →
    ∀ {known : Classified}, Covers known st'.classified → ∀ w₂, ∃ w₃,
      (walkBelow policy pinned' trail t { st with classified := known }).run' w₂ =
        (.ok { st' with classified := known }, w₃)
  | .node n cs, trail, st, st', w, w', run, known, covers, w₂ => by
    simp only [walkBelow] at run
    simp only [walkBelow, Step.run'_bind]
    obtain ⟨⟨accepted, st₁⟩, w₁, accept, run⟩ := Step.run'_bind_eq_ok run
    cases accepted
    · simp only [Bool.false_eq_true, if_false, Step.run'_pure, Prod.mk.injEq, Except.ok.injEq] at run
      obtain ⟨rfl, -⟩ := run
      obtain ⟨w₃, replayed⟩ := acceptNode_replay same accept covers w₂
      rw [replayed]
      exact ⟨w₃, rfl⟩
    · -- The children's walk only added verdicts, so the cache covers the node's too.
      obtain ⟨w₃, replayed⟩ := acceptNode_replay same accept (covers.trans (walkForest_covers cs run)) w₂
      rw [replayed]
      exact walkForest_replay same cs run covers w₃

theorem walkForest_replay {pinned' : Option (List (String × String))}
    (same : ∀ f, descends pinned' f = descends pinned f) :
    ∀ (ts : List Tree) {trail : List String} {st st' : WalkState} {w w' : Workspace},
    (walkForest policy pinned trail ts st).run' w = (.ok st', w') →
    ∀ {known : Classified}, Covers known st'.classified → ∀ w₂, ∃ w₃,
      (walkForest policy pinned' trail ts { st with classified := known }).run' w₂ =
        (.ok { st' with classified := known }, w₃)
  | [], trail, st, st', w, w', run, known, covers, w₂ => by
    simp only [walkForest, Step.run'_pure, Prod.mk.injEq, Except.ok.injEq] at run
    obtain ⟨rfl, -⟩ := run
    exact ⟨w₂, rfl⟩
  | t :: ts, trail, st, st', w, w', run, known, covers, w₂ => by
    simp only [walkForest] at run
    simp only [walkForest, Step.run'_bind]
    obtain ⟨st₁, w₁, first, run⟩ := Step.run'_bind_eq_ok run
    obtain ⟨w₃, replayed⟩ := walkBelow_replay same t first (covers.trans (walkForest_covers ts run)) w₂
    rw [replayed]
    exact walkForest_replay same ts run covers w₃

end

theorem walkOnce_replay {pinned' : Option (List (String × String))}
    (same : ∀ f, descends pinned' f = descends pinned f) {t : Tree} {known known' : Classified}
    {st : WalkState} {w w' : Workspace} (run : (walkOnce policy pinned t known).run' w = (.ok st, w'))
    (covers : Covers known' st.classified) (w₂ : Workspace) :
    ∃ w₃, (walkOnce policy pinned' t known').run' w₂ = (.ok { st with classified := known' }, w₃) := by
  dsimp only [walkOnce] at run ⊢
  exact walkForest_replay same t.children run covers w₂

end Walks

def descendsAt (pinned : Option (List (String × String))) (c : Coordinate) : Bool :=
  descends pinned { coordinate := c, trail := [] }

/-- What a walk keeps of its selection: one facade per artifact id, each made at a node of
`t` reached through ancestors that the walk selected and that the pinned versions let it
descend into. -/
structure SelectedOnPins (t : Tree) (pinned : Option (List (String × String)))
    (selection : List (String × Facade)) : Prop where
  keysNodup : (selection.map Prod.fst).Nodup
  onPath : ∀ e ∈ selection, ∃ ancestors n, Tree.Reaches t.children ancestors n ∧
    e.2.coordinate = n.coordinate ∧ e.2.trail = t.info.id :: (ancestors ++ [n]).map NodeInfo.id ∧
    ∀ a ∈ ancestors, descendsAt pinned a.coordinate = true ∧ a.coordinate.artifactId ∈ selection.map Prod.fst

structure WalkingBelow (t : Tree) (pinned : Option (List (String × String))) (above : List NodeInfo)
    (ts : List Tree) (selection : List (String × Facade)) : Prop where
  placed : ∀ ancestors n, Tree.Reaches ts ancestors n → Tree.Reaches t.children (above ++ ancestors) n
  descended : ∀ a ∈ above, descendsAt pinned a.coordinate = true ∧ a.coordinate.artifactId ∈ selection.map Prod.fst

section Invariant

variable {t : Tree} {pinned : Option (List (String × String))} {selection selection' : List (String × Facade)}

theorem WalkingBelow.restrict {above : List NodeInfo} {ts ts' : List Tree}
    (below : WalkingBelow t pinned above ts selection) (sub : ts' ⊆ ts)
    (grows : ∀ k ∈ selection.map Prod.fst, k ∈ selection'.map Prod.fst) :
    WalkingBelow t pinned above ts' selection' where
  placed ancestors n reach := below.placed ancestors n (reach.mono sub)
  descended a member := ⟨(below.descended a member).1, grows _ (below.descended a member).2⟩

theorem SelectedOnPins.put {above : List NodeInfo} {n : NodeInfo} {cs : List Tree}
    (onPins : SelectedOnPins t pinned selection) (below : WalkingBelow t pinned above [.node n cs] selection) :
    SelectedOnPins t pinned (putSelected selection
      (Facade.make n.coordinate n.file ((t.info.id :: above.map NodeInfo.id) ++ [n.id]) n.packaging)) := by
  have grows : ∀ k ∈ selection.map Prod.fst, k ∈ (putSelected selection
      (Facade.make n.coordinate n.file ((t.info.id :: above.map NodeInfo.id) ++ [n.id]) n.packaging)).map Prod.fst :=
    fun k old => (mem_keys_putSelected _ _ k).mpr (.inl old)
  refine ⟨keys_nodup_putSelected _ _ onPins.keysNodup, fun e member => ?_⟩
  rcases mem_putSelected _ _ member with old | rfl
  · obtain ⟨ancestors, m, reach, coordinate, trail, pinnedPath⟩ := onPins.onPath e old
    exact ⟨ancestors, m, reach, coordinate, trail,
      fun a above => ⟨(pinnedPath a above).1, grows _ (pinnedPath a above).2⟩⟩
  · refine ⟨above, n, ?_, rfl, by simp [Facade.make], fun a member => ?_⟩
    · simpa using below.placed [] n (.root (List.mem_singleton_self _))
    · exact ⟨(below.descended a member).1, grows _ (below.descended a member).2⟩

theorem acceptNode_onPins {policy : Policy} {above : List NodeInfo} {n : NodeInfo} {cs : List Tree}
    {st st' : WalkState} {accepted : Bool} {w w' : Workspace}
    (run : (acceptNode policy pinned ((t.info.id :: above.map NodeInfo.id) ++ [n.id]) n st).run' w =
      (.ok (accepted, st'), w'))
    (onPins : SelectedOnPins t pinned st.gathered.selection)
    (below : WalkingBelow t pinned above [.node n cs] st.gathered.selection) :
    SelectedOnPins t pinned st'.gathered.selection ∧
      (∀ k ∈ st.gathered.selection.map Prod.fst, k ∈ st'.gathered.selection.map Prod.fst) ∧
      (accepted = true → WalkingBelow t pinned (above ++ [n]) cs st'.gathered.selection) := by
  obtain ⟨changed, descending⟩ := acceptNode_selection run
  have grows : ∀ k ∈ st.gathered.selection.map Prod.fst, k ∈ st'.gathered.selection.map Prod.fst := by
    rcases changed with same | put
    · rw [same]
      exact fun k old => old
    · rw [put]
      exact fun k old => (mem_keys_putSelected _ _ k).mpr (.inl old)
  refine ⟨?_, grows, fun descend => ?_⟩
  · rcases changed with same | put
    · rw [same]
      exact onPins
    · rw [put]
      exact onPins.put below
  · obtain ⟨descended, selected⟩ := descending descend
    refine ⟨fun ancestors m reach => ?_, fun a member => ?_⟩
    · simpa using below.placed (n :: ancestors) m (.down (List.mem_singleton_self _) reach)
    · rcases List.mem_append.mp member with old | last
      · exact ⟨(below.descended a old).1, grows _ (below.descended a old).2⟩
      · rw [List.mem_singleton.mp last]
        exact ⟨descended, selected⟩

variable {policy : Policy}

mutual

theorem walkBelow_onPins : ∀ (sub : Tree) {above : List NodeInfo} {st st' : WalkState} {w w' : Workspace},
    WalkingBelow t pinned above [sub] st.gathered.selection → SelectedOnPins t pinned st.gathered.selection →
    (walkBelow policy pinned (t.info.id :: above.map NodeInfo.id) sub st).run' w = (.ok st', w') →
    SelectedOnPins t pinned st'.gathered.selection ∧
      ∀ k ∈ st.gathered.selection.map Prod.fst, k ∈ st'.gathered.selection.map Prod.fst
  | .node n cs, above, st, st', w, w', below, onPins, run => by
    simp only [walkBelow] at run
    obtain ⟨⟨accepted, st₁⟩, w₁, accept, run⟩ := Step.run'_bind_eq_ok run
    obtain ⟨onPins₁, grows₁, children⟩ := acceptNode_onPins accept onPins below
    cases accepted
    · simp only [Bool.false_eq_true, if_false, Step.run'_pure, Prod.mk.injEq, Except.ok.injEq] at run
      obtain ⟨rfl, -⟩ := run
      exact ⟨onPins₁, grows₁⟩
    · simp only [if_true] at run
      have trail : (t.info.id :: above.map NodeInfo.id) ++ [n.id] =
          t.info.id :: (above ++ [n]).map NodeInfo.id := by simp
      rw [trail] at run
      obtain ⟨onPins', grows'⟩ := walkForest_onPins cs (children rfl) onPins₁ run
      exact ⟨onPins', fun k old => grows' k (grows₁ k old)⟩

theorem walkForest_onPins : ∀ (ts : List Tree) {above : List NodeInfo} {st st' : WalkState} {w w' : Workspace},
    WalkingBelow t pinned above ts st.gathered.selection → SelectedOnPins t pinned st.gathered.selection →
    (walkForest policy pinned (t.info.id :: above.map NodeInfo.id) ts st).run' w = (.ok st', w') →
    SelectedOnPins t pinned st'.gathered.selection ∧
      ∀ k ∈ st.gathered.selection.map Prod.fst, k ∈ st'.gathered.selection.map Prod.fst
  | [], above, st, st', w, w', below, onPins, run => by
    simp only [walkForest, Step.run'_pure, Prod.mk.injEq, Except.ok.injEq] at run
    obtain ⟨rfl, -⟩ := run
    exact ⟨onPins, fun k old => old⟩
  | sub :: rest, above, st, st', w, w', below, onPins, run => by
    simp only [walkForest] at run
    obtain ⟨st₁, w₁, first, run⟩ := Step.run'_bind_eq_ok run
    obtain ⟨onPins₁, grows₁⟩ := walkBelow_onPins sub (below.restrict (by simp) fun k old => old) onPins first
    obtain ⟨onPins', grows'⟩ := walkForest_onPins rest
      (below.restrict (List.subset_cons_self _ _) grows₁) onPins₁ run
    exact ⟨onPins', fun k old => grows' k (grows₁ k old)⟩

end

theorem walkOnce_onPins {known : Classified} {st : WalkState} {w w' : Workspace}
    (run : (walkOnce policy pinned t known).run' w = (.ok st, w')) :
    SelectedOnPins t pinned st.gathered.selection := by
  dsimp only [walkOnce] at run
  change (walkForest policy pinned (t.info.id :: ([] : List NodeInfo).map NodeInfo.id) t.children _).run' w = _ at run
  refine (walkForest_onPins t.children ?_ ?_ run).1
  · exact ⟨fun _ _ reach => reach, fun _ member => by simp at member⟩
  · exact ⟨List.nodup_nil, fun _ member => by simp at member⟩

end Invariant

end PluginPack.Traverse
