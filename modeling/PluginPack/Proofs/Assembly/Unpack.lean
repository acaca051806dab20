import PluginPack.Proofs.Assembly.Overlay
import PluginPack.Proofs.Files.TreeKept

/-! Unpacking an overlay into its cache changes the store at the cache and below it only.

A step `Moves` the store along a relation when every successful run ends on a store related to
the one it started on; a preorder passes through `pure`, `bind`, the loops over lists and the
changes of the store a step makes. Extracting the members of an archive makes directories,
which stamps every place, and writes files at the cache or below it, never over a directory. So
the whole unpacking keeps a tree a tree, stamps every place outside the cache, and leaves the
cache a directory stamped with the clock. -/

namespace PluginPack

variable {α β : Type}

def Step.Moves (R : Files.Store → Files.Store → Prop) (x : Step α) : Prop :=
  ∀ w w' a, x.run' w = (.ok a, w') → R w.store w'.store

namespace Step.Moves

variable {R : Files.Store → Files.Store → Prop}

protected theorem pure [IsPreorder Files.Store R] (a : α) : (pure a : Step α).Moves R := by
  intro w w' b ran
  rw [Step.run'_pure, Prod.mk.injEq] at ran
  rw [← ran.2]
  exact refl_of R _

protected theorem bind [IsPreorder Files.Store R] {x : Step α} {f : α → Step β}
    (first : x.Moves R) (rest : ∀ a, (f a).Moves R) : (x >>= f).Moves R := by
  intro w w' b ran
  obtain ⟨a, w₁, ranFirst, ranRest⟩ := Step.run'_bind_eq_ok ran
  exact trans_of R (first _ _ _ ranFirst) (rest a _ _ _ ranRest)

protected theorem throw (e : PackagingError) : (throw e : Step α).Moves R := by
  intro w w' a ran
  simp at ran

theorem currentStore [IsPreorder Files.Store R] : currentStore.Moves R := by
  intro w w' a ran
  rw [currentStore_run', Prod.mk.injEq] at ran
  rw [← ran.2]
  exact refl_of R _

theorem changeOrFail {failure : PackagingError} {op : Files.Store → Except Files.FsError Files.Store}
    (changes : ∀ s s', op s = .ok s' → R s s') : (Assembly.changeOrFail failure op).Moves R := by
  intro w w' u ran
  obtain ⟨s, changed, stored⟩ := Assembly.changeOrFail_eq_ok ran
  rw [stored]
  exact changes _ _ changed

theorem forM [IsPreorder Files.Store R] {f : α → Step PUnit} :
    ∀ (l : List α), (∀ a ∈ l, (f a).Moves R) → (l.forM f).Moves R
  | [], _ => by
    rw [List.forM]
    exact Step.Moves.pure _
  | a :: l, each => by
    rw [List.forM]
    exact Step.Moves.bind (each a List.mem_cons_self) fun _ =>
      forM l fun b member => each b (List.mem_cons_of_mem _ member)

end Step.Moves

namespace Files.Store

variable {s s' s₁ s₂ : Store} {p dir : String}

def DirsStamped (s s' : Store) : Prop := s'.cwd = s.cwd ∧ s'.clock = s.clock ∧ ∀ k, Stamped s s' k

theorem DirsStamped.trans (first : DirsStamped s s₁) (second : DirsStamped s₁ s₂) : DirsStamped s s₂ :=
  ⟨second.1.trans first.1, second.2.1.trans first.2.1, fun k => (first.2.2 k).trans (second.2.2 k) first.2.1⟩

theorem createDir_dirsStamped (made : s.createDir p = .ok s') : DirsStamped s s' := by
  obtain ⟨-, -, result⟩ := createDir_eq_ok made
  refine ⟨by rw [result]; simp, by rw [result]; simp, createDir_stamped made⟩

theorem makeWay_dirsStamped (made : s.makeWay p = .ok s') : DirsStamped s s' := by
  have components : ∀ c ∈ Path.parts (s.resolve p), Path.Component c :=
    fun _ member => Path.component_of_mem_parts member
  unfold makeWay at made
  dsimp only at made
  split at made
  · cases made
  · rw [← Except.ok.inj made]
    refine ⟨cwd_foldl_makeDir _ s, clock_foldl_makeDir _ s, foldl_makeDir_stamped _ s fun d member => ?_⟩
    rw [resolve_eq_build_parts, Path.ancestors_build_slash components, List.reverse_reverse] at member
    obtain ⟨j, -, rfl⟩ := Path.mem_chainTo.mp member
    rw [parts_join_build_slash s.cwd fun c inTake => components c (List.mem_of_mem_take inTake)]
    exact fun inTake => not_mem_parts_resolve s p (List.mem_of_mem_take inTake)

theorem makeDirs_dirsStamped (made : s.makeDirs p = .ok s') : DirsStamped s s' :=
  makeDirsAlong_induction DirsStamped (fun s => ⟨rfl, rfl, Stamped.refl s⟩) DirsStamped.trans
    createDir_dirsStamped makeWay_dirsStamped _ made

theorem writeFile_not_dir {b : ByteArray} (wrote : s.writeFile p b = .ok s') :
    ∀ t, s.entryAt? (s.resolve p) ≠ some (.dir t) := by
  intro t dir
  cases passed : s.checkWay p with
  | error e => simp [writeFile, passed, bind, Except.bind] at wrote
  | ok u =>
    have found := get?_of_checkWay passed
    simp [writeFile, passed, found, dir, bind, Except.bind, throw, throwThe, MonadExceptOf.throw] at wrote

theorem makeDirs_dir (plain : ".." ∉ Path.parts (Path.join s.cwd p)) (named : Path.parts p ≠ [])
    (made : s.makeDirs p = .ok s') : ∃ d, s'.entryAt? (s.resolve p) = some (.dir d) := by
  obtain ⟨c, above, reversed⟩ := List.exists_cons_of_ne_nil (List.reverse_ne_nil_iff.mpr named)
  have spelled : Path.parts (Path.join s.cwd (Path.build (Path.rootOf p) (above.reverse ++ [c]))) =
      Path.parts (Path.join s.cwd p) := by
    rw [← List.reverse_cons, ← reversed, List.reverse_reverse, Path.parts_join_normalize]
  have resolved : ∀ t : Store, t.cwd = s.cwd →
      t.resolve (Path.build (Path.rootOf p) (above.reverse ++ [c])) = s.resolve p := fun t cwd => by
    rw [resolve_eq_of_cwd cwd]
    exact resolve_congr spelled
  have dirThere : ∀ t : Store, t.cwd = s.cwd → t.isDir (Path.build (Path.rootOf p) (above.reverse ++ [c])) = true →
      ∃ d, t.entryAt? (s.resolve p) = some (.dir d) := fun t cwd dir => by
    obtain ⟨d, found⟩ := isDir_iff.mp dir
    rw [get?_eq_entryAt? (by rw [cwd, spelled]; exact plain), resolved t cwd] at found
    exact ⟨d, found⟩
  have created : ∀ t t' : Store, t.cwd = s.cwd →
      t.createDir (Path.build (Path.rootOf p) (above.reverse ++ [c])) = .ok t' →
      ∃ d, t'.entryAt? (s.resolve p) = some (.dir d) := fun t t' cwd made => by
    obtain ⟨-, missing, result⟩ := createDir_eq_ok made
    rw [← resolved t cwd, result]
    exact ⟨_, (newEntry_wrote _ missing).written⟩
  unfold makeDirs at made
  rw [reversed, makeDirsAlong] at made
  split at made
  · rename_i s₁ createdDir
    rw [← Except.ok.inj made]
    exact created s _ rfl createdDir
  · split at made
    · split at made
      · cases made
      · rename_i s₁ upper
        have cwd₁ : s₁.cwd = s.cwd :=
          (makeDirsAlong_induction DirsStamped (fun s => ⟨rfl, rfl, Stamped.refl s⟩) DirsStamped.trans
            createDir_dirsStamped makeWay_dirsStamped _ upper).1
        split at made
        · rename_i s₂ createdDir
          rw [← Except.ok.inj made]
          exact created s₁ _ cwd₁ createdDir
        · split at made
          · rename_i dir
            rw [← Except.ok.inj made]
            exact dirThere s₁ cwd₁ dir
          · cases made
    · split at made
      · rename_i dir
        rw [← Except.ok.inj made]
        exact dirThere s rfl dir
      · cases made

theorem setMtime_within (t : Nat) : Within s (s.setMtime p t) (· = s.resolve p) := by
  have set : ∀ e, Within s (s.setEntry p e) (· = s.resolve p) := fun e =>
    ⟨cwd_setEntry e, clock_setEntry e, fun k other => .inl (setEntry_confined e k other)⟩
  unfold setMtime
  split
  · exact set _
  · split
    · exact .refl s _
    · exact set _
  · exact .refl s _

theorem setMtime_dir {d t : Nat} (found : s.get? p = some (.dir d)) (notRoot : s.resolve p ≠ "/") :
    (s.setMtime p t).entryAt? (s.resolve p) = some (.dir t) := by
  rw [setMtime, found, if_neg (by simpa using notRoot)]
  exact (setEntry_wrote _ notRoot).written

/-- What extracting below the place `dir` names does: the working directory and the clock stay,
every place neither at `dir` nor below it is stamped, a tree stays a tree and a directory stays
a directory. -/
structure Extracted (dir : String) (s s' : Store) : Prop where
  within : Within s s' fun k => Path.parts (s.resolve dir) <+: Path.parts k
  tree : s.Tree → s'.Tree
  dirs : ∀ k d, s.entryAt? k = some (.dir d) → ∃ d', s'.entryAt? k = some (.dir d')

namespace Extracted

theorem refl (s : Store) : Extracted dir s s := ⟨.refl s _, id, fun _ d dir => ⟨d, dir⟩⟩

theorem trans (first : Extracted dir s s₁) (second : Extracted dir s₁ s₂) : Extracted dir s s₂ where
  within := (first.within.trans second.within).mono fun k inside => by
    rw [resolve_eq_of_cwd first.within.cwd dir] at inside
    exact inside.elim id id
  tree := second.tree ∘ first.tree
  dirs k d dir := by
    obtain ⟨d₁, dir₁⟩ := first.dirs k d dir
    exact second.dirs k d₁ dir₁

instance : IsPreorder Store (Extracted dir) where
  refl := refl
  trans _ _ _ := trans

theorem of_makeDirs (made : s.makeDirs p = .ok s') : Extracted dir s s' :=
  have stamped := makeDirs_dirsStamped made
  ⟨⟨stamped.1, stamped.2.1, fun k _ => stamped.2.2 k⟩, fun tree => tree.makeDirs made,
    fun k _ dir => (stamped.2.2 k).dir dir⟩

theorem of_writeFile {b : ByteArray} (inside : Path.parts (s.resolve dir) <+: Path.parts (s.resolve p))
    (wrote : s.writeFile p b = .ok s') : Extracted dir s s' := by
  have written := writeFile_wrote wrote
  refine ⟨⟨written.cwd, written.clock, fun k outside => written.stamped k fun same => outside (same ▸ inside)⟩,
    fun tree => tree.writeFile wrote, fun k d dir => ?_⟩
  by_cases same : k = s.resolve p
  · rw [same] at dir
    exact absurd dir (writeFile_not_dir wrote d)
  · exact (written.stamped k same).dir dir

end Extracted

end Files.Store

namespace Assembly

open Files

section Member

variable (s : Store) (dir name : String)

theorem memberPath_components : ∀ c ∈ memberPath name, Path.Component c :=
  fun _ member => Path.component_of_mem_parts (List.mem_filter.mp member).1

theorem dotDot_not_mem_memberPath : ".." ∉ memberPath name := by
  simp [memberPath]

theorem resolve_member :
    s.resolve (Path.join dir ("/".intercalate (memberPath name))) =
      Path.build "/" (Path.parts (s.resolve dir) ++ memberPath name) := by
  have components := memberPath_components name
  have relative : Path.isAbsolute ("/".intercalate (memberPath name)) = false :=
    Bool.eq_false_iff.mpr fun absolute => Path.head?_intercalate components (Path.isAbsolute_iff _ |>.mp absolute)
  rw [Store.resolve_join relative (by rw [Path.parts_intercalate _ components]; exact dotDot_not_mem_memberPath name),
    Path.parts_intercalate _ components]

theorem member_inside :
    Path.parts (s.resolve dir) <+: Path.parts (s.resolve (Path.join dir ("/".intercalate (memberPath name)))) := by
  have components : ∀ c ∈ Path.parts (s.resolve dir) ++ memberPath name, Path.Component c := fun c member =>
    (List.mem_append.mp member).elim Path.component_of_mem_parts (memberPath_components name c)
  rw [resolve_member, Path.parts_build_slash components]
  exact List.prefix_append _ _

end Member

theorem extractMember_extracted (bytes : ByteArray) (entries : List Archive.Entry) (dir : String)
    (failure : PackagingError) (e : Archive.Entry) :
    (extractMember bytes entries dir failure e).Moves (Store.Extracted dir) := by
  have makes : ∀ q, (changeOrFail failure fun s => s.makeDirs q).Moves (Store.Extracted dir) :=
    fun _ => .changeOrFail fun _ _ made => .of_makeDirs made
  have writes : ∀ name b, (changeOrFail failure fun s =>
      s.writeFile (Path.join dir ("/".intercalate (memberPath name))) b).Moves (Store.Extracted dir) :=
    fun _ _ => .changeOrFail fun s _ wrote => .of_writeFile (member_inside s dir _) wrote
  unfold extractMember
  refine .bind .currentStore fun s => ?_
  dsimp only
  split
  refine .bind (makes _) fun _ => ?_
  all_goals
    split
    · -- A directory member is made a directory unless it is one.
      refine .bind .currentStore fun _ => ?_
      split
      · exact makes _
      · exact .pure _
    · -- Any other member is written empty once it opens, and then with its data.
      split
      · refine .bind (.pure _) fun start => .bind (writes _ _) fun _ => ?_
        split
        · exact writes _ _
        · exact .throw _
      · refine .bind (.throw _) fun start => .bind (writes _ _) fun _ => ?_
        split
        · exact writes _ _
        · exact .throw _

theorem unpackCached_run' {archive cache : String} {w w' : Workspace} {b : Bool}
    (ran : (unpackCached archive cache).run' w = (.ok b, w')) :
    (b = false ∧ w'.store = w.store ∧ w.store.isDir cache = true ∧
      ∃ t, w.store.mtime? archive = some t ∧ t ≤ (w.store.mtime? cache).getD 0) ∨
    (b = true ∧ ∃ s₁ s₂ s₃, (if w.store.present cache then w.store.removeTree cache = .ok s₁ else s₁ = w.store) ∧
      s₁.makeDirs cache = .ok s₂ ∧ Store.Extracted cache s₂ s₃ ∧ w'.store = s₃.setMtime cache s₃.clock) := by
  unfold unpackCached at ran
  rw [Step.run'_bind_of_ok (currentStore_run' w)] at ran
  extract_lets extracted stale removing at ran
  have filled : ∀ w₁ w' b, (stale ()).run' w₁ = (.ok b, w') → b = true ∧ ∃ s₂ s₃,
      w₁.store.makeDirs cache = .ok s₂ ∧ Store.Extracted cache s₂ s₃ ∧ w'.store = s₃.setMtime cache s₃.clock := by
    intro w₁ w' b ran
    obtain ⟨u, w₂, made, ran⟩ := Step.run'_bind_eq_ok ran
    obtain ⟨s₂, madeDirs, stored₂⟩ := changeOrFail_eq_ok made
    rw [Step.run'_bind_of_ok (currentStore_run' w₂)] at ran
    split at ran
    · rw [Step.run'_bind_of_ok (Step.run'_pure _ _)] at ran
      dsimp only [extracted] at ran
      split at ran
      · rw [Step.run'_bind_of_ok (Step.run'_pure _ _)] at ran
        obtain ⟨u, w₃, filled, ran⟩ := Step.run'_bind_eq_ok ran
        rw [Step.run'_bind_of_ok (Step.run'_modify _ _), Step.run'_pure, Prod.mk.injEq] at ran
        refine ⟨(Except.ok.inj ran.1).symm, s₂, w₃.store, madeDirs, ?_, by rw [← ran.2]⟩
        rw [← stored₂]
        exact Step.Moves.forM _ (fun e _ => extractMember_extracted _ _ _ _ e) _ _ _ filled
      · simp at ran
    · simp at ran
  have cleared : ∀ w', (removing ()).run' w = (.ok b, w') → b = true ∧ ∃ s₁ s₂ s₃,
      (if w.store.present cache then w.store.removeTree cache = .ok s₁ else s₁ = w.store) ∧
      s₁.makeDirs cache = .ok s₂ ∧ Store.Extracted cache s₂ s₃ ∧ w'.store = s₃.setMtime cache s₃.clock := by
    intro w' ran
    dsimp only [removing] at ran
    split at ran
    · rename_i there
      obtain ⟨u, w₁, removed, ran⟩ := Step.run'_bind_eq_ok ran
      obtain ⟨s₁, removedTree, stored₁⟩ := changeOrFail_eq_ok removed
      obtain ⟨made, s₂, s₃, madeDirs, extracted, result⟩ := filled w₁ w' b ran
      rw [stored₁] at madeDirs
      exact ⟨made, s₁, s₂, s₃, by rw [if_pos there]; exact removedTree, madeDirs, extracted, result⟩
    · rename_i missing
      obtain ⟨made, s₂, s₃, madeDirs, extracted, result⟩ := filled w w' b ran
      exact ⟨made, w.store, s₂, s₃, by rw [if_neg missing], madeDirs, extracted, result⟩
  split at ran
  · rename_i dir
    split at ran
    · simp at ran
    · rename_i t dated
      split at ran
      · rename_i fresh
        rw [Step.run'_pure, Prod.mk.injEq] at ran
        exact .inl ⟨(Except.ok.inj ran.1).symm, by rw [← ran.2], dir, t, dated, fresh⟩
      · exact .inr (cleared w' ran)
  · exact .inr (cleared w' ran)


theorem unpackCached_unpacks {archive cache : String} {w w' : Workspace} {b : Bool}
    (tree : w.store.Tree) (plain : ".." ∉ Path.parts (Path.join w.store.cwd cache)) (named : Path.parts cache ≠ [])
    (ran : (unpackCached archive cache).run' w = (.ok b, w')) :
    Store.Within w.store w'.store (fun k => Path.parts (w.store.resolve cache) <+: Path.parts k) ∧ w'.store.Tree ∧
      ((w'.store = w.store ∧ ∃ d t, w.store.get? cache = some (.dir d) ∧ w.store.mtime? archive = some t ∧ t ≤ d) ∨
        w'.store.entryAt? (w.store.resolve cache) = some (.dir w.store.clock)) := by
  rcases unpackCached_run' ran with ⟨-, same, dir, t, dated, fresh⟩ | ⟨-, s₁, s₂, s₃, cleared, made, extracted, result⟩
  · -- A cache as new as the archive is left as it is.
    obtain ⟨d, found⟩ := Store.isDir_iff.mp dir
    rw [Store.mtime?, found] at fresh
    rw [same]
    exact ⟨.refl _ _, tree, .inl ⟨rfl, d, t, found, dated, fresh⟩⟩
  · -- Otherwise whatever is there is removed, the cache made afresh, filled and stamped.
    have removed : Store.Within w.store s₁ (fun k => Path.parts (w.store.resolve cache) <+: Path.parts k) ∧ s₁.Tree := by
      split at cleared
      · obtain ⟨-, -, result⟩ := Store.removeTree_eq_ok cleared
        exact ⟨⟨by rw [result]; simp, by rw [result]; simp, fun k outside => Store.removeTree_stamped cleared outside⟩,
          tree.removeTree cleared⟩
      · rw [cleared]
        exact ⟨.refl _ _, tree⟩
    have stamped := Store.makeDirs_dirsStamped made
    have cwd₂ : s₂.cwd = w.store.cwd := stamped.1.trans removed.1.cwd
    have resolved₂ : s₂.resolve cache = w.store.resolve cache := Store.resolve_eq_of_cwd cwd₂ cache
    obtain ⟨d, dir₂⟩ := Store.makeDirs_dir (by rw [removed.1.cwd]; exact plain) named made
    rw [Store.resolve_eq_of_cwd removed.1.cwd] at dir₂
    have cwd₃ : s₃.cwd = w.store.cwd := extracted.within.cwd.trans cwd₂
    obtain ⟨d₃, dir₃⟩ := extracted.dirs _ d dir₂
    have plain₃ : ".." ∉ Path.parts (Path.join s₃.cwd cache) := by rw [cwd₃]; exact plain
    have notRoot : s₃.resolve cache ≠ "/" := fun root =>
      Store.parts_join_ne_nil named (by rw [← Store.parts_resolve plain₃, root]; rfl)
    have chain : ∀ {a b c : Store}, Store.Within a b (fun k => Path.parts (w.store.resolve cache) <+: Path.parts k) →
        Store.Within b c (fun k => Path.parts (w.store.resolve cache) <+: Path.parts k) →
        Store.Within a c (fun k => Path.parts (w.store.resolve cache) <+: Path.parts k) :=
      fun one two => (one.trans two).mono fun _ either => either.elim id id
    have filled := extracted.within
    rw [resolved₂] at filled
    have timed : Store.Within s₃ w'.store (fun k => Path.parts (w.store.resolve cache) <+: Path.parts k) := by
      rw [result]
      refine (Store.setMtime_within _).mono fun k same => ?_
      simp only [same, Store.resolve_eq_of_cwd cwd₃, List.prefix_refl]
    have found₃ : s₃.get? cache = some (.dir d₃) := by
      rw [Store.get?_eq_entryAt? plain₃, Store.resolve_eq_of_cwd cwd₃]
      exact dir₃
    refine ⟨chain (chain (chain removed.1 ⟨stamped.1, stamped.2.1, fun k _ => stamped.2.2 k⟩) filled) timed, ?_, .inr ?_⟩
    · rw [result]
      exact (extracted.tree (removed.2.makeDirs made)).setMtime _
    · rw [result, ← Store.resolve_eq_of_cwd cwd₃, Store.setMtime_dir found₃ notRoot,
        filled.clock, stamped.2.1, removed.1.clock]


end Assembly

end PluginPack
