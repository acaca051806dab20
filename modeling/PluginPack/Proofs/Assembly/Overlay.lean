import PluginPack.Assembly.Layout
import PluginPack.Proofs.Files.Below
import PluginPack.Proofs.Step

/-! Laying an unpacked overlay over a web application never overwrites.

The overlay's files are listed once, with their paths relative to the overlay, and each is
copied, with its bytes and modification time, where the application has nothing at its path,
the manifest apart. Main statement: `overlay_never_overwrites`, for an application path that
steps back nowhere. Through a `..` the check for an existing file and the copy can name two
places, and a file the application has is then overwritten. -/

namespace PluginPack.Assembly

open PluginPack.Files

/-- A file of an unpacked overlay: its path relative to the overlay names something and steps
back nowhere, and the overlay holds a file there. -/
def OverlayFile (s : Store) (source rel : String) (b : ByteArray) (t : Nat) : Prop :=
  Path.isAbsolute rel = false ∧ Path.parts rel ≠ [] ∧ ".." ∉ Path.parts rel ∧
    s.get? (Path.join source rel) = some (.file b t)

/-- What the listing of an overlay says of one of its entries `x`: `x.2` is a relative path
below the overlay in normal form, `x.1` the overlay's path followed by it, and the tree has a
file at that place. -/
structure Listed (s : Store) (source : String) (x : String × String) : Prop where
  relative : Path.isAbsolute x.2 = false
  named : Path.parts x.2 ≠ []
  plain : ".." ∉ Path.parts x.2
  spelled : Path.build "" (Path.parts x.2) = x.2
  path : x.1 = Path.join source x.2
  way : s.blockedStep? source = none
  file : ∃ b t, s.entryAt? (Path.build "/" (Path.parts (s.resolve source) ++ Path.parts x.2)) = some (.file b t)

theorem components_below (s : Store) (source rel : String) :
    ∀ c ∈ Path.parts (s.resolve source) ++ Path.parts rel, Path.Component c :=
  fun _ member => (List.mem_append.mp member).elim Path.component_of_mem_parts Path.component_of_mem_parts

namespace Listed

variable {s : Store} {source : String} {x y : String × String}

theorem get?_of_way (listed : Listed s source x) {u : Store} (way : u.blockedStep? source = none) :
    u.get? x.1 = u.entryAt? (Path.build "/" (Path.parts (u.resolve source) ++ Path.parts x.2)) := by
  rw [listed.path, Store.get?_join listed.relative listed.plain, way]
  exact if_neg Bool.false_ne_true

theorem get?_eq (listed : Listed s source x) :
    s.get? x.1 = s.entryAt? (Path.build "/" (Path.parts (s.resolve source) ++ Path.parts x.2)) :=
  listed.get?_of_way listed.way

theorem eq_of_parts (lx : Listed s source x) (ly : Listed s source y) (same : Path.parts x.2 = Path.parts y.2) :
    x = y := by
  have rel : x.2 = y.2 := by rw [← lx.spelled, ← ly.spelled, same]
  exact Prod.ext (by rw [lx.path, ly.path, rel]) rel

theorem eq_of_prefix (tree : s.Tree) (lx : Listed s source x) (ly : Listed s source y)
    (prefixed : Path.parts x.2 <+: Path.parts y.2) : x = y := by
  refine lx.eq_of_parts ly (Classical.byContradiction fun other => ?_)
  have shorter : (Path.parts x.2).length < (Path.parts y.2).length :=
    lt_of_le_of_ne prefixed.length_le fun same => other (prefixed.eq_of_length same)
  obtain ⟨b, t, fileX⟩ := lx.file
  obtain ⟨b', t', fileY⟩ := ly.file
  obtain ⟨d, dir⟩ := tree.dir_above (components_below s source y.2) (by rw [fileY]; simp)
    ((List.prefix_append_right_inj _).mpr prefixed) (by simpa using shorter)
  rw [fileX] at dir
  cases dir

end Listed

theorem blockedStep?_of_isDir {s : Store} {p : String} (dir : s.isDir p = true) : s.blockedStep? p = none := by
  cases blocked : s.blockedStep? p with
  | none => rfl
  | some here => simp [Store.isDir, Store.get?, blocked] at dir

theorem mem_overlayEntries_of {s : Store} {source r : String} {b : ByteArray} {t : Nat}
    (dir : s.isDir source = true) (inEntries : (r, .file b t) ∈ s.entries)
    (below : Path.isBelow (s.resolve source) r = true) :
    (Path.join source (Path.build "" ((Path.parts r).drop (Path.parts (s.resolve source)).length)),
      Path.build "" ((Path.parts r).drop (Path.parts (s.resolve source)).length)) ∈ overlayEntries s source := by
  have components : ∀ c ∈ (Path.parts r).drop (Path.parts (s.resolve source)).length, Path.Component c :=
    fun _ member => Path.component_of_mem_parts (List.mem_of_mem_drop member)
  unfold overlayEntries
  rw [List.mem_mergeSort, List.mem_filterMap]
  refine ⟨(s.spellBelow source r, .file b t), Store.mem_below.mpr ⟨dir, r, _, inEntries, below, rfl⟩, ?_⟩
  simp only [Store.spellBelow_of_isBelow below, Path.relativeTo?_join components]

theorem listed_of_mem_overlayEntries {s : Store} {source : String} (tree : s.Tree) {x : String × String}
    (member : x ∈ overlayEntries s source) : Listed s source x := by
  unfold overlayEntries at member
  rw [List.mem_mergeSort, List.mem_filterMap] at member
  obtain ⟨a, listed, picked⟩ := member
  obtain ⟨dir, r, e, inEntries, below, rfl⟩ := Store.mem_below.mp listed
  have present := Store.entryAt?_ne_none_of_mem inEntries
  rw [Store.spellBelow_of_isBelow below] at picked
  simp only [Path.isBelow, Bool.and_eq_true, beq_iff_eq, decide_eq_true_eq, List.isPrefixOf_iff_prefix] at below
  obtain ⟨⟨-, shorter⟩, prefixed⟩ := below
  generalize named : (Path.parts r).drop (Path.parts (s.resolve source)).length = R at picked
  have whole : Path.parts (s.resolve source) ++ R = Path.parts r := by
    rw [← named]
    exact List.prefix_iff_eq_append.mp prefixed
  have components : ∀ c ∈ R, Path.Component c := fun _ member => Path.component_of_mem_parts
    (by rw [← named] at member; exact List.mem_of_mem_drop member)
  have rest : Path.parts (Path.build "" R) = R := Path.parts_build (.inl rfl) R components
  simp only [Path.relativeTo?_join components] at picked
  cases e with
  | dir t => cases picked
  | file b t =>
    have same := Option.some.inj picked
    subst same
    refine ⟨Path.isAbsolute_build_relative components, ?_, ?_, ?_, rfl, blockedStep?_of_isDir dir, ?_⟩
    · dsimp only
      rw [rest]
      intro empty
      have lengths := congrArg List.length whole
      rw [empty, List.append_nil] at lengths
      omega
    · dsimp only
      rw [rest]
      exact fun member => tree.not_mem_parts present (whole ▸ List.mem_append_right _ member)
    · dsimp only
      rw [rest]
    · dsimp only
      rw [rest, whole, ← tree.eq_build present]
      exact ⟨b, t, tree.found _ _ inEntries⟩

theorem listed_of_overlayFile {s : Store} {source rel : String} {b : ByteArray} {t : Nat} (tree : s.Tree)
    (file : OverlayFile s source rel b t) : ∃ x ∈ overlayEntries s source, Path.parts x.2 = Path.parts rel := by
  obtain ⟨relative, named, plain, found⟩ := file
  rw [Store.get?_join relative plain] at found
  split at found
  · cases found
  · rename_i opened
    have way : s.blockedStep? source = none := Option.not_isSome_iff_eq_none.mp opened
    have componentsPs : ∀ c ∈ Path.parts (s.resolve source), Path.Component c :=
      fun _ member => Path.component_of_mem_parts member
    have componentsAll : ∀ c ∈ Path.parts (s.resolve source) ++ Path.parts rel, Path.Component c :=
      fun c member => (List.mem_append.mp member).elim (componentsPs c) Path.component_of_mem_parts
    have present : s.entryAt? (Path.build "/" (Path.parts (s.resolve source) ++ Path.parts rel)) ≠ none := by
      rw [found]
      simp
    obtain ⟨t', overlayDir⟩ := tree.dir_above componentsAll present (List.prefix_append _ _)
      (by simpa using List.length_pos_iff.mpr named)
    have dir : s.isDir source = true := by
      rw [Store.isDir, Store.get?, way, Store.resolve_eq_build_parts, overlayDir]
      rfl
    have below : Path.isBelow (s.resolve source) (Path.build "/" (Path.parts (s.resolve source) ++ Path.parts rel)) = true := by
      have longer : (Path.parts (s.resolve source)).length < (Path.parts (s.resolve source) ++ Path.parts rel).length := by
        simpa using List.length_pos_iff.mpr named
      conv => lhs; arg 1; rw [Store.resolve_eq_build_parts]
      simp only [Path.isBelow, Path.rootOf_build_slash componentsPs, Path.rootOf_build_slash componentsAll,
        Path.parts_build_slash componentsPs, Path.parts_build_slash componentsAll, longer,
        List.isPrefixOf_iff_prefix.mpr (List.prefix_append _ _), beq_self_eq_true, decide_true, Bool.and_self]
    refine ⟨_, mem_overlayEntries_of dir (Store.mem_of_entryAt? found) below, ?_⟩
    have rest : ∀ c ∈ Path.parts rel, Path.Component c := fun _ member => Path.component_of_mem_parts member
    dsimp only
    rw [Path.parts_build_slash componentsAll, List.drop_left, Path.parts_build (.inl rfl) _ rest]

theorem changeOrFail_eq_ok {failure : PackagingError} {op : Store → Except FsError Store} {w w' : Workspace}
    {u : Unit} (ran : (changeOrFail failure op).run' w = (.ok u, w')) : ∃ s, op w.store = .ok s ∧ w'.store = s := by
  simp only [changeOrFail, Step.run'_bind, currentStore_run'] at ran
  cases changed : op w.store with
  | error e =>
    rw [changed] at ran
    simp at ran
  | ok s =>
    rw [changed, setStore_run'] at ran
    exact ⟨s, rfl, by rw [← (Prod.mk.inj ran).2]⟩

theorem copyPreserving_of_isDir_eq_false {s s' : Store} {source destination : String}
    (notDir : s.isDir destination = false) (copied : copyPreserving s source destination = .ok s') :
    s.copyFile source destination true = .ok s' := by
  unfold copyPreserving at copied
  simp only [notDir, Bool.false_eq_true, if_false] at copied
  split at copied
  · cases copied
  · exact copied

theorem copyPreserving_after_makeDirs {s s₁ s₂ : Store} {source target : String}
    (plain : ".." ∉ Path.parts (Path.join s.cwd target)) (named : Path.parts target ≠ [])
    (notDir : ∀ d, s.entryAt? (s.resolve target) ≠ some (.dir d))
    (made : s.makeDirs (Path.parent target) = .ok s₁) (copied : copyPreserving s₁ source target = .ok s₂) :
    ∃ e, s₁.get? source = some e ∧ Store.DirsMade s s₁ (· ∈ Path.chain (Path.parts (Path.join s.cwd target))) ∧
      Store.Wrote s s₂ (s.resolve target) e fun k =>
        k ∈ Path.chain (Path.parts (Path.join s.cwd target)) ∨ k = s.resolve (Path.parent (s.resolve target)) := by
  have plainParent : ".." ∉ Path.parts (Path.join s.cwd (Path.parent target)) := by
    rw [Store.parts_join_parent named]
    exact fun member => plain (List.dropLast_subset _ member)
  have dirs := Store.makeDirs_dirsMade plainParent made
  rw [Store.chainTo_parent named] at dirs
  have resolved : s₁.resolve = s.resolve := funext (Store.resolve_eq_of_cwd dirs.cwd)
  have kept : s₁.entryAt? (s.resolve target) = s.entryAt? (s.resolve target) := by
    refine dirs.confined _ ?_
    rw [Store.resolve_eq_build plain]
    exact Path.build_slash_not_mem_chain fun _ member => Path.component_of_mem_parts member
  have plain₁ : ".." ∉ Path.parts (Path.join s₁.cwd target) := by
    rw [dirs.cwd]
    exact plain
  have notDir₁ : s₁.isDir target = false := by
    cases dir : s₁.isDir target with
    | false => rfl
    | true =>
      obtain ⟨d, found⟩ := Store.isDir_iff.mp dir
      rw [Store.get?_eq_entryAt? plain₁, resolved, kept] at found
      exact absurd found (notDir d)
  obtain ⟨b, t, read, wrote⟩ := Store.copyFile_wrote plain₁ (copyPreserving_of_isDir_eq_false notDir₁ copied)
  rw [resolved] at wrote
  exact ⟨_, read, dirs, dirs.then_wrote wrote⟩

theorem copyOverlayFile_run' {webapp path rel : String} {w w' : Workspace} {written : List String}
    (ran : (copyOverlayFile webapp path rel).run' w = (.ok written, w')) :
    (rel = Artifact.manifestEntry ∨ w.store.present (Path.join webapp rel) = true) ∧ w'.store = w.store ∨
      rel ≠ Artifact.manifestEntry ∧ w.store.present (Path.join webapp rel) = false ∧
        ∃ s₁, w.store.makeDirs (Path.parent (Path.join webapp rel)) = .ok s₁ ∧
          copyPreserving s₁ path (Path.join webapp rel) = .ok w'.store := by
  unfold copyOverlayFile at ran
  by_cases manifest : (rel == Artifact.manifestEntry) = true
  · simp only [manifest, if_true, Step.run'_pure, Prod.mk.injEq] at ran
    exact .inl ⟨.inl (beq_iff_eq.mp manifest), by rw [← ran.2]⟩
  · simp only [manifest, Bool.false_eq_true, if_false, Step.run'_bind, currentStore_run'] at ran
    by_cases there : w.store.present (Path.join webapp rel) = true
    · simp only [there, if_true, Step.run'_pure, Prod.mk.injEq] at ran
      exact .inl ⟨.inr there, by rw [← ran.2]⟩
    · simp only [there, Bool.false_eq_true, if_false] at ran
      obtain ⟨u₁, w₁, made, rest⟩ := Step.run'_bind_eq_ok ran
      obtain ⟨u₂, w₂, copied, finished⟩ := Step.run'_bind_eq_ok rest
      obtain ⟨s₁, madeDirs, stored₁⟩ := changeOrFail_eq_ok made
      obtain ⟨s₂, copiedFile, stored₂⟩ := changeOrFail_eq_ok copied
      rw [Step.run'_pure, Prod.mk.injEq] at finished
      refine .inr ⟨fun same => manifest (beq_iff_eq.mpr same), by simpa using there, s₁, madeDirs, ?_⟩
      rw [← finished.2, stored₂, ← stored₁]
      exact copiedFile

section Laying

variable {s₀ s : Store} {source webapp : String} {x y : String × String}

theorem plain_target (plainApp : ".." ∉ Path.parts (Path.join s₀.cwd webapp)) (listed : Listed s₀ source x) :
    ".." ∉ Path.parts (Path.join s₀.cwd (Path.join webapp x.2)) := by
  rw [Path.parts_join_join listed.relative]
  exact fun member => (List.mem_append.mp member).elim plainApp listed.plain

theorem resolve_target (plainApp : ".." ∉ Path.parts (Path.join s₀.cwd webapp)) (listed : Listed s₀ source x) :
    s₀.resolve (Path.join webapp x.2) = Path.build "/" (Path.parts (Path.join s₀.cwd (Path.join webapp x.2))) :=
  Store.resolve_eq_build (plain_target plainApp listed)

theorem eq_of_mem_chainTo (tree : s₀.Tree) (plainApp : ".." ∉ Path.parts (Path.join s₀.cwd webapp))
    (lx : Listed s₀ source x) (ly : Listed s₀ source y)
    (member : s₀.resolve (Path.join webapp x.2) ∈ Path.chainTo (Path.parts (Path.join s₀.cwd (Path.join webapp y.2)))) :
    x = y := by
  have components : ∀ {z : String × String}, ∀ c ∈ Path.parts (Path.join s₀.cwd (Path.join webapp z.2)), Path.Component c :=
    fun _ member => Path.component_of_mem_parts member
  obtain ⟨j, -, spelled⟩ := Path.mem_chainTo.mp member
  rw [resolve_target plainApp lx] at spelled
  have taken := congrArg Path.parts spelled
  rw [Path.parts_build_slash fun c inTake => components c (List.mem_of_mem_take inTake),
    Path.parts_build_slash components] at taken
  have prefixed := taken ▸ List.take_prefix j (Path.parts (Path.join s₀.cwd (Path.join webapp y.2)))
  rw [Path.parts_join_join lx.relative, Path.parts_join_join ly.relative] at prefixed
  exact lx.eq_of_prefix tree ly ((List.prefix_append_right_inj _).mp prefixed)

theorem eq_of_resolve_eq (tree : s₀.Tree) (plainApp : ".." ∉ Path.parts (Path.join s₀.cwd webapp))
    (lx : Listed s₀ source x) (ly : Listed s₀ source y)
    (same : s₀.resolve (Path.join webapp x.2) = s₀.resolve (Path.join webapp y.2)) : x = y := by
  refine eq_of_mem_chainTo tree plainApp lx ly ?_
  rw [same, resolve_target plainApp ly]
  exact List.mem_append_right _ (List.mem_singleton_self _)

/-- What laying the entries `done` of an overlay over an application has left, against the
tree `s₀` it started from: every place is stamped, or, where `s₀` had nothing, holds what the
overlay holds for a done entry laid there; every done entry other than the manifest whose place
was free holds its copy; and only places on the way to done entries' places have changed. -/
structure Overlaid (s₀ : Store) (webapp : String) (done : List (String × String)) (s : Store) : Prop where
  cwd : s.cwd = s₀.cwd
  clock : s.clock = s₀.clock
  kept : ∀ k, Store.Stamped s₀ s k ∨ s₀.entryAt? k = none ∧
    ∃ x ∈ done, x.2 ≠ Artifact.manifestEntry ∧ k = s₀.resolve (Path.join webapp x.2) ∧ s.entryAt? k = s₀.get? x.1
  copied : ∀ x ∈ done, x.2 ≠ Artifact.manifestEntry → s₀.entryAt? (s₀.resolve (Path.join webapp x.2)) = none →
    s.entryAt? (s₀.resolve (Path.join webapp x.2)) = s₀.get? x.1
  confined : Store.Confined s₀ s fun k =>
    ∃ x ∈ done, k ∈ Path.chainTo (Path.parts (Path.join s₀.cwd (Path.join webapp x.2)))

namespace Overlaid

variable {done : List (String × String)}

theorem start (s₀ : Store) (webapp : String) : Overlaid s₀ webapp [] s₀ :=
  ⟨rfl, rfl, fun k => .inl (.refl s₀ k), fun _ member => absurd member List.not_mem_nil, .refl s₀ _⟩

theorem file (laid : Overlaid s₀ webapp done s) {k : String} {b : ByteArray} {t : Nat}
    (file : s₀.entryAt? k = some (.file b t)) : s.entryAt? k = some (.file b t) := by
  rcases laid.kept k with stamped | ⟨missing, -⟩
  · exact stamped.file file
  · rw [missing] at file
    cases file

theorem dir (laid : Overlaid s₀ webapp done s) {k : String} {d : Nat}
    (dir : s₀.entryAt? k = some (.dir d)) : ∃ d', s.entryAt? k = some (.dir d') := by
  rcases laid.kept k with stamped | ⟨missing, -⟩
  · exact stamped.dir dir
  · rw [missing] at dir
    cases dir

theorem missing (laid : Overlaid s₀ webapp done s) {k : String} (free : s.entryAt? k = none) :
    s₀.entryAt? k = none := by
  rcases laid.kept k with stamped | ⟨missing, -⟩
  · rcases stamped with same | ⟨made, -⟩
    · rw [← same, free]
    · rw [free] at made
      cases made
  · exact missing

theorem get?_target (laid : Overlaid s₀ webapp done s) (plainApp : ".." ∉ Path.parts (Path.join s₀.cwd webapp))
    (listed : Listed s₀ source x) : s.get? (Path.join webapp x.2) = s.entryAt? (s₀.resolve (Path.join webapp x.2)) := by
  rw [Store.get?_eq_entryAt? (by rw [laid.cwd]; exact plain_target plainApp listed), Store.resolve_eq_of_cwd laid.cwd]

section Step

variable (tree : s₀.Tree) (plainApp : ".." ∉ Path.parts (Path.join s₀.cwd webapp))
  (laid : Overlaid s₀ webapp done s) (lx : Listed s₀ source x) (listedDone : ∀ y ∈ done, Listed s₀ source y)
include tree plainApp laid lx listedDone

theorem skip (skipped : x.2 = Artifact.manifestEntry ∨ s.present (Path.join webapp x.2) = true) :
    Overlaid s₀ webapp (done ++ [x]) s where
  cwd := laid.cwd
  clock := laid.clock
  kept k := (laid.kept k).imp_right fun ⟨missing, y, member, rest⟩ =>
    ⟨missing, y, List.mem_append_left _ member, rest⟩
  copied y member := (List.mem_append.mp member).elim (laid.copied y) fun last => by
    rw [List.mem_singleton.mp last]
    intro notManifest free
    have taken : s.entryAt? (s₀.resolve (Path.join webapp x.2)) ≠ none := by
      rw [← laid.get?_target plainApp lx, ← Option.isSome_iff_ne_none]
      exact skipped.resolve_left notManifest
    obtain ⟨z, inDone, onWay⟩ : ∃ z ∈ done,
        s₀.resolve (Path.join webapp x.2) ∈ Path.chainTo (Path.parts (Path.join s₀.cwd (Path.join webapp z.2))) :=
      Classical.byContradiction fun outside => taken (by rw [laid.confined _ outside, free])
    have same := eq_of_mem_chainTo tree plainApp lx (listedDone z inDone) onWay
    subst same
    exact laid.copied _ inDone notManifest free
  confined := laid.confined.mono fun _ ⟨y, member, onWay⟩ => ⟨y, List.mem_append_left _ member, onWay⟩

omit tree listedDone in
theorem copy_wrote {s₁ s₂ : Store} (absent : s.present (Path.join webapp x.2) = false)
    (made : s.makeDirs (Path.parent (Path.join webapp x.2)) = .ok s₁)
    (copied : copyPreserving s₁ x.1 (Path.join webapp x.2) = .ok s₂) :
    ∃ e, s₀.get? x.1 = some e ∧ s.entryAt? (s₀.resolve (Path.join webapp x.2)) = none ∧
      Store.Wrote s s₂ (s₀.resolve (Path.join webapp x.2)) e fun k =>
        k ∈ Path.chain (Path.parts (Path.join s₀.cwd (Path.join webapp x.2))) ∨
          k = s₀.resolve (Path.parent (s₀.resolve (Path.join webapp x.2))) := by
  have plainPlace := plain_target plainApp lx
  have named : Path.parts (Path.join webapp x.2) ≠ [] := by
    rw [Path.parts_join, if_neg (by simp [lx.relative])]
    simp [lx.named]
  have resolved : s.resolve = s₀.resolve := funext (Store.resolve_eq_of_cwd laid.cwd)
  have free : s.entryAt? (s₀.resolve (Path.join webapp x.2)) = none := by
    rw [← laid.get?_target plainApp lx]
    simpa [Store.present] using absent
  obtain ⟨e, read, dirs, wrote⟩ := copyPreserving_after_makeDirs (by rw [laid.cwd]; exact plainPlace) named
    (fun d dir => by rw [resolved, free] at dir; cases dir) made copied
  rw [laid.cwd, resolved] at wrote
  have way₁ : s₁.blockedStep? source = none :=
    Store.blockedStep?_eq_none_of_dirs (dirs.cwd.trans laid.cwd)
      (fun k _ dir => (dirs.stamped k).dir (laid.dir dir).choose_spec) lx.way
  have original : s₁.get? x.1 = s₀.get? x.1 := by
    obtain ⟨b₀, t₀, file₀⟩ := lx.file
    rw [lx.get?_of_way way₁, lx.get?_eq, funext (Store.resolve_eq_of_cwd (dirs.cwd.trans laid.cwd)), file₀,
      (dirs.stamped _).file (laid.file file₀)]
  rw [original] at read
  exact ⟨e, read, free, wrote⟩

theorem copy {s₁ s₂ : Store} (notManifest : x.2 ≠ Artifact.manifestEntry)
    (absent : s.present (Path.join webapp x.2) = false)
    (made : s.makeDirs (Path.parent (Path.join webapp x.2)) = .ok s₁)
    (copied : copyPreserving s₁ x.1 (Path.join webapp x.2) = .ok s₂) : Overlaid s₀ webapp (done ++ [x]) s₂ := by
  obtain ⟨e, read, free, whole⟩ := laid.copy_wrote plainApp lx absent made copied
  have components : ∀ c ∈ Path.parts (Path.join s₀.cwd (Path.join webapp x.2)), Path.Component c :=
    fun _ member => Path.component_of_mem_parts member
  have keyOnWay : s₀.resolve (Path.join webapp x.2) ∈ Path.chainTo (Path.parts (Path.join s₀.cwd (Path.join webapp x.2))) := by
    rw [resolve_target plainApp lx]
    exact List.mem_append_right _ (List.mem_singleton_self _)
  have last : x ∈ done ++ [x] := List.mem_append_right _ (List.mem_singleton_self x)
  refine ⟨whole.cwd.trans laid.cwd, whole.clock.trans laid.clock, fun k => ?_, fun y member notManifestY freeY => ?_, ?_⟩
  · by_cases here : k = s₀.resolve (Path.join webapp x.2)
    · subst here
      exact .inr ⟨laid.missing free, x, last, notManifest, rfl, whole.written.trans read.symm⟩
    · have stamped := whole.stamped k here
      rcases laid.kept k with kept | ⟨missing, y, member, notManifestY, rfl, held⟩
      · exact .inl (kept.trans stamped laid.clock)
      · rcases stamped with same | ⟨dirMade, -⟩
        · exact .inr ⟨missing, y, List.mem_append_left _ member, notManifestY, rfl, same.trans held⟩
        · refine .inl (.inr ⟨by rw [dirMade, laid.clock], fun b t found => ?_⟩)
          rw [missing] at found
          cases found
  · rcases List.mem_append.mp member with inDone | isLast
    · have held := laid.copied y inDone notManifestY freeY
      by_cases same : s₀.resolve (Path.join webapp y.2) = s₀.resolve (Path.join webapp x.2)
      · have one := eq_of_resolve_eq tree plainApp (listedDone y inDone) lx same
        subst one
        exact whole.written.trans read.symm
      · obtain ⟨b', t', fileY⟩ := (listedDone y inDone).file
        rw [← (listedDone y inDone).get?_eq] at fileY
        rw [fileY] at held ⊢
        exact (whole.stamped _ same).file held
    · rw [List.mem_singleton.mp isLast]
      exact whole.written.trans read.symm
  · refine (laid.confined.trans whole.confined).mono fun k either => ?_
    rcases either with ⟨y, member, onWay⟩ | rfl | onChain | rfl
    · exact ⟨y, List.mem_append_left _ member, onWay⟩
    · exact ⟨x, last, keyOnWay⟩
    · exact ⟨x, last, List.mem_append_left _ onChain⟩
    · exact ⟨x, last, (Store.chainTo_closed components (plain_target plainApp lx) keyOnWay).2⟩

end Step

theorem step (tree : s₀.Tree) (plainApp : ".." ∉ Path.parts (Path.join s₀.cwd webapp)) {w w' : Workspace}
    {written : List String} (laid : Overlaid s₀ webapp done w.store) (lx : Listed s₀ source x)
    (listedDone : ∀ y ∈ done, Listed s₀ source y) (ran : (copyOverlayFile webapp x.1 x.2).run' w = (.ok written, w')) :
    Overlaid s₀ webapp (done ++ [x]) w'.store := by
  rcases copyOverlayFile_run' ran with ⟨skipped, kept⟩ | ⟨notManifest, absent, s₁, made, copied⟩
  · rw [kept]
    exact laid.skip tree plainApp lx listedDone skipped
  · exact laid.copy tree plainApp lx listedDone notManifest absent made copied

theorem run (tree : s₀.Tree) (plainApp : ".." ∉ Path.parts (Path.join s₀.cwd webapp)) :
    ∀ (rest done : List (String × String)) {w w' : Workspace} {written : List String},
      (∀ y ∈ done ++ rest, Listed s₀ source y) → Overlaid s₀ webapp done w.store →
      (copyOverlayFiles webapp rest).run' w = (.ok written, w') → Overlaid s₀ webapp (done ++ rest) w'.store
  | [], done, w, w', written, _, laid, ran => by
    rw [copyOverlayFiles, Step.run'_pure, Prod.mk.injEq] at ran
    rw [List.append_nil, ← ran.2]
    exact laid
  | (path, rel) :: rest, done, w, w', written, listed, laid, ran => by
    rw [copyOverlayFiles] at ran
    obtain ⟨first, w₁, ranFirst, ranRest⟩ := Step.run'_bind_eq_ok ran
    obtain ⟨later, w₂, ranLater, finished⟩ := Step.run'_bind_eq_ok ranRest
    rw [Step.run'_pure, Prod.mk.injEq] at finished
    have stepped := laid.step tree plainApp (listed (path, rel) (by simp))
      (fun y member => listed y (List.mem_append_left _ member)) ranFirst
    have rested := run tree plainApp rest (done ++ [(path, rel)]) (fun y member => listed y (by simpa using member))
      stepped ranLater
    rw [← finished.2]
    simpa using rested

end Overlaid

theorem applyOverlay_overlaid {w w' : Workspace} {source webapp : String} {written : List String}
    (tree : w.store.Tree) (plainApp : ".." ∉ Path.parts (Path.join w.store.cwd webapp))
    (ran : (applyOverlay source webapp).run' w = (.ok written, w')) :
    Overlaid w.store webapp (overlayEntries w.store source) w'.store := by
  simp only [applyOverlay, Step.run'_bind, currentStore_run'] at ran
  simpa using Overlaid.run tree plainApp _ []
    (fun y member => listed_of_mem_overlayEntries tree (by simpa using member)) (Overlaid.start _ _) ran


end Laying

theorem manifestEntry_spelled : Path.build "" (Path.parts Artifact.manifestEntry) = Artifact.manifestEntry := by
  decide

/-- Laying an overlay over an application whose path steps back nowhere never overwrites:
every file of the tree is kept with its bytes and time, every directory stays one, and the files
made where the tree had nothing are exactly the overlay's files, the manifest apart, each laid on
the place its path relative to the overlay names in the application, with its bytes and time. -/
theorem overlay_never_overwrites {w w' : Workspace} {source webapp : String} {written : List String}
    (tree : w.store.Tree) (plainApp : ".." ∉ Path.parts (Path.join w.store.cwd webapp))
    (ran : (applyOverlay source webapp).run' w = (.ok written, w')) :
    (∀ k b t, w.store.entryAt? k = some (.file b t) → w'.store.entryAt? k = some (.file b t)) ∧
    (∀ k d, w.store.entryAt? k = some (.dir d) → ∃ d', w'.store.entryAt? k = some (.dir d')) ∧
    ∀ k b t, w.store.entryAt? k = none →
      (w'.store.entryAt? k = some (.file b t) ↔ ∃ rel, OverlayFile w.store source rel b t ∧
        Path.parts rel ≠ Path.parts Artifact.manifestEntry ∧ k = w.store.resolve (Path.join webapp rel)) := by
  have laid := applyOverlay_overlaid tree plainApp ran
  refine ⟨fun k b t file => laid.file file, fun k d dir => laid.dir dir, fun k b t free => ⟨?_, ?_⟩⟩
  · -- A file where the tree had nothing is the copy of the entry laid there.
    intro created
    rcases laid.kept k with stamped | ⟨-, x, member, notManifest, rfl, held⟩
    · rw [stamped.file_of_file created] at free
      cases free
    · have lx := listed_of_mem_overlayEntries tree member
      refine ⟨x.2, ⟨lx.relative, lx.named, lx.plain, ?_⟩, fun same => notManifest ?_, rfl⟩
      · rw [← lx.path, ← held, created]
      · rw [← lx.spelled, same, manifestEntry_spelled]
  · -- A file of the overlay is listed, and its copy is laid on its free place.
    rintro ⟨rel, file, notManifest, rfl⟩
    obtain ⟨x, member, same⟩ := listed_of_overlayFile tree file
    have lx := listed_of_mem_overlayEntries tree member
    obtain ⟨relative, -, -, found⟩ := file
    have place : w.store.resolve (Path.join webapp rel) = w.store.resolve (Path.join webapp x.2) :=
      Store.resolve_congr (by rw [Path.parts_join_join relative, Path.parts_join_join lx.relative, same])
    have read : w.store.get? x.1 = w.store.get? (Path.join source rel) :=
      Store.get?_congr (by rw [lx.path, Path.parts_join_join relative, Path.parts_join_join lx.relative, same])
    rw [place] at free ⊢
    rw [laid.copied x member (fun manifest => notManifest (by rw [← same, manifest])) free, read, found]

/-- An application holding a file `a`, and an overlay with files `a` and `b`. -/
def overlaySample : Workspace where
  store := { entries := [("/w", .dir 0), ("/w/a", .file ⟨#[1]⟩ 0), ("/o", .dir 0), ("/o/a", .file ⟨#[2]⟩ 0),
    ("/o/b", .file ⟨#[3]⟩ 0)] }

/-- Laying that overlay over the application writes `b` only, keeping the application's `a`. -/
theorem overlay_sample_keeps_existing :
    overlaySample.store.Tree ∧ ".." ∉ Path.parts (Path.join overlaySample.store.cwd "/w") ∧
    (applyOverlay "/o" "/w").run' overlaySample = (.ok ["/w/b"], ((applyOverlay "/o" "/w").run' overlaySample).2) ∧
    (∀ k b t, overlaySample.store.entryAt? k = some (.file b t) →
      ((applyOverlay "/o" "/w").run' overlaySample).2.store.entryAt? k = some (.file b t)) ∧
    (∀ k d, overlaySample.store.entryAt? k = some (.dir d) →
      ∃ d', ((applyOverlay "/o" "/w").run' overlaySample).2.store.entryAt? k = some (.dir d')) ∧
    ∀ k b t, overlaySample.store.entryAt? k = none →
      (((applyOverlay "/o" "/w").run' overlaySample).2.store.entryAt? k = some (.file b t) ↔
        ∃ rel, OverlayFile overlaySample.store "/o" rel b t ∧
          Path.parts rel ≠ Path.parts Artifact.manifestEntry ∧ k = overlaySample.store.resolve (Path.join "/w" rel)) := by
  have tree : overlaySample.store.Tree := Store.Tree.of_entries (by decide) (by decide) (by decide +kernel)
  have plainApp : ".." ∉ Path.parts (Path.join overlaySample.store.cwd "/w") := by decide +kernel
  -- The kernel does not run the sort of the listing; it is sorted already.
  have listed : overlayEntries overlaySample.store "/o" = [("/o/a", "a"), ("/o/b", "b")] := by
    unfold overlayEntries
    rw [List.mergeSort_of_pairwise]
    · decide +kernel
    · decide +kernel
  have computed : ((applyOverlay "/o" "/w").run' overlaySample).1.toOption = some ["/w/b"] := by
    simp only [applyOverlay, Step.run'_bind, currentStore_run', listed]
    decide +kernel
  have ran : (applyOverlay "/o" "/w").run' overlaySample =
      (.ok ["/w/b"], ((applyOverlay "/o" "/w").run' overlaySample).2) := by
    refine Prod.ext ?_ rfl
    revert computed
    cases ((applyOverlay "/o" "/w").run' overlaySample).1 <;> simp [Except.toOption]
  exact ⟨tree, plainApp, ran, overlay_never_overwrites tree plainApp ran⟩

def overlayThroughUp : Workspace where
  store := { entries := [("/w", .dir 0), ("/w/rel", .file ⟨#[1]⟩ 0), ("/o", .dir 0), ("/o/rel", .file ⟨#[2]⟩ 0)] }

/-- Through `x/..` the application's file is overwritten: its place does not count as taken
while `x` is missing, and making the way to it makes `x` before the copy. -/
theorem overlay_through_up_overwrites :
    ∃ w', (applyOverlay "/o" "x/../w").run' overlayThroughUp = (.ok ["x/../w/rel"], w') ∧
      (overlayThroughUp.store.readFile "/w/rel").toOption.map ByteArray.toList = some [1] ∧
      (w'.store.readFile "/w/rel").toOption.map ByteArray.toList = some [2] := by
  have listed : overlayEntries overlayThroughUp.store "/o" = [("/o/rel", "rel")] := by
    unfold overlayEntries
    rw [List.mergeSort_of_pairwise]
    · decide +kernel
    · decide +kernel
  have computed : ((applyOverlay "/o" "x/../w").run' overlayThroughUp).1.toOption = some ["x/../w/rel"] := by
    simp only [applyOverlay, Step.run'_bind, currentStore_run', listed]
    decide +kernel
  have ran : (applyOverlay "/o" "x/../w").run' overlayThroughUp =
      (.ok ["x/../w/rel"], ((applyOverlay "/o" "x/../w").run' overlayThroughUp).2) := by
    refine Prod.ext ?_ rfl
    revert computed
    cases ((applyOverlay "/o" "x/../w").run' overlayThroughUp).1 <;> simp [Except.toOption]
  refine ⟨_, ran, by decide +kernel, ?_⟩
  simp only [applyOverlay, Step.run'_bind, currentStore_run', listed]
  decide +kernel

end PluginPack.Assembly
