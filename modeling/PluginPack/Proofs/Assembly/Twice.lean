import PluginPack.Proofs.Assembly.Place

/-! Assembling twice: the second assembly changes nothing.

Each placement of a first assembly leaves its artifact placed (`Placed`), and no later placement
undoes that: a later copy only makes a target newer, a later unpacking touches its own cache
only, and laying an overlay writes only where the application has nothing. Places outside the
application and the caches are only stamped, so the artifacts' files stay as they were. A
second assembly then finds every artifact placed and changes nothing
(`assemble_twice_changes_nothing`). This needs the application, the caches and the artifacts'
files apart: where a library's file is another placement's target, the first assembly can
leave a copy older than its file, and the second copies it again. -/

namespace PluginPack.Files.Path

theorem parts_of_component {c : String} (component : Component c) : parts c = [c] := by
  simpa using parts_intercalate [c] fun _ member => (List.mem_singleton.mp member) ▸ component

theorem isAbsolute_of_component {c : String} (component : Component c) : isAbsolute c = false := by
  have head : ("/".intercalate [c]).toList.head? ≠ some '/' :=
    head?_intercalate fun _ member => (List.mem_singleton.mp member) ▸ component
  rw [String.intercalate_singleton] at head
  exact Bool.eq_false_iff.mpr fun absolute => head ((isAbsolute_iff c).mp absolute)

end PluginPack.Files.Path

namespace PluginPack.Assembly

open Files

section Renewing

variable {W : List String} {s s₁ s' : Store} {k : String}

/-- What placing one artifact does at a place `k`: it keeps what is there or stamps a directory,
or, in the application (the places below the components `W`) and where no directory is, it
writes a file at least as new as what was there. -/
def Renewed (W : List String) (s s' : Store) (k : String) : Prop :=
  Store.Stamped s s' k ∨ W <+: Path.parts k ∧ (∀ d, s.entryAt? k ≠ some (.dir d)) ∧
    ∃ b t, s'.entryAt? k = some (.file b t) ∧ ∀ e, s.entryAt? k = some e → e.mtime ≤ t

namespace Renewed

theorem after_stamped (first : Store.Stamped s s₁ k) (second : Renewed W s₁ s' k) (clock : s₁.clock = s.clock) :
    Renewed W s s' k := by
  rcases second with stamped | ⟨inside, noDir, b, t, written, newer⟩
  · exact .inl (first.trans stamped clock)
  · rcases first with same | ⟨dir, -⟩
    · rw [same] at noDir newer
      exact .inr ⟨inside, noDir, b, t, written, newer⟩
    · exact absurd dir (noDir _)

theorem stamped (renewed : Renewed W s s' k) (outside : ¬W <+: Path.parts k) : Store.Stamped s s' k :=
  renewed.resolve_right fun written => outside written.1

theorem present (renewed : Renewed W s s' k) (there : s.entryAt? k ≠ none) : s'.entryAt? k ≠ none := by
  rcases renewed with (same | ⟨dir, -⟩) | ⟨-, -, b, t, written, -⟩
  · rwa [same]
  · rw [dir]
    simp
  · rw [written]
    simp

theorem newer (renewed : Renewed W s s' k) {e : Entry} (found : s.entryAt? k = some e) {u : Nat}
    (bound : u ≤ e.mtime) (early : u ≤ s.clock) : ∃ e', s'.entryAt? k = some e' ∧ u ≤ e'.mtime := by
  rcases renewed with (same | ⟨dir, -⟩) | ⟨-, -, b, t, written, later⟩
  · exact ⟨e, by rw [same, found], bound⟩
  · exact ⟨_, dir, early⟩
  · exact ⟨_, written, bound.trans (later e found)⟩

theorem dir (renewed : Renewed W s s' k) {d : Nat} (dir : s'.entryAt? k = some (.dir d)) :
    s.entryAt? k = some (.dir d) ∨ d = s.clock := by
  rcases renewed with (same | ⟨stamped, -⟩) | ⟨-, -, b, t, written, -⟩
  · exact .inl (by rw [← same, dir])
  · rw [dir] at stamped
    exact .inr (Entry.dir.inj (Option.some.inj stamped))
  · rw [dir] at written
    cases written

end Renewed

/-- What placing one artifact does to a tree: the working directory and the clock stay, the tree
stays one, and every place outside `region` is renewed. -/
structure Placing (W : List String) (region : String → Prop) (s s' : Store) : Prop where
  cwd : s'.cwd = s.cwd
  clock : s'.clock = s.clock
  tree : s'.Tree
  renewed : ∀ k, ¬region k → Renewed W s s' k

end Renewing

section Plain

variable {s : Store} {p : String}

theorem get?_eq_of_cwd {t : Store} (cwd : t.cwd = s.cwd) (plain : ".." ∉ Path.parts (Path.join s.cwd p)) :
    t.get? p = t.entryAt? (s.resolve p) := by
  rw [Store.get?_eq_entryAt? (by rwa [cwd]), Store.resolve_eq_of_cwd cwd]

theorem resolve_join_below {dir rel : String} (relative : Path.isAbsolute rel = false) (plainRel : ".." ∉ Path.parts rel) :
    Path.parts (s.resolve dir) <+: Path.parts (s.resolve (Path.join dir rel)) := by
  rw [Store.resolve_join relative plainRel, Path.parts_build_slash (components_below s dir rel)]
  exact List.prefix_append _ _

theorem plain_join {dir rel : String} (relative : Path.isAbsolute rel = false) (plainDir : ".." ∉ Path.parts (Path.join s.cwd dir))
    (plainRel : ".." ∉ Path.parts rel) : ".." ∉ Path.parts (Path.join s.cwd (Path.join dir rel)) := by
  rw [Path.parts_join_join relative]
  exact fun member => (List.mem_append.mp member).elim plainDir plainRel

end Plain

theorem copyIfModified_placing {W : List String} {source target : String} {w w' : Workspace} {b : Bool} {bs : ByteArray}
    {u : Nat} (tree : w.store.Tree) (plainSource : ".." ∉ Path.parts (Path.join w.store.cwd source))
    (plainTarget : ".." ∉ Path.parts (Path.join w.store.cwd target)) (named : Path.parts target ≠ [])
    (file : w.store.get? source = some (.file bs u)) (early : u ≤ w.store.clock)
    (sourceOutside : ¬W <+: Path.parts (w.store.resolve source)) (targetInside : W <+: Path.parts (w.store.resolve target))
    (dirTarget : ∀ d, w.store.get? target = some (.dir d) → d = w.store.clock)
    (ran : (copyIfModified source target).run' w = (.ok b, w')) :
    Placing W (fun _ => False) w.store w'.store ∧ AsNew w'.store source target := by
  rcases copyIfModified_run' ran with ⟨-, same, fresh⟩ | ⟨-, stale, s₁, made, copied⟩
  · rw [same]
    exact ⟨⟨rfl, rfl, tree, fun k _ => .inl (.refl _ k)⟩, fresh⟩
  -- A stale target is no directory: a directory there would carry the clock, as new as the file.
  have sourceTime : w.store.mtime? source = some u := by simp [Store.mtime?, file, Entry.mtime]
  have notDir : ∀ d, w.store.entryAt? (w.store.resolve target) ≠ some (.dir d) := fun d dir => by
    rw [← Store.get?_eq_entryAt? plainTarget] at dir
    have clocked := dirTarget d dir
    have older := stale d u (by simp [Store.mtime?, dir, Entry.mtime]) sourceTime
    omega
  obtain ⟨e, read, dirs, wrote⟩ := copyPreserving_after_makeDirs plainTarget named notDir made copied
  have resolved : s₁.resolve = w.store.resolve := funext (Store.resolve_eq_of_cwd dirs.cwd)
  have sourceKey : w.store.resolve source ≠ w.store.resolve target := fun same => by
    rw [same] at sourceOutside
    exact sourceOutside targetInside
  have file₁ : s₁.get? source = some (.file bs u) := by
    rw [Store.get?_eq_entryAt? (by rw [dirs.cwd]; exact plainSource), resolved]
    rw [Store.get?_eq_entryAt? plainSource] at file
    exact (dirs.stamped _).file file
  rw [file₁, Option.some.injEq] at read
  subst read
  refine ⟨⟨wrote.cwd, wrote.clock, copyPreserving_tree (tree.makeDirs made) copied, fun k _ => ?_⟩, ?_⟩
  · by_cases here : k = w.store.resolve target
    · subst here
      refine .inr ⟨targetInside, notDir, bs, u, wrote.written, fun e found => ?_⟩
      have older := stale e.mtime u (by rw [Store.mtime?, Store.get?_eq_entryAt? plainTarget, found]; rfl) sourceTime
      omega
    · exact .inl (wrote.stamped k here)
  · have plain' : ∀ q, ".." ∉ Path.parts (Path.join w.store.cwd q) → ".." ∉ Path.parts (Path.join w'.store.cwd q) :=
      fun q plain => by rw [wrote.cwd]; exact plain
    have resolved' : w'.store.resolve = w.store.resolve := funext (Store.resolve_eq_of_cwd wrote.cwd)
    have kept' : w'.store.entryAt? (w.store.resolve source) = some (.file bs u) := by
      rw [Store.get?_eq_entryAt? plainSource] at file
      exact (wrote.stamped _ sourceKey).file file
    refine ⟨u, u, ?_, ?_, le_refl u⟩
    · simp [Store.mtime?, Store.get?_eq_entryAt? (plain' _ plainTarget), resolved', wrote.written, Entry.mtime]
    · simp [Store.mtime?, Store.get?_eq_entryAt? (plain' _ plainSource), resolved', kept', Entry.mtime]

section Regions

variable {W O l : List String} {c c' : String}

theorem not_app_of_cache (apart : ¬W <+: O ∧ ¬O <+: W) (inCache : O ++ [c] <+: l) : ¬W <+: l := by
  intro inApp
  rcases List.prefix_or_prefix_of_prefix inApp inCache with appFirst | cacheFirst
  · rcases List.prefix_concat_iff.mp appFirst with same | appAbove
    · exact apart.2 (by rw [same]; exact List.prefix_append _ _)
    · exact apart.1 appAbove
  · exact apart.2 ((List.prefix_append _ _).trans cacheFirst)

theorem not_cache_of_cache (other : c ≠ c') (inCache : O ++ [c] <+: l) : ¬O ++ [c'] <+: l := by
  intro inOther
  have same : O ++ [c] = O ++ [c'] := by
    rcases List.prefix_or_prefix_of_prefix inCache inOther with first | second
    · exact first.eq_of_length (by simp)
    · exact (second.eq_of_length (by simp)).symm
  exact other (List.singleton_inj.mp (List.append_cancel_left same))

end Regions

section Places

variable {s : Store} {webapp : String} {p : Placement}

theorem Destination.path_plain {d : Destination} (library : d ≠ .overlay) :
    Path.isAbsolute d.path = false ∧ ".." ∉ Path.parts d.path ∧ Path.parts d.path ≠ [] := by
  cases d with
  | library => decide +kernel
  | tld => decide +kernel
  | overlay => exact absurd rfl library

section Target

variable (library : p.destination ≠ .overlay) (relative : Path.isAbsolute p.fileName = false)
  (plainName : ".." ∉ Path.parts p.fileName)
include library relative plainName

theorem plain_libraryTarget (plainApp : ".." ∉ Path.parts (Path.join s.cwd webapp)) :
    ".." ∉ Path.parts (Path.join s.cwd (p.target webapp)) :=
  have destination := Destination.path_plain library
  plain_join relative (plain_join destination.1 plainApp destination.2.1) plainName

omit plainName in
theorem named_libraryTarget : Path.parts (p.target webapp) ≠ [] := by
  have destination := Destination.path_plain library
  simp [Placement.target, Path.parts_join, relative, destination.1, destination.2.2]

theorem libraryTarget_inside :
    Path.parts (s.resolve webapp) <+: Path.parts (s.resolve (p.target webapp)) :=
  have destination := Destination.path_plain library
  (resolve_join_below destination.1 destination.2.1).trans (resolve_join_below relative plainName)

end Target

section Cache

variable {a : Assembler} (component : Path.Component (Path.stem p.fileName)) (notUp : Path.stem p.fileName ≠ "..")
include component notUp

theorem plain_overlayCache (plainCaches : ".." ∉ Path.parts (Path.join s.cwd (Path.join a.workDir "overlays"))) :
    ".." ∉ Path.parts (Path.join s.cwd (a.overlayCache p)) :=
  plain_join (Path.isAbsolute_of_component component) plainCaches
    (by rw [Path.parts_of_component component]; simpa using notUp.symm)

omit notUp in
theorem named_overlayCache : Path.parts (a.overlayCache p) ≠ [] := by
  simp [Assembler.overlayCache, Path.parts_join, Path.isAbsolute_of_component component,
    Path.parts_of_component component]

theorem parts_resolve_overlayCache :
    Path.parts (s.resolve (a.overlayCache p)) =
      Path.parts (s.resolve (Path.join a.workDir "overlays")) ++ [Path.stem p.fileName] := by
  rw [Assembler.overlayCache, Store.resolve_join (Path.isAbsolute_of_component component)
      (by rw [Path.parts_of_component component]; simpa using notUp.symm),
    Path.parts_build_slash (components_below _ _ _), Path.parts_of_component component]

end Cache

end Places

section Laying

variable {cache webapp : String} {w₁ w' : Workspace} {written : List String}

theorem applyOverlay_renews (tree : w₁.store.Tree) (plainApp : ".." ∉ Path.parts (Path.join w₁.store.cwd webapp))
    (laying : (applyOverlay cache webapp).run' w₁ = (.ok written, w')) (k : String) :
    Renewed (Path.parts (w₁.store.resolve webapp)) w₁.store w'.store k := by
  have laid := applyOverlay_overlaid tree plainApp laying
  rcases laid.kept k with stamped | ⟨free, x, member, -, key, held⟩
  · exact .inl stamped
  · have lx := listed_of_mem_overlayEntries tree member
    obtain ⟨bx, tx, fileX⟩ := lx.file
    rw [← lx.get?_eq] at fileX
    refine .inr ⟨by rw [key]; exact resolve_join_below lx.relative lx.plain, fun d dir => ?_, bx, tx,
      by rw [held, fileX], fun e found => ?_⟩
    · rw [free] at dir
      cases dir
    · rw [free] at found
      cases found

theorem applyOverlay_covers (tree : w₁.store.Tree) (plainCache : ".." ∉ Path.parts (Path.join w₁.store.cwd cache))
    (plainApp : ".." ∉ Path.parts (Path.join w₁.store.cwd webapp))
    (apart : ∀ k, Path.parts (w₁.store.resolve cache) <+: Path.parts k → ¬Path.parts (w₁.store.resolve webapp) <+: Path.parts k)
    (laying : (applyOverlay cache webapp).run' w₁ = (.ok written, w')) :
    Covered w'.store cache webapp := by
  have laid := applyOverlay_overlaid tree plainApp laying
  intro rel bf tf overlayFile
  obtain ⟨relative, namedRel, plainRel, found⟩ := overlayFile
  have plainFile := plain_join relative plainCache plainRel
  have inCache : Path.parts (w₁.store.resolve cache) <+: Path.parts (w₁.store.resolve (Path.join cache rel)) :=
    resolve_join_below relative plainRel
  rw [get?_eq_of_cwd laid.cwd plainFile] at found
  have found₁ : w₁.store.entryAt? (w₁.store.resolve (Path.join cache rel)) = some (.file bf tf) := by
    rcases laid.kept (w₁.store.resolve (Path.join cache rel)) with stamped | ⟨-, x, member, -, key, -⟩
    · exact stamped.file_of_file found
    · have lx := listed_of_mem_overlayEntries tree member
      rw [key] at inCache
      exact absurd (resolve_join_below lx.relative lx.plain) (apart _ inCache)
  obtain ⟨x, member, same⟩ := listed_of_overlayFile tree
    ⟨relative, namedRel, plainRel, by rw [Store.get?_eq_entryAt? plainFile]; exact found₁⟩
  have lx := listed_of_mem_overlayEntries tree member
  by_cases manifest : x.2 = Artifact.manifestEntry
  · exact .inl (by rw [← same, manifest])
  · refine .inr ?_
    have plainX := plain_join lx.relative plainApp lx.plain
    have place : w'.store.present (Path.join webapp rel) = w'.store.present (Path.join webapp x.2) :=
      congrArg Option.isSome (Store.get?_congr (by rw [Path.parts_join_join relative, Path.parts_join_join lx.relative, same]))
    rw [place, Store.present, get?_eq_of_cwd laid.cwd plainX, Option.isSome_iff_ne_none]
    cases free : w₁.store.entryAt? (w₁.store.resolve (Path.join webapp x.2)) with
    | none =>
      have copied := laid.copied x member manifest free
      obtain ⟨bx, tx, fileX⟩ := lx.file
      rw [← lx.get?_eq] at fileX
      rw [fileX] at copied
      rw [copied]
      simp
    | some e => exact (applyOverlay_renews tree plainApp laying _).present (by rw [free]; simp)

end Laying

theorem overlay_placing {archive cache webapp : String} {w w₁ w' : Workspace} {b : Bool} {written : List String}
    (tree : w.store.Tree) (plainCache : ".." ∉ Path.parts (Path.join w.store.cwd cache)) (named : Path.parts cache ≠ [])
    (plainApp : ".." ∉ Path.parts (Path.join w.store.cwd webapp))
    (apart : ∀ k, Path.parts (w.store.resolve cache) <+: Path.parts k → ¬Path.parts (w.store.resolve webapp) <+: Path.parts k)
    (unpacking : (unpackCached archive cache).run' w = (.ok b, w₁))
    (laying : (applyOverlay cache webapp).run' w₁ = (.ok written, w')) :
    Placing (Path.parts (w.store.resolve webapp)) (fun k => Path.parts (w.store.resolve cache) <+: Path.parts k)
        w.store w'.store ∧
      Covered w'.store cache webapp ∧
      ∀ source bs u, ".." ∉ Path.parts (Path.join w.store.cwd source) → w.store.get? source = some (.file bs u) →
        u ≤ w.store.clock → ¬Path.parts (w.store.resolve cache) <+: Path.parts (w.store.resolve source) →
        (source = archive ∨ Unpacked w.store source cache) → Unpacked w'.store source cache := by
  obtain ⟨within, tree₁, cacheState⟩ := unpackCached_unpacks tree plainCache named unpacking
  have plainApp₁ : ".." ∉ Path.parts (Path.join w₁.store.cwd webapp) := by
    rw [within.cwd]
    exact plainApp
  have plainCache₁ : ".." ∉ Path.parts (Path.join w₁.store.cwd cache) := by
    rw [within.cwd]
    exact plainCache
  have laid := applyOverlay_overlaid tree₁ plainApp₁ laying
  have cwd' : w'.store.cwd = w.store.cwd := laid.cwd.trans within.cwd
  have resolved₁ : w₁.store.resolve = w.store.resolve := funext (Store.resolve_eq_of_cwd within.cwd)
  have renewed₁ : ∀ k, Renewed (Path.parts (w.store.resolve webapp)) w₁.store w'.store k := by
    rw [← resolved₁]
    exact applyOverlay_renews tree₁ plainApp₁ laying
  refine ⟨⟨cwd', laid.clock.trans within.clock, applyOverlay_tree tree₁ laying,
    fun k outside => (renewed₁ k).after_stamped (within.stamped k outside) within.clock⟩,
    applyOverlay_covers tree₁ plainCache₁ plainApp₁ (by rw [resolved₁]; exact apart) laying, ?_⟩
  · -- A cache as new as an archive stays so: unpacking stamps it with the clock or leaves it, and
    intro source bs u plainSource file early outside either
    rw [Store.get?_eq_entryAt? plainSource] at file
    have file₁ : w₁.store.entryAt? (w.store.resolve source) = some (.file bs u) := (within.stamped _ outside).file file
    have unpacked₁ : ∃ d, w₁.store.entryAt? (w.store.resolve cache) = some (.dir d) ∧ u ≤ d := by
      rcases cacheState with ⟨same, d, t, dir, dated, newer⟩ | stamped
      · rw [same]
        rcases either with rfl | ⟨d', t', dir', dated', newer'⟩
        · rw [Store.get?_eq_entryAt? plainCache] at dir
          rw [Store.mtime?, Store.get?_eq_entryAt? plainSource, file] at dated
          cases dated
          exact ⟨d, dir, newer⟩
        · rw [Store.get?_eq_entryAt? plainCache] at dir'
          rw [Store.mtime?, Store.get?_eq_entryAt? plainSource, file] at dated'
          cases dated'
          exact ⟨d', dir', newer'⟩
      · exact ⟨_, stamped, early⟩
    obtain ⟨d, dir₁, newer⟩ := unpacked₁
    obtain ⟨d', dir'⟩ := laid.dir dir₁
    refine ⟨d', u, by rw [get?_eq_of_cwd cwd' plainCache]; exact dir', ?_, ?_⟩
    · rw [Store.mtime?, get?_eq_of_cwd cwd' plainSource, laid.file file₁]
      rfl
    · rcases (renewed₁ _).dir dir' with same | clocked
      · rw [dir₁] at same
        cases same
        exact newer
      · rw [clocked, within.clock]
        exact early

section Kept

variable {W : List String} {region : String → Prop} {s s' : Store}

theorem AsNew.of_placing {source target : String} {bs : ByteArray} {u : Nat} (placing : Placing W region s s')
    (fresh : AsNew s source target) (plainSource : ".." ∉ Path.parts (Path.join s.cwd source))
    (plainTarget : ".." ∉ Path.parts (Path.join s.cwd target)) (file : s.get? source = some (.file bs u))
    (early : u ≤ s.clock) (sourceOutside : ¬W <+: Path.parts (s.resolve source)) (sourceFree : ¬region (s.resolve source))
    (targetFree : ¬region (s.resolve target)) : AsNew s' source target := by
  obtain ⟨t, u', dated, timed, newer⟩ := fresh
  have sameTime : u = u' := by simpa [Store.mtime?, file, Entry.mtime] using timed
  subst sameTime
  rw [Store.mtime?, Store.get?_eq_entryAt? plainTarget, Option.map_eq_some_iff] at dated
  obtain ⟨e, found, rfl⟩ := dated
  obtain ⟨e', found', later⟩ := (placing.renewed _ targetFree).newer found newer early
  rw [Store.get?_eq_entryAt? plainSource] at file
  have file' := ((placing.renewed _ sourceFree).stamped sourceOutside).file file
  refine ⟨e'.mtime, u, ?_, ?_, later⟩
  · rw [Store.mtime?, get?_eq_of_cwd placing.cwd plainTarget, found']
    rfl
  · rw [Store.mtime?, get?_eq_of_cwd placing.cwd plainSource, file']
    rfl

theorem Unpacked.of_placing {archive cache : String} {ba : ByteArray} {u : Nat} (placing : Placing W region s s')
    (unpacked : Unpacked s archive cache) (plainArchive : ".." ∉ Path.parts (Path.join s.cwd archive))
    (plainCache : ".." ∉ Path.parts (Path.join s.cwd cache)) (file : s.get? archive = some (.file ba u))
    (early : u ≤ s.clock) (archiveOutside : ¬W <+: Path.parts (s.resolve archive))
    (archiveFree : ¬region (s.resolve archive)) (cacheOutside : ¬W <+: Path.parts (s.resolve cache))
    (cacheFree : ¬region (s.resolve cache)) : Unpacked s' archive cache := by
  obtain ⟨d, t, dir, dated, newer⟩ := unpacked
  have sameTime : u = t := by simpa [Store.mtime?, file, Entry.mtime] using dated
  subst sameTime
  rw [Store.get?_eq_entryAt? plainCache] at dir
  rw [Store.get?_eq_entryAt? plainArchive] at file
  have stampedCache := (placing.renewed _ cacheFree).stamped cacheOutside
  obtain ⟨d', dir'⟩ := stampedCache.dir dir
  refine ⟨d', u, by rw [get?_eq_of_cwd placing.cwd plainCache, dir'], ?_, ?_⟩
  · rw [Store.mtime?, get?_eq_of_cwd placing.cwd plainArchive,
      ((placing.renewed _ archiveFree).stamped archiveOutside).file file]
    rfl
  · rcases (placing.renewed _ cacheFree).dir dir' with same | clocked
    · rw [dir] at same
      cases same
      exact newer
    · rw [clocked]
      exact early

theorem Covered.of_placing {cache webapp : String} (placing : Placing W region s s') (covered : Covered s cache webapp)
    (plainCache : ".." ∉ Path.parts (Path.join s.cwd cache)) (plainApp : ".." ∉ Path.parts (Path.join s.cwd webapp))
    (cacheKept : ∀ k, Path.parts (s.resolve cache) <+: Path.parts k → ¬region k ∧ ¬W <+: Path.parts k)
    (appFree : ∀ k, Path.parts (s.resolve webapp) <+: Path.parts k → ¬region k) : Covered s' cache webapp := by
  intro rel b t overlayFile
  obtain ⟨relative, named, plainRel, found⟩ := overlayFile
  have plainFile := plain_join relative plainCache plainRel
  rw [get?_eq_of_cwd placing.cwd plainFile] at found
  have kept := cacheKept _ (resolve_join_below relative plainRel)
  have found₀ := ((placing.renewed _ kept.1).stamped kept.2).file_of_file found
  rcases covered rel b t ⟨relative, named, plainRel, by rw [Store.get?_eq_entryAt? plainFile, found₀]⟩ with
    manifest | present
  · exact .inl manifest
  · have plainPlace := plain_join relative plainApp plainRel
    rw [Store.present, Store.get?_eq_entryAt? plainPlace, Option.isSome_iff_ne_none] at present
    have present' := (placing.renewed _ (appFree _ (resolve_join_below relative plainRel))).present present
    rw [Store.present, get?_eq_of_cwd placing.cwd plainPlace, Option.isSome_iff_ne_none]
    exact .inr present'

end Kept

/-- Where assembling twice changes nothing the second time. The tree is a tree; the application
and the overlay caches are spelled without `..` and lie apart, neither at or below the other;
every placement has a file, a regular file dated no later than the clock, spelled without `..`
and outside both; a library's file name is relative and steps back nowhere, and its target is
no directory; an overlay's cache is named by one component. -/
structure Separated (a : Assembler) (webapp : String) (s : Store) (ps : List Placement) : Prop where
  tree : s.Tree
  plainApp : ".." ∉ Path.parts (Path.join s.cwd webapp)
  plainCaches : ".." ∉ Path.parts (Path.join s.cwd (Path.join a.workDir "overlays"))
  apart : ¬Path.parts (s.resolve webapp) <+: Path.parts (s.resolve (Path.join a.workDir "overlays")) ∧
    ¬Path.parts (s.resolve (Path.join a.workDir "overlays")) <+: Path.parts (s.resolve webapp)
  sources : ∀ p ∈ ps, ∃ source b t, p.facade.file = some source ∧ ".." ∉ Path.parts (Path.join s.cwd source) ∧
    s.get? source = some (.file b t) ∧ t ≤ s.clock ∧ ¬Path.parts (s.resolve webapp) <+: Path.parts (s.resolve source) ∧
    ¬Path.parts (s.resolve (Path.join a.workDir "overlays")) <+: Path.parts (s.resolve source)
  libraries : ∀ p ∈ ps, p.destination ≠ .overlay →
    Path.isAbsolute p.fileName = false ∧ ".." ∉ Path.parts p.fileName ∧ s.isDir (p.target webapp) = false
  overlays : ∀ p ∈ ps, p.destination = .overlay → Path.Component (Path.stem p.fileName) ∧ Path.stem p.fileName ≠ ".."

/-- What a first assembly keeps after the placements `done`: the working directory, the clock and
a tree; every place outside the application and the caches as it was or stamped; every library
target that has become a directory stamped with the clock; and every artifact placed so far
placed. -/
structure Assembled (a : Assembler) (webapp : String) (s₀ : Store) (ps done : List Placement) (s : Store) : Prop where
  cwd : s.cwd = s₀.cwd
  clock : s.clock = s₀.clock
  tree : s.Tree
  outside : ∀ k, ¬Path.parts (s₀.resolve webapp) <+: Path.parts k →
    ¬Path.parts (s₀.resolve (Path.join a.workDir "overlays")) <+: Path.parts k → Store.Stamped s₀ s k
  dirTargets : ∀ p ∈ ps, p.destination ≠ .overlay → ∀ d, s.get? (p.target webapp) = some (.dir d) → d = s₀.clock
  placed : ∀ p ∈ done, Placed s a webapp p

namespace Assembled

variable {a : Assembler} {webapp : String} {s₀ s s' : Store} {ps done : List Placement} {p : Placement}

theorem start (separated : Separated a webapp s₀ ps) : Assembled a webapp s₀ ps [] s₀ where
  cwd := rfl
  clock := rfl
  tree := separated.tree
  outside k _ _ := .refl s₀ k
  dirTargets p member library d dir := by
    have notDir := (separated.libraries p member library).2.2
    simp [Store.isDir, dir] at notDir
  placed _ member := absurd member List.not_mem_nil

theorem resolve_eq (assembled : Assembled a webapp s₀ ps done s) : s.resolve = s₀.resolve :=
  funext (Store.resolve_eq_of_cwd assembled.cwd)

theorem plain (assembled : Assembled a webapp s₀ ps done s) {q : String} (plain : ".." ∉ Path.parts (Path.join s₀.cwd q)) :
    ".." ∉ Path.parts (Path.join s.cwd q) := by
  rw [assembled.cwd]
  exact plain

theorem not_caches_of_app (separated : Separated a webapp s₀ ps) {k : String}
    (inApp : Path.parts (s₀.resolve webapp) <+: Path.parts k) :
    ¬Path.parts (s₀.resolve (Path.join a.workDir "overlays")) <+: Path.parts k := fun inCaches =>
  (List.prefix_or_prefix_of_prefix inApp inCaches).elim separated.apart.1 separated.apart.2

variable (separated : Separated a webapp s₀ ps) (assembled : Assembled a webapp s₀ ps done s)
include separated assembled

theorem source (member : p ∈ ps) :
    ∃ source bs u, p.facade.file = some source ∧ ".." ∉ Path.parts (Path.join s.cwd source) ∧
      s.get? source = some (.file bs u) ∧ u ≤ s.clock ∧
      ¬Path.parts (s₀.resolve webapp) <+: Path.parts (s.resolve source) ∧
      ¬Path.parts (s₀.resolve (Path.join a.workDir "overlays")) <+: Path.parts (s.resolve source) := by
  obtain ⟨source, bs, u, named, plainSource, file, early, outsideApp, outsideCaches⟩ := separated.sources p member
  rw [Store.get?_eq_entryAt? plainSource] at file
  refine ⟨source, bs, u, named, assembled.plain plainSource, ?_, by rw [assembled.clock]; exact early, ?_, ?_⟩
  · rw [get?_eq_of_cwd assembled.cwd plainSource]
    exact (assembled.outside _ outsideApp outsideCaches).file file
  · rw [assembled.resolve_eq]
    exact outsideApp
  · rw [assembled.resolve_eq]
    exact outsideCaches

theorem next {region : String → Prop} (placing : Placing (Path.parts (s₀.resolve webapp)) region s s')
    (inCaches : ∀ k, region k → Path.parts (s₀.resolve (Path.join a.workDir "overlays")) <+: Path.parts k)
    (placed : ∀ q ∈ done ++ [p], Placed s' a webapp q) : Assembled a webapp s₀ ps (done ++ [p]) s' where
  cwd := placing.cwd.trans assembled.cwd
  clock := placing.clock.trans assembled.clock
  tree := placing.tree
  outside k outsideApp outsideCaches :=
    (assembled.outside k outsideApp outsideCaches).trans
      ((placing.renewed k fun inside => outsideCaches (inCaches k inside)).stamped outsideApp) assembled.clock
  dirTargets q member library d dir := by
    obtain ⟨relative, plainName, -⟩ := separated.libraries q member library
    have plainTarget := plain_libraryTarget library relative plainName separated.plainApp
    have inApp : Path.parts (s₀.resolve webapp) <+: Path.parts (s₀.resolve (q.target webapp)) :=
      libraryTarget_inside library relative plainName
    rw [get?_eq_of_cwd (placing.cwd.trans assembled.cwd) plainTarget] at dir
    rcases (placing.renewed _ fun inside => not_caches_of_app separated inApp (inCaches _ inside)).dir dir with
      before | clocked
    · rw [← get?_eq_of_cwd assembled.cwd plainTarget] at before
      exact assembled.dirTargets q member library d before
    · rw [clocked, assembled.clock]
  placed := placed

theorem placed_of_placing {q : Placement} (member : q ∈ ps) (placedBefore : Placed s a webapp q)
    {region : String → Prop} (placing : Placing (Path.parts (s₀.resolve webapp)) region s s')
    (inCaches : ∀ k, region k → Path.parts (s₀.resolve (Path.join a.workDir "overlays")) <+: Path.parts k)
    (cacheFree : q.destination = .overlay →
      ∀ k, Path.parts (s₀.resolve (a.overlayCache q)) <+: Path.parts k → ¬region k) :
    Placed s' a webapp q := by
  obtain ⟨source, bs, u, named, plainSource, file, early, outsideApp, outsideCaches⟩ := assembled.source separated member
  obtain ⟨source', named', kind⟩ := placedBefore
  rw [named, Option.some.injEq] at named'
  subst named'
  have resolved := assembled.resolve_eq
  have sourceFree : ¬region (s.resolve source) := fun inside => outsideCaches (inCaches _ inside)
  have appFree : ∀ k, Path.parts (s.resolve webapp) <+: Path.parts k → ¬region k := fun k inApp inside => by
    rw [resolved] at inApp
    exact not_caches_of_app separated inApp (inCaches k inside)
  refine ⟨source, named, ?_⟩
  by_cases overlay : q.destination = .overlay
  · rw [if_pos overlay] at kind ⊢
    obtain ⟨component, notUp⟩ := separated.overlays q member overlay
    have plainCache := assembled.plain (plain_overlayCache (a := a) component notUp separated.plainCaches)
    have cacheParts := parts_resolve_overlayCache (s := s₀) (a := a) component notUp
    have cacheKept : ∀ k, Path.parts (s.resolve (a.overlayCache q)) <+: Path.parts k →
        ¬region k ∧ ¬Path.parts (s₀.resolve webapp) <+: Path.parts k := fun k inside => by
      rw [resolved] at inside
      refine ⟨cacheFree overlay k inside, ?_⟩
      rw [cacheParts] at inside
      exact not_app_of_cache separated.apart inside
    have atCache := cacheKept _ (List.prefix_refl _)
    exact ⟨kind.1.of_placing placing plainSource plainCache file early outsideApp sourceFree atCache.2 atCache.1,
      kind.2.of_placing placing plainCache (assembled.plain separated.plainApp) cacheKept appFree⟩
  · rw [if_neg overlay] at kind ⊢
    obtain ⟨relative, plainName, -⟩ := separated.libraries q member overlay
    have plainTarget := assembled.plain (plain_libraryTarget overlay relative plainName separated.plainApp)
    exact kind.of_placing placing plainSource plainTarget file early outsideApp sourceFree
      (appFree _ (libraryTarget_inside overlay relative plainName))

end Assembled

namespace Assembled

variable {a : Assembler} {webapp : String} {s₀ : Store} {ps done : List Placement} {p : Placement}

theorem step (separated : Separated a webapp s₀ ps) {w w' : Workspace} {r r' : Report}
    (assembled : Assembled a webapp s₀ ps done w.store) (listedDone : ∀ q ∈ done, q ∈ ps) (member : p ∈ ps)
    (ran : (a.place webapp r p).run' w = (.ok r', w')) : Assembled a webapp s₀ ps (done ++ [p]) w'.store := by
  obtain ⟨source, named, overlayRun, libraryRun⟩ := place_run' ran
  obtain ⟨source', bs, u, named', plainSource, file, early, outsideApp, outsideCaches⟩ := assembled.source separated member
  rw [named, Option.some.injEq] at named'
  subst named'
  have resolved := assembled.resolve_eq
  by_cases overlay : p.destination = .overlay
  · -- An overlay is unpacked into its cache and laid over the application.
    obtain ⟨b, w₁, written, unpacking, laying⟩ := overlayRun overlay
    obtain ⟨component, notUp⟩ := separated.overlays p member overlay
    have plainCache := assembled.plain (plain_overlayCache (a := a) component notUp separated.plainCaches)
    have cacheParts := parts_resolve_overlayCache (s := s₀) (a := a) component notUp
    have apartCache : ∀ k, Path.parts (w.store.resolve (a.overlayCache p)) <+: Path.parts k →
        ¬Path.parts (w.store.resolve webapp) <+: Path.parts k := fun k inCache => by
      rw [resolved, cacheParts] at inCache
      rw [resolved]
      exact not_app_of_cache separated.apart inCache
    obtain ⟨placing, covered, unpacked⟩ := overlay_placing assembled.tree plainCache (named_overlayCache (a := a) component)
      (assembled.plain separated.plainApp) apartCache unpacking laying
    rw [resolved] at placing
    have inCaches : ∀ l, Path.parts (s₀.resolve (a.overlayCache p)) <+: l →
        Path.parts (s₀.resolve (Path.join a.workDir "overlays")) <+: l := fun l inCache => by
      rw [cacheParts] at inCache
      exact (List.prefix_append _ _).trans inCache
    refine assembled.next separated placing (fun k inCache => inCaches _ inCache) fun q listed => ?_
    rcases List.mem_append.mp listed with before | last
    · by_cases sameCache : q.destination = .overlay ∧ Path.stem q.fileName = Path.stem p.fileName
      · -- An earlier overlay with the same cache: its cache is laid again.
        have cacheEq : a.overlayCache q = a.overlayCache p := by simp [Assembler.overlayCache, sameCache.2]
        obtain ⟨sourceQ, bsQ, uQ, namedQ, plainQ, fileQ, earlyQ, -, outsideQ⟩ :=
          assembled.source separated (listedDone q before)
        obtain ⟨sourceQ', namedQ', kind⟩ := assembled.placed q before
        rw [namedQ, Option.some.injEq] at namedQ'
        subst namedQ'
        rw [if_pos sameCache.1, cacheEq] at kind
        refine ⟨sourceQ, namedQ, ?_⟩
        rw [if_pos sameCache.1, cacheEq]
        refine ⟨unpacked sourceQ bsQ uQ plainQ fileQ earlyQ (fun inCache => outsideQ ?_) (.inr kind.1), covered⟩
        rw [resolved] at inCache ⊢
        exact inCaches _ inCache
      · -- Any other earlier placement keeps its cache or its copy.
        refine assembled.placed_of_placing separated (listedDone q before) (assembled.placed q before) placing
          (fun k inCache => inCaches _ inCache) fun overlayQ k inQ inP => ?_
        obtain ⟨componentQ, notUpQ⟩ := separated.overlays q (listedDone q before) overlayQ
        rw [parts_resolve_overlayCache (a := a) componentQ notUpQ] at inQ
        rw [cacheParts] at inP
        exact not_cache_of_cache (fun same => sameCache ⟨overlayQ, same⟩) inQ inP
    · rw [List.mem_singleton.mp last]
      refine ⟨source, named, ?_⟩
      rw [if_pos overlay]
      refine ⟨unpacked source bs u plainSource file early (fun inCache => outsideCaches ?_) (.inl rfl), covered⟩
      rw [resolved] at inCache ⊢
      exact inCaches _ inCache
  · -- A library is copied to its target, in the application.
    obtain ⟨b, copying⟩ := libraryRun overlay
    obtain ⟨relative, plainName, -⟩ := separated.libraries p member overlay
    have plainTarget := assembled.plain (plain_libraryTarget overlay relative plainName separated.plainApp)
    have inApp : Path.parts (s₀.resolve webapp) <+: Path.parts (w.store.resolve (p.target webapp)) := by
      rw [resolved]
      exact libraryTarget_inside overlay relative plainName
    have dirTarget : ∀ d, w.store.get? (p.target webapp) = some (.dir d) → d = w.store.clock := fun d dir => by
      rw [assembled.clock]
      exact assembled.dirTargets p member overlay d dir
    obtain ⟨placing, fresh⟩ := copyIfModified_placing assembled.tree plainSource plainTarget
      (named_libraryTarget overlay relative) file early outsideApp inApp dirTarget copying
    refine assembled.next separated placing (fun _ nothing => nothing.elim) fun q listed => ?_
    rcases List.mem_append.mp listed with before | last
    · exact assembled.placed_of_placing separated (listedDone q before) (assembled.placed q before) placing
        (fun _ nothing => nothing.elim) fun _ _ _ nothing => nothing
    · rw [List.mem_singleton.mp last]
      exact ⟨source, named, by rw [if_neg overlay]; exact fresh⟩

theorem run (separated : Separated a webapp s₀ ps) (rest : List Placement) :
    ∀ {done : List Placement} {w w' : Workspace} {r r' : Report}, done ++ rest = ps →
      Assembled a webapp s₀ ps done w.store → (rest.foldlM (a.place webapp) r).run' w = (.ok r', w') →
      Assembled a webapp s₀ ps ps w'.store := by
  induction rest with
  | nil =>
    intro done w w' r r' whole assembled ran
    rw [List.foldlM_nil, Step.run'_pure, Prod.mk.injEq] at ran
    rw [List.append_nil] at whole
    subst whole
    rw [← ran.2]
    exact assembled
  | cons p rest ih =>
    intro done w w' r r' whole assembled ran
    rw [List.foldlM_cons] at ran
    obtain ⟨r₁, w₁, placed, ran⟩ := Step.run'_bind_eq_ok ran
    have listedDone : ∀ q ∈ done, q ∈ ps := fun q member => whole ▸ List.mem_append_left _ member
    have member : p ∈ ps := whole ▸ List.mem_append_right _ List.mem_cons_self
    exact ih (by rw [List.append_assoc, List.singleton_append, whole]) (assembled.step separated listedDone member placed) ran

end Assembled

/-- Assembling twice changes nothing the second time, where the application, the overlay caches
and the artifacts' files lie apart: the second assembly copies, unpacks and lays nothing, leaves
the workspace as the first left it, and reports every library target, in order, as up to date. -/
theorem assemble_twice_changes_nothing {a : Assembler} {ps : List Placement} {webapp : String} {w w₁ : Workspace}
    {r : Report} (separated : Separated a webapp w.store ps) (first : (a.assemble ps webapp).run' w = (.ok r, w₁)) :
    (a.assemble ps webapp).run' w₁ =
      (.ok { upToDate := (ps.filter fun p => p.destination != .overlay).map (·.target webapp) }, w₁) := by
  have assembled := Assembled.run separated ps rfl (Assembled.start separated) first
  rw [Assembler.assemble, foldlM_place_of_placed assembled.tree assembled.placed]
  rfl

/-- An overlay archive holding the one file `x`. -/
def twiceOverlay : ByteArray :=
  ⟨#[80, 75, 3, 4, 20, 0, 0, 0, 0, 0, 0, 0, 33, 0, 183, 239, 220, 131, 1, 0, 0, 0, 1, 0, 0, 0, 1, 0, 0, 0, 120, 49,
    80, 75, 1, 2, 20, 0, 20, 0, 0, 0, 0, 0, 0, 0, 33, 0, 183, 239, 220, 131, 1, 0, 0, 0, 1, 0, 0, 0, 1, 0, 0, 0, 0,
    0, 0, 0, 0, 0, 0, 0, 128, 1, 0, 0, 0, 0, 120, 80, 75, 5, 6, 0, 0, 0, 0, 1, 0, 1, 0, 47, 0, 0, 0, 32, 0, 0, 0,
    0, 0]⟩

/-- A repository holding a library, a tag library and an overlay, for an application not made
yet. -/
def twiceSample : Workspace where
  store := { entries := [("/repo", .dir 0), ("/repo/a-1.jar", .file ⟨#[1]⟩ 5), ("/repo/t-1.tld", .file ⟨#[2]⟩ 7),
    ("/repo/o-1.war", .file twiceOverlay 3)] }

def twiceAssembler : Assembler := { workDir := "/work" }

def twicePlacements : List Placement :=
  [{ facade := { coordinate := { groupId := "g", artifactId := "a", version := "1" },
                 file := some "/repo/a-1.jar", trail := [] },
     destination := .library, fileName := "a-1.jar" },
   { facade := { coordinate := { groupId := "g", artifactId := "t", version := "1", type := "tld" },
                 file := some "/repo/t-1.tld", trail := [] },
     destination := .tld, fileName := "t-1.tld" },
   { facade := { coordinate := { groupId := "g", artifactId := "o", version := "1", type := "war" },
                 file := some "/repo/o-1.war", trail := [] },
     destination := .overlay, fileName := "o-1.war" }]

/-- The first assembly of the sample copies both files, unpacks the overlay into its cache and
lays its file over the application; the second copies, unpacks and lays nothing and reports both
targets up to date. -/
theorem twice_sample_copies_once :
    Separated twiceAssembler "/w" twiceSample.store twicePlacements ∧
    ((twiceAssembler.assemble twicePlacements "/w").run' twiceSample).1.toOption.map
        (fun r => (r.copied, r.extracted, r.overlaid)) =
      some (["/w/WEB-INF/lib/a-1.jar", "/w/WEB-INF/tld/t-1.tld"], ["/work/overlays/o-1"], ["/w/x"]) ∧
    (twiceAssembler.assemble twicePlacements "/w").run' ((twiceAssembler.assemble twicePlacements "/w").run' twiceSample).2 =
      (.ok { upToDate := (twicePlacements.filter fun p => p.destination != .overlay).map (·.target "/w") },
        ((twiceAssembler.assemble twicePlacements "/w").run' twiceSample).2) := by
  have tree : twiceSample.store.Tree := Store.Tree.of_entries (by decide) (by decide) (by decide +kernel)
  have stored : ∀ k e, (k, e) ∈ twiceSample.store.entries → ".." ∉ Path.parts (Path.join twiceSample.store.cwd k) →
      twiceSample.store.resolve k = k → twiceSample.store.get? k = some e := fun k e member plain spelled => by
    rw [Store.get?_eq_entryAt? plain, spelled]
    exact tree.found k e member
  have separated : Separated twiceAssembler "/w" twiceSample.store twicePlacements := by
    refine ⟨tree, by decide +kernel, by decide +kernel, by decide +kernel, fun p member => ?_, fun p member _ => ?_,
      fun p member overlay => ?_⟩
    all_goals simp only [twicePlacements, List.mem_cons, List.not_mem_nil, or_false] at member
    · rcases member with rfl | rfl | rfl
      · exact ⟨"/repo/a-1.jar", ⟨#[1]⟩, 5, rfl, by decide +kernel,
          stored _ _ (.tail _ (.head _)) (by decide +kernel) (by decide +kernel), by decide, by decide +kernel,
          by decide +kernel⟩
      · exact ⟨"/repo/t-1.tld", ⟨#[2]⟩, 7, rfl, by decide +kernel,
          stored _ _ (.tail _ (.tail _ (.head _))) (by decide +kernel) (by decide +kernel), by decide, by decide +kernel,
          by decide +kernel⟩
      · exact ⟨"/repo/o-1.war", twiceOverlay, 3, rfl, by decide +kernel,
          stored _ _ (.tail _ (.tail _ (.tail _ (.head _)))) (by decide +kernel) (by decide +kernel), by decide,
          by decide +kernel, by decide +kernel⟩
    · rcases member with rfl | rfl | rfl
      · decide +kernel
      · decide +kernel
      · exact absurd rfl ‹_›
    · rcases member with rfl | rfl | rfl
      · cases overlay
      · cases overlay
      · exact ⟨⟨by decide +kernel, by decide +kernel, by decide +kernel⟩, by decide +kernel⟩
  have computed : ((twiceAssembler.assemble twicePlacements "/w").run' twiceSample).1.toOption.map
      (fun r => (r.copied, r.extracted, r.overlaid)) =
      some (["/w/WEB-INF/lib/a-1.jar", "/w/WEB-INF/tld/t-1.tld"], ["/work/overlays/o-1"], ["/w/x"]) := by
    decide +kernel
  obtain ⟨r, first⟩ : ∃ r, ((twiceAssembler.assemble twicePlacements "/w").run' twiceSample).1 = .ok r := by
    revert computed
    cases ((twiceAssembler.assemble twicePlacements "/w").run' twiceSample).1 <;> simp [Except.toOption]
  exact ⟨separated, computed, assemble_twice_changes_nothing separated (Prod.ext first rfl)⟩

/-- An application already holding `b-1.jar`, which is also the file of a library `a`, and a
repository holding a newer `b-1.jar`. -/
def aliasedSample : Workspace where
  store := { entries := [("/repo", .dir 0), ("/repo/b-1.jar", .file ⟨#[0]⟩ 7), ("/webapp", .dir 0),
    ("/webapp/WEB-INF", .dir 0), ("/webapp/WEB-INF/lib", .dir 0), ("/webapp/WEB-INF/lib/b-1.jar", .file ⟨#[1]⟩ 5)] }

def aliasedPlacements : List Placement :=
  [{ facade := { coordinate := { groupId := "g", artifactId := "a", version := "1" },
                 file := some "webapp/WEB-INF/lib/b-1.jar", trail := [] },
     destination := .library, fileName := "a-1.jar" },
   { facade := { coordinate := { groupId := "g", artifactId := "b", version := "1" },
                 file := some "repo/b-1.jar", trail := [] },
     destination := .library, fileName := "b-1.jar" }]

/-- Where one library's file is another library's target, the second assembly copies it again:
the first assembly copied it before the other library replaced it with a newer file. -/
theorem assembling_twice_recopies_aliased_library :
    ((twiceAssembler.assemble aliasedPlacements "webapp").run'
      ((twiceAssembler.assemble aliasedPlacements "webapp").run' aliasedSample).2).1.toOption.map Report.copied =
      some ["webapp/WEB-INF/lib/a-1.jar"] := by
  decide +kernel

end PluginPack.Assembly
