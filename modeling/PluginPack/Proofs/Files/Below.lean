import PluginPack.Proofs.Files.Effect

/-! The places below a directory.

A path below a directory is the directory's path followed by a relative path that steps back
nowhere; it leads to the directory's place followed by the same components. Listing a
directory's tree spells each entry from the directory's path that way. A store is a `Tree` when
each key is spelled as the place it leads to and every place above an entry is a directory,
as in every store the operations build; in a tree no entry lies below a file. -/

namespace PluginPack.Files

namespace Path

theorem rootOf_build {root : String} (rooted : root = "" ∨ root = "/" ∨ root = "//") {ps : List String}
    (components : ∀ c ∈ ps, Component c) : rootOf (build root ps) = root := by
  have rest : ("/".intercalate ps).toList.takeWhile (· == '/') = [] := by
    cases spelled : ("/".intercalate ps).toList with
    | nil => rfl
    | cons c cs =>
      have notSlash : c ≠ '/' := fun same => head?_intercalate components (by rw [spelled, same]; rfl)
      simp [notSlash]
  rcases rooted with rfl | rfl | rfl
  · rw [rootOf_eq_empty_iff]
    cases ps with
    | nil => decide
    | cons c cs => exact head?_intercalate components
  · exact rootOf_build_slash components
  · have doubled : (build "//" ps).toList = '/' :: '/' :: ("/".intercalate ps).toList := by
      simp [build]
    rw [rootOf, doubled, List.takeWhile_cons_of_pos (by decide), List.takeWhile_cons_of_pos (by decide), rest]
    rfl

theorem relativeTo?_of_isBelow {d r : String} (below : isBelow d r = true) :
    relativeTo? r d = some (build "" ((parts r).drop (parts d).length)) := by
  simp only [isBelow, Bool.and_eq_true, decide_eq_true_eq] at below
  rw [relativeTo?, if_pos (by simp [below.1.1, below.2])]

theorem isAbsolute_build_relative {ps : List String} (components : ∀ c ∈ ps, Component c) :
    isAbsolute (build "" ps) = false := by
  simpa using (isAbsolute_build (Or.inl rfl) components).not

theorem join_relative {base rel : String} (relative : isAbsolute rel = false) :
    join base rel = build (rootOf base) (parts base ++ parts rel) := by
  rw [join, if_neg (by simp [relative])]

theorem relativeTo?_join {base : String} {ps : List String} (components : ∀ c ∈ ps, Component c) :
    relativeTo? (join base (build "" ps)) base = some (build "" ps) := by
  have all : ∀ c ∈ parts base ++ ps, Component c := fun c member =>
    (List.mem_append.mp member).elim component_of_mem_parts (components c)
  rw [join_relative (isAbsolute_build_relative components), parts_build (.inl rfl) ps components, relativeTo?,
    rootOf_build (rootOf_cases base) all, parts_build (rootOf_cases base) _ all,
    if_pos (by simp [List.isPrefixOf_iff_prefix.mpr (List.prefix_append _ _)]), List.drop_left]

theorem walk_append_of_not_mem {tail : List String} (plain : ".." ∉ tail) :
    ∀ (acc ps : List String), walk acc (ps ++ tail) = walk acc ps ++ tail
  | acc, [] => by rw [List.nil_append, walk_of_not_mem plain, walk]
  | acc, c :: ps => by
    by_cases up : c = ".."
    · subst up
      rw [List.cons_append, walk, walk, walk_append_of_not_mem plain]
    · rw [List.cons_append, walk.eq_3 _ _ _ up, walk.eq_3 _ _ _ up, walk_append_of_not_mem plain]

theorem parts_join_join {base dir rel : String} (relative : isAbsolute rel = false) :
    parts (join base (join dir rel)) = parts (join base dir) ++ parts rel := by
  have components : ∀ c ∈ parts dir ++ parts rel, Component c := fun c member =>
    (List.mem_append.mp member).elim component_of_mem_parts component_of_mem_parts
  rw [parts_join, parts_join base dir, join_relative relative, isAbsolute_eq_of_rootOf dir components,
    parts_build (rootOf_cases dir) _ components]
  split <;> simp

theorem eq_build_of_physical {k : String} (spelled : physical k = k) : k = build "/" (parts k) :=
  calc k = physical k := spelled.symm
    _ = "/" ++ "/".intercalate (parts k) := physical_of_not_mem (spelled ▸ not_mem_parts_physical k)
    _ = build "/" (parts k) := rfl

end Path

namespace Store

variable {s : Store} {dir rel : String}

theorem blockedStep?_go_append (s : Store) {tail : List String} (plain : ".." ∉ tail) :
    ∀ (acc ps : List String), blockedStep?.go s acc (ps ++ tail) = blockedStep?.go s acc ps
  | acc, [] => by rw [List.nil_append, blockedStep?_go_eq_none s acc plain, blockedStep?.go]
  | acc, c :: ps => by
    by_cases up : c = ".."
    · subst up
      rw [List.cons_append, blockedStep?.go, blockedStep?.go]
      split <;> simp only [blockedStep?_go_append s plain]
    · rw [List.cons_append, blockedStep?.go.eq_3 _ _ _ _ up, blockedStep?.go.eq_3 _ _ _ _ up,
        blockedStep?_go_append s plain]

theorem blockedStep?_go_eq_none_of_dirs {t : Store}
    (dirs : ∀ k d, s.entryAt? k = some (.dir d) → ∃ d', t.entryAt? k = some (.dir d')) :
    ∀ (acc ps : List String), blockedStep?.go s acc ps = none → blockedStep?.go t acc ps = none
  | acc, [] => fun _ => rfl
  | acc, c :: ps => by
    by_cases up : c = ".."
    · subst up
      rw [blockedStep?.go, blockedStep?.go]
      intro opened
      split at opened
      · rename_i d found
        obtain ⟨d', found'⟩ := dirs _ _ found
        simp only [found']
        exact blockedStep?_go_eq_none_of_dirs dirs _ _ opened
      · cases opened
    · rw [blockedStep?.go.eq_3 _ _ _ _ up, blockedStep?.go.eq_3 _ _ _ _ up]
      exact blockedStep?_go_eq_none_of_dirs dirs _ _

theorem blockedStep?_eq_none_of_dirs {t : Store} {p : String} (cwd : t.cwd = s.cwd)
    (dirs : ∀ k d, s.entryAt? k = some (.dir d) → ∃ d', t.entryAt? k = some (.dir d'))
    (opened : s.blockedStep? p = none) : t.blockedStep? p = none := by
  unfold blockedStep? at *
  rw [cwd]
  exact blockedStep?_go_eq_none_of_dirs dirs [] _ opened

section Relative

variable (relative : Path.isAbsolute rel = false) (plain : ".." ∉ Path.parts rel)
include relative plain

theorem blockedStep?_join : s.blockedStep? (Path.join dir rel) = s.blockedStep? dir := by
  unfold blockedStep?
  rw [Path.parts_join_join relative, blockedStep?_go_append s plain]

theorem resolve_join : s.resolve (Path.join dir rel) = Path.build "/" (Path.parts (s.resolve dir) ++ Path.parts rel) := by
  show Path.physical (Path.join s.cwd (Path.join dir rel)) = _
  rw [Path.physical, Path.parts_join_join relative, Path.walk_append_of_not_mem plain, ← Path.parts_physical_eq]
  rfl

theorem get?_join : s.get? (Path.join dir rel) =
    if (s.blockedStep? dir).isSome then none else s.entryAt? (Path.build "/" (Path.parts (s.resolve dir) ++ Path.parts rel)) := by
  simp only [get?, blockedStep?_join relative plain, resolve_join relative plain]

end Relative

theorem mem_below {x : String × Entry} :
    x ∈ s.below dir ↔ s.isDir dir = true ∧
      ∃ r e, (r, e) ∈ s.entries ∧ Path.isBelow (s.resolve dir) r = true ∧ x = (s.spellBelow dir r, e) := by
  unfold below
  split
  · rename_i isDir
    simp only [List.mem_map, List.mem_filter, Prod.exists, isDir, true_and]
    constructor
    · rintro ⟨r, e, ⟨listed, below⟩, rfl⟩
      exact ⟨r, e, listed, below, rfl⟩
    · rintro ⟨r, e, listed, below, rfl⟩
      exact ⟨r, e, ⟨listed, below⟩, rfl⟩
  · rename_i notDir
    simp [notDir]

theorem spellBelow_of_isBelow {r : String} (below : Path.isBelow (s.resolve dir) r = true) :
    s.spellBelow dir r = Path.join dir (Path.build "" ((Path.parts r).drop (Path.parts (s.resolve dir)).length)) := by
  unfold spellBelow
  rw [Path.relativeTo?_of_isBelow below]

/-- A store as the operations build it: each key is spelled as the place it leads to, every
place above an entry is a directory, and no entry is hidden behind another of the same key. -/
structure Tree (s : Store) : Prop where
  spelled : ∀ k, s.entryAt? k ≠ none → Path.physical k = k
  above : ∀ k, s.entryAt? k ≠ none → ∀ a ∈ Path.ancestors k, ∃ t, s.entryAt? a = some (.dir t)
  found : ∀ k e, (k, e) ∈ s.entries → s.entryAt? k = some e

theorem entryAt?_ne_none_of_mem {k : String} {e : Entry} (member : (k, e) ∈ s.entries) : s.entryAt? k ≠ none := by
  unfold entryAt?
  split
  · simp
  · have found : (s.entries.find? (·.1 == k)).isSome := List.find?_isSome.mpr ⟨(k, e), member, by simp⟩
    simpa [Option.isSome_iff_ne_none] using found

namespace Tree

variable (tree : s.Tree)
include tree

theorem not_mem_parts {k : String} (present : s.entryAt? k ≠ none) : ".." ∉ Path.parts k := by
  rw [← tree.spelled k present]
  exact Path.not_mem_parts_physical k

theorem eq_build {k : String} (present : s.entryAt? k ≠ none) : k = Path.build "/" (Path.parts k) :=
  Path.eq_build_of_physical (tree.spelled k present)

theorem dir_above {A B : List String} (components : ∀ c ∈ B, Path.Component c)
    (present : s.entryAt? (Path.build "/" B) ≠ none) (prefixed : A <+: B) (shorter : A.length < B.length) :
    ∃ t, s.entryAt? (Path.build "/" A) = some (.dir t) := by
  refine tree.above _ present _ ?_
  obtain ⟨C, rfl⟩ := prefixed
  rw [Path.ancestors_build_slash components, List.mem_reverse, Path.mem_chain]
  exact ⟨A.length, shorter, by rw [List.take_left]⟩

end Tree

theorem find?_key_of_nodup {k : String} {e : Entry} :
    ∀ {l : List (String × Entry)}, (l.map Prod.fst).Nodup → (k, e) ∈ l → l.find? (·.1 == k) = some (k, e)
  | [], _, member => absurd member List.not_mem_nil
  | a :: l, unique, member => by
    rw [List.map_cons, List.nodup_cons] at unique
    rcases List.mem_cons.mp member with rfl | later
    · simp
    · have other : a.1 ≠ k := fun same => unique.1 (same ▸ List.mem_map_of_mem later)
      rw [List.find?_cons_of_neg (by simpa using other)]
      exact find?_key_of_nodup unique.2 later

theorem eq_root_or_mem_of_entryAt? {k : String} (present : s.entryAt? k ≠ none) :
    k = "/" ∨ ∃ e ∈ s.entries, e.1 = k := by
  unfold entryAt? at present
  split at present
  · rename_i root
    exact .inl (beq_iff_eq.mp root)
  · cases found : s.entries.find? (·.1 == k) with
    | none =>
      rw [found, Option.map_none] at present
      exact absurd rfl present
    | some e => exact .inr ⟨e, List.mem_of_find?_eq_some found, by simpa using List.find?_some found⟩

theorem Tree.of_entries (spelled : ∀ e ∈ s.entries, Path.physical e.1 = e.1 ∧ e.1 ≠ "/")
    (unique : (s.entries.map Prod.fst).Nodup)
    (above : ∀ e ∈ s.entries, ∀ a ∈ Path.ancestors e.1, s.isDir a = true) : s.Tree := by
  refine ⟨fun k present => ?_, fun k present a ancestor => ?_, fun k e member => ?_⟩
  · rcases eq_root_or_mem_of_entryAt? present with rfl | ⟨e, member, rfl⟩
    · decide
    · exact (spelled e member).1
  · rcases eq_root_or_mem_of_entryAt? present with rfl | ⟨e, member, rfl⟩
    · simp [show Path.ancestors "/" = [] by decide] at ancestor
    · -- Each place above a spelled key is a place spelled from the root.
      have keyed := Path.eq_build_of_physical (spelled e member).1
      have components : ∀ c ∈ Path.parts e.1, Path.Component c := fun _ m => Path.component_of_mem_parts m
      have plain : ".." ∉ Path.parts e.1 := (spelled e member).1 ▸ Path.not_mem_parts_physical e.1
      have dir := above e member a ancestor
      rw [keyed, Path.ancestors_build_slash components, List.mem_reverse, Path.mem_chain] at ancestor
      obtain ⟨j, -, rfl⟩ := ancestor
      exact (isDir_build_slash (fun c m => components c (List.mem_of_mem_take m))
        fun m => plain (List.mem_of_mem_take m)).mp dir
  · have notRoot := (spelled _ member).2
    unfold entryAt?
    rw [if_neg (by simpa using notRoot), find?_key_of_nodup unique member]
    rfl

end Store

end PluginPack.Files
