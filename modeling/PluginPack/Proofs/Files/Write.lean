import Mathlib.Data.List.Induction
import PluginPack.Proofs.Files.Lookup

/-! Writing a file and reading it back. A path whose components never step back is resolved
by its components alone, so setting an entry of the tree changes what exactly one place holds.
At a writable place (a path that names something and steps back nowhere, below existing
directories, that is no directory) a write succeeds, the file reads back with the bytes
written, the directories above stay, and the place stays writable for the next write.
Making the directories on the way to a missing place, root first, turns each into a
directory and leaves every other place alone, so a place with no file above it becomes
writable. -/

namespace PluginPack.Files.Path

theorem walk_of_not_mem {ps : List String} (plain : ".." ∉ ps) : ∀ acc, walk acc ps = acc.reverse ++ ps := by
  induction ps with
  | nil => simp [walk]
  | cons c ps ih =>
    intro acc
    have notUp : c ≠ ".." := fun same => plain (by simp [same])
    rw [walk.eq_3 _ _ _ notUp, ih fun member => plain (List.mem_cons_of_mem _ member)]
    simp

theorem physical_of_not_mem {p : String} (plain : ".." ∉ parts p) : physical p = "/" ++ "/".intercalate (parts p) := by
  rw [physical, walk_of_not_mem plain]
  rfl

theorem parts_physical {p : String} (plain : ".." ∉ parts p) : parts (physical p) = parts p := by
  rw [physical_of_not_mem plain, parts_slash_append, parts_intercalate _ fun _ member => component_of_mem_parts member]

theorem isAbsolute_eq_of_rootOf (p : String) {ps : List String} (components : ∀ c ∈ ps, Component c) :
    isAbsolute (build (rootOf p) ps) = isAbsolute p := by
  rw [Bool.eq_iff_iff, isAbsolute_build (rootOf_cases p) components, isAbsolute_iff, ne_eq, rootOf_eq_empty_iff,
    not_not]

theorem parts_parent (p : String) : parts (parent p) = (parts p).dropLast :=
  parts_build (rootOf_cases p) _ fun _ member => component_of_mem_parts (List.dropLast_subset _ member)

theorem isAbsolute_parent (p : String) : isAbsolute (parent p) = isAbsolute p :=
  isAbsolute_eq_of_rootOf p fun _ member => component_of_mem_parts (List.dropLast_subset _ member)

theorem mem_ancestors {p a : String} (member : a ∈ ancestors p) :
    ∃ k < (parts p).length, parts a = (parts p).take k ∧ isAbsolute a = isAbsolute p := by
  simp only [ancestors, List.mem_map, List.mem_reverse, List.mem_range] at member
  obtain ⟨k, below, rfl⟩ := member
  have components : ∀ c ∈ (parts p).take k, Component c :=
    fun _ member => component_of_mem_parts (List.mem_of_mem_take member)
  exact ⟨k, below, parts_build (rootOf_cases p) _ components, isAbsolute_eq_of_rootOf p components⟩

theorem isAbsolute_physical (p : String) : isAbsolute (physical p) = true := by
  rw [isAbsolute_iff, physical, String.toList_append]
  rfl

theorem isAbsolute_join {base : String} (rooted : isAbsolute base = true) (p : String) :
    isAbsolute (join base p) = true := by
  unfold join
  split
  · rename_i absolute
    rw [isAbsolute_normalize]
    exact absolute
  · rw [isAbsolute_eq_of_rootOf base fun c member => by
      rcases List.mem_append.mp member with inBase | inRel
      exacts [component_of_mem_parts inBase, component_of_mem_parts inRel]]
    exact rooted

theorem build_slash (ps : List String) : build "/" ps = "/" ++ "/".intercalate ps := rfl

theorem rootOf_build_slash {ps : List String} (components : ∀ c ∈ ps, Component c) : rootOf (build "/" ps) = "/" := by
  have rest : ("/".intercalate ps).toList.takeWhile (· == '/') = [] := by
    cases spelled : ("/".intercalate ps).toList with
    | nil => rfl
    | cons c cs =>
      have notSlash : c ≠ '/' := fun same => head?_intercalate components (by rw [spelled, same]; rfl)
      simp [notSlash]
  rw [rootOf, build_slash, String.toList_append, show "/".toList = ['/'] from rfl,
    List.singleton_append, List.takeWhile_cons_of_pos (by decide), rest]
  rfl

theorem parts_build_slash {ps : List String} (components : ∀ c ∈ ps, Component c) : parts (build "/" ps) = ps :=
  parts_build (Or.inr (Or.inl rfl)) ps components

theorem parent_build_slash {ps : List String} (components : ∀ c ∈ ps, Component c) :
    parent (build "/" ps) = build "/" ps.dropLast := by
  rw [parent, rootOf_build_slash components, parts_build_slash components]

def chain (ps : List String) : List String :=
  (List.range ps.length).map fun k => build "/" (ps.take k)

theorem chain_append_singleton (ps : List String) (c : String) :
    chain (ps ++ [c]) = chain ps ++ [build "/" ps] := by
  simp only [chain, List.length_append, List.length_singleton, List.range_succ, List.map_append, List.map_singleton,
    List.take_left]
  congr 1
  refine List.map_congr_left fun k member => ?_
  rw [List.take_append_of_le_length (Nat.le_of_lt (List.mem_range.mp member))]

theorem mem_chain {ps : List String} {d : String} : d ∈ chain ps ↔ ∃ k < ps.length, build "/" (ps.take k) = d := by
  simp [chain]

theorem ancestors_build_slash {ps : List String} (components : ∀ c ∈ ps, Component c) :
    ancestors (build "/" ps) = (chain ps).reverse := by
  rw [ancestors, chain, rootOf_build_slash components, parts_build_slash components, List.map_reverse]

theorem build_slash_not_mem_chain {ps : List String} (components : ∀ c ∈ ps, Component c) :
    build "/" ps ∉ chain ps := by
  intro member
  obtain ⟨k, below, same⟩ := mem_chain.mp member
  have lengths := congrArg (fun q => (parts q).length) same
  simp only [parts_build_slash components,
    parts_build_slash fun c inTake => components c (List.mem_of_mem_take inTake), List.length_take] at lengths
  omega

theorem parent_mem_chain {ps : List String} (components : ∀ c ∈ ps, Component c) (nonempty : ps ≠ []) :
    parent (build "/" ps) ∈ chain ps := by
  rw [parent_build_slash components, mem_chain, List.dropLast_eq_take]
  exact ⟨ps.length - 1, by have := List.length_pos_iff.mpr nonempty; omega, rfl⟩

theorem chain_eq_cons {ps : List String} (nonempty : ps ≠ []) : chain ps = "/" :: (chain ps).drop 1 := by
  obtain ⟨n, length⟩ : ∃ n, ps.length = n + 1 := Nat.exists_eq_succ_of_ne_zero (by simpa using nonempty)
  rw [chain, length, List.range_succ_eq_map, List.map_cons, List.take_zero, List.drop_one, List.tail_cons]
  simp [build_slash]

def chainTo (ps : List String) : List String := chain ps ++ [build "/" ps]

theorem chainTo_append_singleton (ps : List String) (c : String) :
    chainTo (ps ++ [c]) = chainTo ps ++ [build "/" (ps ++ [c])] := by
  rw [chainTo, chain_append_singleton, chainTo]

theorem parts_join_build {root : String} (rooted : root = "" ∨ root = "/" ∨ root = "//") {ps : List String}
    (components : ∀ c ∈ ps, Component c) (base : String) :
    parts (join base (build root ps)) = (if root = "" then parts base else []) ++ ps := by
  rw [parts_join, parts_build rooted ps components]
  by_cases relative : root = ""
  · subst relative
    have notAbsolute : isAbsolute (build "" ps) = false := by
      simpa using (isAbsolute_build rooted components).not
    simp [notAbsolute]
  · simp [relative, (isAbsolute_build rooted components).mpr relative]

theorem parts_join_normalize (base p : String) :
    parts (join base (build (rootOf p) (parts p))) = parts (join base p) := by
  rw [parts_join_build (rootOf_cases p) fun _ member => component_of_mem_parts member, parts_join]
  by_cases absolute : isAbsolute p = true
  · have rooted : rootOf p ≠ "" := fun empty => (rootOf_eq_empty_iff p).mp empty ((isAbsolute_iff p).mp absolute)
    simp [absolute, rooted]
  · have relative : rootOf p = "" := (rootOf_eq_empty_iff p).mpr fun head => absolute ((isAbsolute_iff p).mpr head)
    simp [absolute, relative]

end PluginPack.Files.Path

namespace PluginPack.Files.Store

variable {s : Store} {p : String}

theorem blockedStep?_go_eq_none (s : Store) :
    ∀ {ps : List String} (acc : List String), ".." ∉ ps → blockedStep?.go s acc ps = none
  | [], _, _ => rfl
  | c :: ps, acc, plain => by
    have notUp : c ≠ ".." := fun same => plain (by simp [same])
    rw [blockedStep?.go.eq_3 _ _ _ _ notUp]
    exact blockedStep?_go_eq_none s _ fun member => plain (List.mem_cons_of_mem _ member)

theorem blockedStep?_eq_none (plain : ".." ∉ Path.parts (Path.join s.cwd p)) : s.blockedStep? p = none :=
  blockedStep?_go_eq_none s [] plain

theorem get?_eq_entryAt? (plain : ".." ∉ Path.parts (Path.join s.cwd p)) : s.get? p = s.entryAt? (s.resolve p) := by
  rw [get?, blockedStep?_eq_none plain]
  rfl

theorem parts_resolve (plain : ".." ∉ Path.parts (Path.join s.cwd p)) :
    Path.parts (s.resolve p) = Path.parts (Path.join s.cwd p) :=
  Path.parts_physical plain

theorem resolve_ne {q : String} (plainP : ".." ∉ Path.parts (Path.join s.cwd p))
    (plainQ : ".." ∉ Path.parts (Path.join s.cwd q))
    (lengths : (Path.parts (Path.join s.cwd p)).length ≠ (Path.parts (Path.join s.cwd q)).length) :
    s.resolve p ≠ s.resolve q := by
  intro same
  apply lengths
  rw [← parts_resolve plainP, ← parts_resolve plainQ, same]

theorem resolve_eq_of_cwd {t : Store} (same : s.cwd = t.cwd) (q : String) : s.resolve q = t.resolve q := by
  simp only [resolve, same]

@[simp] theorem cwd_setEntry (e : Entry) : (s.setEntry p e).cwd = s.cwd := by
  unfold setEntry
  dsimp only
  split <;> rfl

@[simp] theorem clock_setEntry (e : Entry) : (s.setEntry p e).clock = s.clock := by
  unfold setEntry
  dsimp only
  split <;> rfl

@[simp] theorem cwd_touchParent : (s.touchParent p).cwd = s.cwd := by
  unfold touchParent
  dsimp only
  split <;> simp

@[simp] theorem clock_touchParent : (s.touchParent p).clock = s.clock := by
  unfold touchParent
  dsimp only
  split <;> simp

theorem entryAt?_setEntry (e : Entry) (key : String) :
    (s.setEntry p e).entryAt? key = if key ≠ "/" ∧ key = s.resolve p then some e else s.entryAt? key := by
  by_cases root : key = "/"
  · subst root
    simp [entryAt?]
  · have notRoot : (key == "/") = false := by simpa using root
    simp only [entryAt?, notRoot, Bool.false_eq_true, if_false, ne_eq, root, not_false_eq_true, true_and]
    unfold setEntry
    dsimp only
    split
    · rename_i present
      have keyed : ((fun x : String × Entry => x.1 == key) ∘
          fun x : String × Entry => if (x.1 == s.resolve p) = true then (x.1, e) else (x.1, x.2)) =
          fun x => x.1 == key := by
        funext x
        simp only [Function.comp]
        split <;> rfl
      rw [List.find?_map, keyed, Option.map_map]
      by_cases same : key = s.resolve p
      · subst same
        obtain ⟨x, found⟩ := Option.isSome_iff_exists.mp (List.find?_isSome.mpr (List.any_eq_true.mp present))
        have named : x.1 = s.resolve p := by simpa using List.find?_some found
        simp [found, named]
      · cases found : s.entries.find? (·.1 == key) with
        | none => simp [same]
        | some x =>
          have named : x.1 = key := by simpa using List.find?_some found
          simp [same, named]
    · rename_i absent
      rw [List.find?_append]
      by_cases same : key = s.resolve p
      · subst same
        have none : s.entries.find? (·.1 == s.resolve p) = none := List.find?_eq_none.mpr fun x member hit =>
          absent (List.any_eq_true.mpr ⟨x, member, hit⟩)
        simp [none]
      · have other : [(s.resolve p, e)].find? (·.1 == key) = none := by simp [Ne.symm same]
        simp [other, same]

theorem entryAt?_touchParent_of_ne {key : String} (other : key ≠ s.resolve (Path.parent (s.resolve p))) :
    (s.touchParent p).entryAt? key = s.entryAt? key := by
  unfold touchParent
  dsimp only
  split
  · rw [entryAt?_setEntry, if_neg fun both => other both.2]
  · rfl

theorem entryAt?_touchParent_dir {key : String} {t : Nat} (dir : s.entryAt? key = some (.dir t)) :
    ∃ t', (s.touchParent p).entryAt? key = some (.dir t') := by
  unfold touchParent
  dsimp only
  split
  · rw [entryAt?_setEntry]
    split
    · exact ⟨_, rfl⟩
    · exact ⟨t, dir⟩
  · exact ⟨t, dir⟩

theorem isDir_iff {q : String} : s.isDir q = true ↔ ∃ t, s.get? q = some (.dir t) := by
  unfold isDir
  split <;> simp_all

theorem readFile_of_get? {b : ByteArray} {t : Nat} (way : s.checkWay p = .ok ()) (found : s.get? p = some (.file b t)) :
    s.readFile p = .ok b := by
  simp [readFile, way, found, bind, Except.bind, pure, Except.pure]

theorem ancestor_plain (plain : ".." ∉ Path.parts (Path.join s.cwd p)) {a : String}
    (member : a ∈ Path.ancestors (s.resolve p)) :
    ".." ∉ Path.parts (Path.join s.cwd a) ∧
      (Path.parts (Path.join s.cwd a)).length < (Path.parts (Path.join s.cwd p)).length := by
  obtain ⟨k, below, spelled, absolute⟩ := Path.mem_ancestors member
  rw [parts_resolve plain] at below spelled
  have joined : Path.parts (Path.join s.cwd a) = Path.parts a := by
    rw [Path.parts_join, if_pos (absolute.trans (Path.isAbsolute_physical _))]
  rw [joined, spelled]
  exact ⟨fun listed => plain (List.mem_of_mem_take listed), by simp; omega⟩

theorem parts_join_ne_nil (named : Path.parts p ≠ []) : Path.parts (Path.join s.cwd p) ≠ [] := by
  rw [Path.parts_join]
  split
  · exact named
  · simp [named]

theorem parts_join_parent (named : Path.parts p ≠ []) :
    Path.parts (Path.join s.cwd (Path.parent p)) = (Path.parts (Path.join s.cwd p)).dropLast := by
  rw [Path.parts_join, Path.parts_join, Path.isAbsolute_parent, Path.parts_parent]
  split
  · rfl
  · rw [List.dropLast_append_of_ne_nil named]

theorem parts_join_build_slash (base : String) {ps : List String} (components : ∀ c ∈ ps, Path.Component c) :
    Path.parts (Path.join base (Path.build "/" ps)) = ps := by
  rw [Path.parts_join, if_pos ((Path.isAbsolute_build (Or.inr (Or.inl rfl)) components).mpr (by decide)),
    Path.parts_build_slash components]

theorem resolve_build_slash {ps : List String} (components : ∀ c ∈ ps, Path.Component c) (plain : ".." ∉ ps) :
    s.resolve (Path.build "/" ps) = Path.build "/" ps := by
  have joined := parts_join_build_slash s.cwd components
  have plain' : ".." ∉ Path.parts (Path.join s.cwd (Path.build "/" ps)) := by
    rw [joined]
    exact plain
  rw [resolve, Path.physical_of_not_mem plain', joined, Path.build_slash]

theorem get?_build_slash {ps : List String} (components : ∀ c ∈ ps, Path.Component c) (plain : ".." ∉ ps) :
    s.get? (Path.build "/" ps) = s.entryAt? (Path.build "/" ps) := by
  rw [get?_eq_entryAt? (by rw [parts_join_build_slash s.cwd components]; exact plain),
    resolve_build_slash components plain]

theorem isDir_build_slash {ps : List String} (components : ∀ c ∈ ps, Path.Component c) (plain : ".." ∉ ps) :
    s.isDir (Path.build "/" ps) = true ↔ ∃ t, s.entryAt? (Path.build "/" ps) = some (.dir t) := by
  rw [isDir_iff, get?_build_slash components plain]

theorem resolve_eq_build (plain : ".." ∉ Path.parts (Path.join s.cwd p)) :
    s.resolve p = Path.build "/" (Path.parts (Path.join s.cwd p)) := by
  rw [resolve, Path.physical_of_not_mem plain, Path.build_slash]

@[simp] theorem entryAt?_root : s.entryAt? "/" = some (.dir 0) := by
  simp [entryAt?]

theorem get?_parent (named : Path.parts p ≠ []) (plain : ".." ∉ Path.parts (Path.join s.cwd p)) :
    ∃ a ∈ Path.ancestors (s.resolve p), s.get? (Path.parent p) = s.get? a := by
  have components : ∀ c ∈ Path.parts (Path.join s.cwd p), Path.Component c :=
    fun _ member => Path.component_of_mem_parts member
  have plainParent : ".." ∉ Path.parts (Path.join s.cwd (Path.parent p)) := by
    rw [parts_join_parent named]
    exact fun member => plain (List.dropLast_subset _ member)
  refine ⟨Path.build "/" (Path.parts (Path.join s.cwd p)).dropLast, ?_, ?_⟩
  · rw [resolve_eq_build plain, Path.ancestors_build_slash components, List.mem_reverse,
      ← Path.parent_build_slash components]
    exact Path.parent_mem_chain components (parts_join_ne_nil named)
  · rw [get?_eq_entryAt? plainParent, resolve_eq_build plainParent, parts_join_parent named,
      get?_build_slash (fun _ member => components _ (List.dropLast_subset _ member))
        fun member => plain (List.dropLast_subset _ member)]

/-- A place where a file can be written and read back: its path names something, steps back
nowhere, every directory above it exists, and it is no directory itself. -/
structure Writable (s : Store) (p : String) : Prop where
  named : Path.parts p ≠ []
  plain : ".." ∉ Path.parts (Path.join s.cwd p)
  above : ∀ a ∈ Path.ancestors (s.resolve p), s.isDir a
  notDir : s.isDir p = false

namespace Writable

variable (place : Writable s p)
include place

theorem checkWay_eq_ok : s.checkWay p = .ok () := by
  unfold checkWay
  rw [blockedStep?_eq_none place.plain]
  dsimp only
  rw [List.find?_eq_none.mpr fun a member => by
    simpa using place.above a (List.mem_reverse.mp (List.mem_of_mem_drop member))]

theorem resolve_ne_root : s.resolve p ≠ "/" := fun root =>
  parts_join_ne_nil place.named (by rw [← parts_resolve place.plain, root]; rfl)

theorem resolve_parent_ne : s.resolve (Path.parent (s.resolve p)) ≠ s.resolve p := by
  have nonempty := parts_join_ne_nil (s := s) place.named
  have joined : Path.parts (Path.join s.cwd (Path.parent (s.resolve p))) = (Path.parts (Path.join s.cwd p)).dropLast := by
    rw [Path.parts_join, if_pos (by rw [Path.isAbsolute_parent]; exact Path.isAbsolute_physical _),
      Path.parts_parent, parts_resolve place.plain]
  refine resolve_ne (by rw [joined]; exact fun listed => place.plain (List.dropLast_subset _ listed)) place.plain ?_
  rw [joined, List.length_dropLast]
  have := List.length_pos_iff.mpr nonempty
  omega

theorem writeFile_eq (b : ByteArray) :
    ∃ s', s.writeFile p b = .ok s' ∧ s'.cwd = s.cwd ∧ s'.entryAt? (s.resolve p) = some (.file b s.clock) ∧
      ∀ key t, key ≠ s.resolve p → s.entryAt? key = some (.dir t) → ∃ t', s'.entryAt? key = some (.dir t') := by
  have written : (s.setEntry p (.file b s.clock)).entryAt? (s.resolve p) = some (.file b s.clock) := by
    rw [entryAt?_setEntry, if_pos ⟨place.resolve_ne_root, rfl⟩]
  have kept : ∀ key t, key ≠ s.resolve p → s.entryAt? key = some (.dir t) →
      (s.setEntry p (.file b s.clock)).entryAt? key = some (.dir t) := by
    intro key t other dir
    rw [entryAt?_setEntry, if_neg fun both => other both.2, dir]
  have resolved : (s.setEntry p (.file b s.clock)).resolve = s.resolve :=
    funext (resolve_eq_of_cwd (cwd_setEntry _))
  cases entry : s.get? p with
  | none =>
    refine ⟨(s.setEntry p (.file b s.clock)).touchParent p, ?_, by simp, ?_, ?_⟩
    · simp [writeFile, place.checkWay_eq_ok, entry, bind, Except.bind, pure, Except.pure]
    · rw [entryAt?_touchParent_of_ne (by rw [resolved]; exact place.resolve_parent_ne.symm), written]
    · intro key t other dir
      exact entryAt?_touchParent_dir (kept key t other dir)
  | some e =>
    cases e with
    | file bytes t =>
      refine ⟨s.setEntry p (.file b s.clock), ?_, by simp, written, fun key t other dir => ⟨t, kept key t other dir⟩⟩
      simp [writeFile, place.checkWay_eq_ok, entry, bind, Except.bind, pure, Except.pure]
    | dir t =>
      have := place.notDir
      simp [isDir, entry] at this

theorem writeFile_readFile (b : ByteArray) :
    ∃ s', s.writeFile p b = .ok s' ∧ s'.readFile p = .ok b ∧ s'.isFile p = true ∧ Writable s' p ∧ s'.cwd = s.cwd := by
  obtain ⟨s', wrote, cwd, file, dirs⟩ := place.writeFile_eq b
  have plain' : ".." ∉ Path.parts (Path.join s'.cwd p) := cwd ▸ place.plain
  have resolved : s'.resolve = s.resolve := funext (resolve_eq_of_cwd cwd)
  have found : s'.get? p = some (.file b s.clock) := by rw [get?_eq_entryAt? plain', resolved, file]
  have above' : ∀ a ∈ Path.ancestors (s'.resolve p), s'.isDir a := by
    intro a member
    rw [resolved] at member
    obtain ⟨plainA, shorter⟩ := ancestor_plain place.plain member
    obtain ⟨t, dirA⟩ := isDir_iff.mp (place.above a member)
    rw [get?_eq_entryAt? plainA] at dirA
    obtain ⟨t', dirA'⟩ := dirs _ t (resolve_ne plainA place.plain (by omega)) dirA
    exact isDir_iff.mpr ⟨t', by rw [get?_eq_entryAt? (cwd ▸ plainA), resolved, dirA']⟩
  have place' : Writable s' p := ⟨place.named, plain', above', by simp [isDir, found]⟩
  exact ⟨s', wrote, readFile_of_get? place'.checkWay_eq_ok found, by simp [isFile, found], place', cwd⟩

end Writable

def makeDir (acc : Store) (d : String) : Store :=
  if acc.present d then acc else (acc.setEntry d (.dir acc.clock)).touchParent d

@[simp] theorem cwd_makeDir (d : String) : (s.makeDir d).cwd = s.cwd := by
  unfold makeDir
  split <;> simp

@[simp] theorem clock_makeDir (d : String) : (s.makeDir d).clock = s.clock := by
  unfold makeDir
  split <;> simp

theorem makeDir_root : s.makeDir "/" = s := by
  have root : s.present "/" = true := by
    have spelled : Path.build "/" [] = "/" := by simp [Path.build_slash]
    have found : s.get? (Path.build "/" []) = s.entryAt? (Path.build "/" []) := get?_build_slash (by simp) (by simp)
    rw [spelled, entryAt?_root] at found
    rw [present, found, Option.isSome_some]
  rw [makeDir, if_pos root]

theorem entryAt?_makeDir_of_ne {d key : String} (other : key ≠ s.resolve d)
    (notAbove : key ≠ s.resolve (Path.parent (s.resolve d))) : (s.makeDir d).entryAt? key = s.entryAt? key := by
  have resolved : (s.setEntry d (.dir s.clock)).resolve = s.resolve := funext (resolve_eq_of_cwd (cwd_setEntry _))
  unfold makeDir
  split
  · rfl
  · rw [entryAt?_touchParent_of_ne (by rwa [resolved]), entryAt?_setEntry, if_neg fun both => other both.2]

theorem entryAt?_makeDir_dir {d key : String} {t : Nat} (dir : s.entryAt? key = some (.dir t)) :
    ∃ t', (s.makeDir d).entryAt? key = some (.dir t') := by
  unfold makeDir
  split
  · exact ⟨t, dir⟩
  · have set : ∃ t', (s.setEntry d (.dir s.clock)).entryAt? key = some (.dir t') := by
      rw [entryAt?_setEntry]
      split
      · exact ⟨_, rfl⟩
      · exact ⟨t, dir⟩
    obtain ⟨t', set⟩ := set
    exact entryAt?_touchParent_dir set

theorem entryAt?_makeDir_self {ps : List String} (components : ∀ c ∈ ps, Path.Component c) (plain : ".." ∉ ps)
    (notFile : s.isFile (Path.build "/" ps) = false) :
    ∃ t, (s.makeDir (Path.build "/" ps)).entryAt? (Path.build "/" ps) = some (.dir t) := by
  unfold makeDir
  split
  · rename_i there
    rw [present, get?_build_slash components plain] at there
    rw [isFile, get?_build_slash components plain] at notFile
    cases entry : s.entryAt? (Path.build "/" ps) with
    | none => simp [entry] at there
    | some e =>
      cases e with
      | file b t => simp [entry] at notFile
      | dir t => exact ⟨t, rfl⟩
  · have set : ∃ t, (s.setEntry (Path.build "/" ps) (.dir s.clock)).entryAt? (Path.build "/" ps) = some (.dir t) := by
      rw [entryAt?_setEntry, resolve_build_slash components plain]
      split
      · exact ⟨_, rfl⟩
      · rename_i kept
        have root : Path.build "/" ps = "/" := by
          by_contra other
          exact kept ⟨other, rfl⟩
        exact ⟨0, by rw [root, entryAt?_root]⟩
    obtain ⟨t, set⟩ := set
    exact entryAt?_touchParent_dir set

/-- What making the directories on a way leaves behind: the same working directory and clock,
a directory at every place on the way, and every other place as it was. -/
structure MadeDirs (s t : Store) (way : List String) : Prop where
  cwd : t.cwd = s.cwd
  clock : t.clock = s.clock
  dirs : ∀ d ∈ way, ∃ mtime, t.entryAt? d = some (.dir mtime)
  frame : ∀ key ∉ way, t.entryAt? key = s.entryAt? key

theorem foldl_makeDir_chain {ps : List String} (components : ∀ c ∈ ps, Path.Component c) (plain : ".." ∉ ps)
    (s : Store) (noFile : ∀ d ∈ Path.chain ps, s.isFile d = false) :
    MadeDirs s ((Path.chain ps).foldl makeDir s) (Path.chain ps) := by
  induction ps using List.reverseRecOn with
  | nil => exact ⟨rfl, rfl, by simp [Path.chain], fun _ _ => rfl⟩
  | append_singleton ps c ih =>
    have componentsPs : ∀ c ∈ ps, Path.Component c := fun c' member => components c' (List.mem_append_left _ member)
    have plainPs : ".." ∉ ps := fun member => plain (List.mem_append_left _ member)
    rw [Path.chain_append_singleton] at noFile ⊢
    have before := ih componentsPs plainPs fun d member => noFile d (List.mem_append_left _ member)
    rw [List.foldl_append, List.foldl_cons, List.foldl_nil]
    have fresh := Path.build_slash_not_mem_chain componentsPs
    have notFile : ((Path.chain ps).foldl makeDir s).isFile (Path.build "/" ps) = false := by
      rw [isFile, get?_build_slash componentsPs plainPs, before.frame _ fresh, ← get?_build_slash componentsPs plainPs]
      exact noFile _ (List.mem_append_right _ (List.mem_singleton_self _))
    refine ⟨by simp [before.cwd], by simp [before.clock], ?_, ?_⟩
    · intro d member
      rcases List.mem_append.mp member with old | new
      · obtain ⟨t, dir⟩ := before.dirs d old
        exact entryAt?_makeDir_dir dir
      · rw [List.mem_singleton.mp new]
        exact entryAt?_makeDir_self componentsPs plainPs notFile
    · intro key outside
      have old : key ∉ Path.chain ps := fun member => outside (List.mem_append_left _ member)
      have other : key ≠ Path.build "/" ps := fun same => outside (List.mem_append_right _ (by simp [same]))
      rw [← before.frame key old]
      by_cases empty : ps = []
      · subst empty
        exact congrArg (entryAt? · key) makeDir_root
      · have above := Path.parent_mem_chain componentsPs empty
        have componentsAbove : ∀ c ∈ ps.dropLast, Path.Component c :=
          fun c' member => componentsPs c' (List.dropLast_subset _ member)
        refine entryAt?_makeDir_of_ne (by rwa [resolve_build_slash componentsPs plainPs]) ?_
        rw [resolve_build_slash componentsPs plainPs, Path.parent_build_slash componentsPs,
          resolve_build_slash componentsAbove fun member => plainPs (List.dropLast_subset _ member)]
        rw [Path.parent_build_slash componentsPs] at above
        exact fun same => old (same ▸ above)

theorem get?_of_mem_chain {ps : List String} (components : ∀ c ∈ ps, Path.Component c) (plain : ".." ∉ ps)
    {d : String} (member : d ∈ Path.chain ps) : s.get? d = s.entryAt? d := by
  obtain ⟨k, -, rfl⟩ := Path.mem_chain.mp member
  exact get?_build_slash (fun _ inTake => components _ (List.mem_of_mem_take inTake))
    fun inTake => plain (List.mem_of_mem_take inTake)

theorem foldl_makeDir_of_present : ∀ {way : List String}, (∀ d ∈ way, s.present d = true) → way.foldl makeDir s = s
  | [], _ => rfl
  | d :: way, there => by
    rw [List.foldl_cons, makeDir, if_pos (there d List.mem_cons_self)]
    exact foldl_makeDir_of_present fun d' member => there d' (List.mem_cons_of_mem _ member)

theorem setEntry_congr {q : String} (same : s.resolve p = s.resolve q) (e : Entry) :
    s.setEntry p e = s.setEntry q e := by
  unfold setEntry
  rw [same]

theorem touchParent_congr {q : String} (same : s.resolve p = s.resolve q) : s.touchParent p = s.touchParent q := by
  unfold touchParent
  rw [same]

theorem makeDir_congr {q : String} (same : Path.parts (Path.join s.cwd p) = Path.parts (Path.join s.cwd q)) :
    s.makeDir p = s.makeDir q := by
  have resolved := resolve_congr same
  have touched : (s.setEntry q (.dir s.clock)).resolve p = (s.setEntry q (.dir s.clock)).resolve q := by
    rw [resolve_eq_of_cwd (cwd_setEntry _) p, resolve_eq_of_cwd (cwd_setEntry _) q, resolved]
  unfold makeDir
  rw [present, present, get?_congr same, setEntry_congr resolved, touchParent_congr touched]

theorem isDir_root : s.isDir "/" = true := by
  have spelled : Path.build "/" [] = "/" := by simp [Path.build_slash]
  rw [← spelled, isDir_build_slash (by simp) (by simp), spelled, entryAt?_root]
  exact ⟨0, rfl⟩

theorem checkWay_eq_ok_iff (plain : ".." ∉ Path.parts (Path.join s.cwd p)) :
    s.checkWay p = .ok () ↔ ∀ d ∈ Path.chain (Path.parts (Path.join s.cwd p)), s.isDir d = true := by
  have ancestors : (Path.ancestors (s.resolve p)).reverse = Path.chain (Path.parts (Path.join s.cwd p)) := by
    rw [resolve_eq_build plain, Path.ancestors_build_slash fun _ member => Path.component_of_mem_parts member,
      List.reverse_reverse]
  unfold checkWay
  rw [blockedStep?_eq_none plain]
  dsimp only
  rw [ancestors]
  constructor
  · intro passed d member
    split at passed
    · rename_i none
      -- The root heads the way, and the check skips it: it is a directory in every tree.
      have nonempty : Path.parts (Path.join s.cwd p) ≠ [] := by
        rintro empty
        simp [empty, Path.chain] at member
      rw [Path.chain_eq_cons nonempty] at member
      rcases List.mem_cons.mp member with root | below
      · rw [root]
        exact isDir_root
      · simpa using List.find?_eq_none.mp none d below
    · split at passed <;> cases passed
  · intro dirs
    rw [List.find?_eq_none.mpr fun a member => by simpa using dirs a (List.mem_of_mem_drop member)]

theorem checkWay_error_notFound (plain : ".." ∉ Path.parts (Path.join s.cwd p))
    (noFile : ∀ d ∈ Path.chain (Path.parts (Path.join s.cwd p)), s.isFile d = false) {e : FsError}
    (failed : s.checkWay p = .error e) : e.kind = .notFound := by
  have ancestors : (Path.ancestors (s.resolve p)).reverse = Path.chain (Path.parts (Path.join s.cwd p)) := by
    rw [resolve_eq_build plain, Path.ancestors_build_slash fun _ member => Path.component_of_mem_parts member,
      List.reverse_reverse]
  unfold checkWay at failed
  rw [blockedStep?_eq_none plain] at failed
  dsimp only at failed
  rw [ancestors] at failed
  split at failed
  · cases failed
  · rename_i a found
    have notFile := noFile a (List.mem_of_mem_drop (List.mem_of_find?_eq_some found))
    rw [notFile] at failed
    cases failed
    rfl

theorem createDir_cases (passed : s.checkWay p = .ok ()) (notFile : s.isFile p = false) :
    s.createDir p = .ok (s.makeDir p) ∨
      (s.createDir p = .error ⟨.alreadyExists, p⟩ ∧ s.isDir p = true ∧ s.makeDir p = s) := by
  cases entry : s.get? p with
  | none =>
    left
    simp [createDir, passed, entry, makeDir, present, bind, Except.bind, pure, Except.pure]
  | some e =>
    cases e with
    | file b t => simp [isFile, entry] at notFile
    | dir t =>
      right
      refine ⟨by simp [createDir, passed, entry, bind, Except.bind, throw, throwThe, MonadExceptOf.throw],
        by simp [isDir, entry], by simp [makeDir, present, entry]⟩

theorem createDir_of_checkWay_error {e : FsError} (failed : s.checkWay p = .error e) : s.createDir p = .error e := by
  rw [createDir, failed]
  rfl

theorem makeDirsAlong_eq_foldl {root : String} (rooted : root = "" ∨ root = "/" ∨ root = "//") (ps : List String)
    (components : ∀ c ∈ ps, Path.Component c)
    (plain : ".." ∉ Path.parts (Path.join s.cwd (Path.build root ps)))
    (noFile : ∀ d ∈ Path.chainTo (Path.parts (Path.join s.cwd (Path.build root ps))), s.isFile d = false) :
    s.makeDirsAlong root ps.reverse = .ok ((Path.chainTo (Path.parts (Path.join s.cwd (Path.build root ps)))).foldl makeDir s) := by
  induction ps using List.reverseRecOn with
  | nil =>
    have way : (Path.ancestors (s.resolve (Path.build root []))).reverse ++ [s.resolve (Path.build root [])] =
        Path.chainTo (Path.parts (Path.join s.cwd (Path.build root []))) := by
      rw [resolve_eq_build plain, Path.ancestors_build_slash fun _ member => Path.component_of_mem_parts member,
        List.reverse_reverse, Path.chainTo]
    have noneFile : ¬(Path.chainTo (Path.parts (Path.join s.cwd (Path.build root [])))).any s.isFile = true := by
      rw [Bool.not_eq_true, List.any_eq_false]
      exact fun d member => by simp [noFile d member]
    rw [List.reverse_nil, makeDirsAlong, makeWay]
    rw [way, if_neg noneFile]
    rfl
  | append_singleton ps c ih =>
    have componentsPs : ∀ c ∈ ps, Path.Component c := fun c' member => components c' (List.mem_append_left _ member)
    have spelled : Path.parts (Path.join s.cwd (Path.build root (ps ++ [c]))) =
        Path.parts (Path.join s.cwd (Path.build root ps)) ++ [c] := by
      rw [Path.parts_join_build rooted components, Path.parts_join_build rooted componentsPs, List.append_assoc]
    have plainPs : ".." ∉ Path.parts (Path.join s.cwd (Path.build root ps)) := by
      rw [spelled] at plain
      exact fun member => plain (List.mem_append_left _ member)
    have above : Path.chainTo (Path.parts (Path.join s.cwd (Path.build root ps))) =
        Path.chain (Path.parts (Path.join s.cwd (Path.build root (ps ++ [c])))) := by
      rw [spelled, Path.chain_append_singleton, Path.chainTo]
    have way : Path.chainTo (Path.parts (Path.join s.cwd (Path.build root (ps ++ [c])))) =
        Path.chainTo (Path.parts (Path.join s.cwd (Path.build root ps))) ++ [Path.build "/" (Path.parts (Path.join s.cwd (Path.build root (ps ++ [c]))))] := by
      rw [Path.chainTo, above]
    have componentsWay : ∀ x ∈ Path.parts (Path.join s.cwd (Path.build root (ps ++ [c]))), Path.Component x :=
      fun _ member => Path.component_of_mem_parts member
    have last : ∀ t : Store, t.cwd = s.cwd → t.makeDir (Path.build root (ps ++ [c])) =
        t.makeDir (Path.build "/" (Path.parts (Path.join s.cwd (Path.build root (ps ++ [c]))))) :=
      fun t cwd => makeDir_congr (by rw [cwd, parts_join_build_slash s.cwd componentsWay])
    have notFile : s.isFile (Path.build root (ps ++ [c])) = false := by
      have atLast := noFile _ (by rw [way]; exact List.mem_append_right _ (List.mem_singleton_self _))
      rwa [isFile, get?_congr (by rw [parts_join_build_slash s.cwd componentsWay]), ← isFile]
    rw [way, List.foldl_append, List.foldl_cons, List.foldl_nil, List.reverse_append, List.reverse_singleton,
      List.singleton_append, makeDirsAlong]
    simp only [List.reverse_reverse]
    cases passed : s.checkWay (Path.build root (ps ++ [c])) with
    | ok u =>
      have dirs := (checkWay_eq_ok_iff plain).mp passed
      have kept : (Path.chainTo (Path.parts (Path.join s.cwd (Path.build root ps)))).foldl makeDir s = s :=
        foldl_makeDir_of_present fun d member => by
          obtain ⟨t, dir⟩ := isDir_iff.mp (dirs d (above ▸ member))
          simp [present, dir]
      rw [kept, ← last s rfl]
      rcases createDir_cases passed notFile with made | ⟨refused, there, same⟩
      · rw [made]
      · rw [refused, same]
        simp [there]
    | error e =>
      have notFound := checkWay_error_notFound plain (fun d member => noFile d (by
        rw [way, above]; exact List.mem_append_left _ member)) passed
      have made := foldl_makeDir_chain componentsWay plain s fun d member => noFile d (by
        rw [way, above]; exact List.mem_append_left _ member)
      rw [← above] at made
      rw [createDir_of_checkWay_error passed]
      simp only [notFound, beq_self_eq_true, if_true]
      rw [ih componentsPs plainPs fun d member => noFile d (by rw [way]; exact List.mem_append_left _ member)]
      generalize (Path.chainTo (Path.parts (Path.join s.cwd (Path.build root ps)))).foldl makeDir s = s₁ at made ⊢
      have plain₁ : ".." ∉ Path.parts (Path.join s₁.cwd (Path.build root (ps ++ [c]))) := by
        rw [made.cwd]
        exact plain
      have passed₁ : s₁.checkWay (Path.build root (ps ++ [c])) = .ok () := by
        refine (checkWay_eq_ok_iff plain₁).mpr fun d member => ?_
        rw [made.cwd] at member
        obtain ⟨t, dir⟩ := made.dirs d (above ▸ member)
        exact isDir_iff.mpr ⟨t, by rw [get?_of_mem_chain componentsWay plain member, dir]⟩
      have notFile₁ : s₁.isFile (Path.build root (ps ++ [c])) = false := by
        rw [isFile, get?_eq_entryAt? plain₁, resolve_eq_of_cwd made.cwd, resolve_eq_build plain,
          made.frame _ (above ▸ Path.build_slash_not_mem_chain componentsWay), ← resolve_eq_build plain,
          ← get?_eq_entryAt? plain, ← isFile]
        exact notFile
      rw [← last s₁ made.cwd]
      dsimp only
      rcases createDir_cases passed₁ notFile₁ with made₂ | ⟨refused, there, same⟩
      · rw [made₂]
      · rw [refused, same]
        simp [there]

theorem makeDirs_eq_foldl (plain : ".." ∉ Path.parts (Path.join s.cwd p))
    (noFile : ∀ d ∈ Path.chainTo (Path.parts (Path.join s.cwd p)), s.isFile d = false) :
    s.makeDirs p = .ok ((Path.chainTo (Path.parts (Path.join s.cwd p))).foldl makeDir s) := by
  rw [← Path.parts_join_normalize s.cwd p] at plain noFile ⊢
  exact makeDirsAlong_eq_foldl (Path.rootOf_cases p) (Path.parts p)
    (fun _ member => Path.component_of_mem_parts member) plain noFile

theorem chainTo_parent (named : Path.parts p ≠ []) :
    Path.chainTo (Path.parts (Path.join s.cwd (Path.parent p))) = Path.chain (Path.parts (Path.join s.cwd p)) := by
  rw [parts_join_parent named, Path.chainTo, ← Path.chain_append_singleton,
    List.dropLast_append_getLast (parts_join_ne_nil named)]

theorem Writable.makeDirs_parent (place : Writable s p) : s.makeDirs (Path.parent p) = .ok s := by
  have plainParent : ".." ∉ Path.parts (Path.join s.cwd (Path.parent p)) := by
    rw [parts_join_parent place.named]
    exact fun member => place.plain (List.dropLast_subset _ member)
  have dirs : ∀ d ∈ Path.chain (Path.parts (Path.join s.cwd p)), ∃ t, s.get? d = some (.dir t) := fun d member =>
    isDir_iff.mp (place.above d (by
      rw [resolve_eq_build place.plain, Path.ancestors_build_slash fun _ member => Path.component_of_mem_parts member]
      exact List.mem_reverse.mpr member))
  rw [makeDirs_eq_foldl plainParent fun d member => ?_, chainTo_parent place.named, foldl_makeDir_of_present]
  · intro d member
    obtain ⟨t, dir⟩ := dirs d member
    simp [present, dir]
  · rw [chainTo_parent place.named] at member
    obtain ⟨t, dir⟩ := dirs d member
    simp [isFile, dir]

/-- A place where a missing file can be made: its path names something and steps back nowhere,
no place above it is a file, and where the directory that holds it exists, so do the ones
above that. A path that steps back can name its own place among the directories made for it:
for `m/../m` making the parent `m/..` makes `m` a directory, and the file cannot be written. -/
structure Creatable (s : Store) (p : String) : Prop where
  named : Path.parts p ≠ []
  plain : ".." ∉ Path.parts (Path.join s.cwd p)
  noFile : ∀ a ∈ Path.ancestors (s.resolve p), s.isFile a = false
  closed : s.isDir (Path.parent p) = true → ∀ a ∈ Path.ancestors (s.resolve p), s.isDir a = true
  missing : s.get? p = none

namespace Creatable

variable (place : Creatable s p)
include place

theorem ancestors_eq : Path.ancestors (s.resolve p) = (Path.chain (Path.parts (Path.join s.cwd p))).reverse := by
  rw [resolve_eq_build place.plain, Path.ancestors_build_slash fun _ member => Path.component_of_mem_parts member]

theorem makeDirs_parent :
    ∃ s', s.makeDirs (Path.parent p) = .ok s' ∧ Writable s' p ∧ s'.cwd = s.cwd ∧ s'.clock = s.clock ∧
      s'.get? p = none := by
  have components : ∀ c ∈ Path.parts (Path.join s.cwd p), Path.Component c :=
    fun _ member => Path.component_of_mem_parts member
  cases entry : s.get? (Path.parent p) with
  | some e =>
    obtain ⟨a, above, same⟩ := get?_parent place.named place.plain
    cases e with
    | dir t =>
      have there : s.isDir (Path.parent p) = true := by simp [isDir, entry]
      have writable : Writable s p := ⟨place.named, place.plain, place.closed there, by simp [isDir, place.missing]⟩
      exact ⟨s, writable.makeDirs_parent, writable, rfl, rfl, place.missing⟩
    | file b t =>
      have file := place.noFile a above
      rw [isFile, ← same, entry] at file
      simp at file
  | none =>
    have nonempty := parts_join_ne_nil (s := s) place.named
    have plainParent : ".." ∉ Path.parts (Path.join s.cwd (Path.parent p)) := by
      rw [parts_join_parent place.named]
      exact fun member => place.plain (List.dropLast_subset _ member)
    have noFile : ∀ d ∈ Path.chain (Path.parts (Path.join s.cwd p)), s.isFile d = false :=
      fun d member => place.noFile d (by rw [place.ancestors_eq]; exact List.mem_reverse.mpr member)
    have made := foldl_makeDir_chain components place.plain s noFile
    have plain' : ".." ∉ Path.parts (Path.join ((Path.chain (Path.parts (Path.join s.cwd p))).foldl makeDir s).cwd p) := by
      rw [made.cwd]
      exact place.plain
    have missing : ((Path.chain (Path.parts (Path.join s.cwd p))).foldl makeDir s).get? p = none := by
      rw [get?_eq_entryAt? plain', resolve_eq_of_cwd made.cwd, resolve_eq_build place.plain,
        made.frame _ (Path.build_slash_not_mem_chain components), ← resolve_eq_build place.plain,
        ← get?_eq_entryAt? place.plain, place.missing]
    refine ⟨(Path.chain (Path.parts (Path.join s.cwd p))).foldl makeDir s, ?_, ⟨place.named, plain', ?_, ?_⟩,
      made.cwd, made.clock, missing⟩
    · rw [makeDirs_eq_foldl plainParent fun d member => noFile d (by rwa [chainTo_parent place.named] at member),
        chainTo_parent place.named]
    · intro a member
      rw [resolve_eq_of_cwd made.cwd, place.ancestors_eq, List.mem_reverse] at member
      obtain ⟨k, -, rfl⟩ := Path.mem_chain.mp member
      exact (isDir_build_slash (fun _ inTake => components _ (List.mem_of_mem_take inTake))
        fun inTake => place.plain (List.mem_of_mem_take inTake)).mpr (made.dirs _ member)
    · simp [isDir, missing]

end Creatable

def Ready (s : Store) (p : String) : Prop :=
  ∃ s₀, s.makeDirs (Path.parent p) = .ok s₀ ∧ Writable s₀ p ∧ s₀.cwd = s.cwd

theorem Writable.ready (place : Writable s p) : Ready s p :=
  ⟨s, place.makeDirs_parent, place, rfl⟩

theorem Creatable.ready (place : Creatable s p) : Ready s p := by
  obtain ⟨s₀, made, writable, cwd, -⟩ := place.makeDirs_parent
  exact ⟨s₀, made, writable, cwd⟩

end PluginPack.Files.Store
