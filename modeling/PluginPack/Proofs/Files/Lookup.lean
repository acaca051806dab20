import Mathlib.Data.String.Basic
import PluginPack.Files.Store

/-! Looking up an entry of the file tree by a path. Only the components of a path after it is
joined to the working directory decide what a lookup finds, so two spellings of one normal
form, such as `a/./b` and `a//b/`, read the same file; the spelling shows only in the texts of
failures. A file that is read is an entry of the tree under the path's resolved key. -/

namespace PluginPack.Files.Path

theorem not_mem_of_mem_splitOn {a : Char} : ∀ {xs l : List Char}, l ∈ xs.splitOn a → a ∉ l
  | [], l, member => by simp_all
  | x :: xs, l, member => by
    rw [List.splitOn_eq_splitOnP, List.splitOnP_cons_eq_if_modifyHead, ← List.splitOn_eq_splitOnP] at member
    split at member
    · rcases List.mem_cons.mp member with rfl | later
      · simp
      · exact not_mem_of_mem_splitOn later
    · rename_i other
      obtain ⟨first, rest, split⟩ := List.exists_cons_of_ne_nil (List.splitOn_ne_nil a xs)
      rw [split, List.modifyHead_cons] at member
      rcases List.mem_cons.mp member with rfl | later
      · have := not_mem_of_mem_splitOn (split ▸ List.mem_cons_self : first ∈ xs.splitOn a)
        simp only [List.mem_cons, not_or]
        exact ⟨fun same => by simp [same] at other, this⟩
      · exact not_mem_of_mem_splitOn (split ▸ List.mem_cons_of_mem _ later : l ∈ xs.splitOn a)

/-- A component of a path: not empty, not `.`, and without a slash. -/
structure Component (c : String) : Prop where
  nonempty : c ≠ ""
  notDot : c ≠ "."
  noSlash : '/' ∉ c.toList

theorem component_of_mem_parts {p c : String} (member : c ∈ parts p) : Component c := by
  unfold parts at member
  obtain ⟨kept, clean⟩ := List.mem_filter.mp member
  obtain ⟨l, split, rfl⟩ := List.mem_map.mp kept
  simp only [Bool.and_eq_true, Bool.not_eq_true', bne_iff_ne, ne_eq] at clean
  refine ⟨fun empty => by simp [empty] at clean, clean.2, ?_⟩
  rw [String.toList_ofList]
  exact not_mem_of_mem_splitOn split

theorem parts_eq_of_toList (p : String) :
    parts p = ((p.toList.splitOn '/').map String.ofList).filter fun s => !s.isEmpty && s != "." := rfl

theorem splitOn_slashes (ps : List String) (components : ∀ c ∈ ps, Component c) (hne : ps ≠ []) :
    (['/'].intercalate (ps.map String.toList)).splitOn '/' = ps.map String.toList :=
  List.splitOn_intercalate '/' (by
    intro l member
    obtain ⟨c, inPs, rfl⟩ := List.mem_map.mp member
    exact (components c inPs).noSlash) (by simpa using hne)

theorem filter_components (ps : List String) (components : ∀ c ∈ ps, Component c) :
    ps.filter (fun s => !s.isEmpty && s != ".") = ps := by
  rw [List.filter_eq_self]
  intro c member
  have := components c member
  simp [this.nonempty, this.notDot]

theorem parts_intercalate (ps : List String) (components : ∀ c ∈ ps, Component c) :
    parts ("/".intercalate ps) = ps := by
  cases ps with
  | nil => rfl
  | cons c cs =>
    rw [parts_eq_of_toList, String.toList_intercalate, show "/".toList = ['/'] from rfl,
      splitOn_slashes _ components (List.cons_ne_nil _ _), List.map_map]
    simpa using filter_components _ components

theorem parts_slash_append (s : String) : parts ("/" ++ s) = parts s := by
  rw [parts_eq_of_toList, parts_eq_of_toList, String.toList_append, show "/".toList = ['/'] from rfl,
    List.singleton_append, List.splitOn_eq_splitOnP, List.splitOnP_cons_eq_if_modifyHead]
  simp [← List.splitOn_eq_splitOnP]

theorem rootOf_cases (p : String) : rootOf p = "" ∨ rootOf p = "/" ∨ rootOf p = "//" := by
  unfold rootOf
  split <;> simp

theorem parts_build {root : String} (rooted : root = "" ∨ root = "/" ∨ root = "//") (ps : List String)
    (components : ∀ c ∈ ps, Component c) : parts (build root ps) = ps := by
  rcases rooted with rfl | rfl | rfl
  · cases ps with
    | nil => rfl
    | cons c cs => exact parts_intercalate _ components
  · simp [build, parts_slash_append, parts_intercalate _ components]
  · have doubled : build "//" ps = "/" ++ ("/" ++ "/".intercalate ps) := by
      rw [← String.append_assoc]
      rfl
    rw [doubled, parts_slash_append, parts_slash_append, parts_intercalate _ components]

theorem parts_normalize (p : String) : parts (normalize p) = parts p :=
  parts_build (rootOf_cases p) (parts p) fun _ member => component_of_mem_parts member

theorem isAbsolute_iff (p : String) : isAbsolute p = true ↔ p.toList.head? = some '/' := by
  unfold isAbsolute
  rw [String.startsWith_string_iff, show "/".toList = ['/'] from rfl]
  cases p.toList with
  | nil => simp
  | cons c cs => simp [List.cons_prefix_cons, eq_comm]

theorem rootOf_eq_empty_iff (p : String) : rootOf p = "" ↔ p.toList.head? ≠ some '/' := by
  unfold rootOf
  cases p.toList with
  | nil => simp
  | cons c cs =>
    by_cases slash : c = '/'
    · subst slash
      simp only [List.takeWhile_cons, beq_self_eq_true, if_true, List.length_cons, List.head?_cons, ne_eq,
        not_true_eq_false, iff_false]
      split <;> simp_all
    · simp [slash]

theorem head?_intercalate {ps : List String} (components : ∀ c ∈ ps, Component c) :
    ("/".intercalate ps).toList.head? ≠ some '/' := by
  cases ps with
  | nil => simp
  | cons c cs =>
    have first := components c List.mem_cons_self
    obtain ⟨d, ds, spelled⟩ := List.exists_cons_of_ne_nil
      (fun empty => first.nonempty (String.toList_eq_nil_iff.mp empty))
    have notSlash : d ≠ '/' := fun same => first.noSlash (by simp [spelled, same])
    cases cs <;> simp [String.toList_intercalate, spelled, notSlash]

theorem isAbsolute_build {root : String} (rooted : root = "" ∨ root = "/" ∨ root = "//") {ps : List String}
    (components : ∀ c ∈ ps, Component c) : isAbsolute (build root ps) = true ↔ root ≠ "" := by
  rw [isAbsolute_iff]
  rcases rooted with rfl | rfl | rfl
  · cases ps with
    | nil => decide
    | cons c cs => simpa [build] using head?_intercalate components
  · simp [build]
  · simp [build]

theorem isAbsolute_normalize (p : String) : isAbsolute (normalize p) = isAbsolute p := by
  have absolute := isAbsolute_build (rootOf_cases p) fun c (member : c ∈ parts p) => component_of_mem_parts member
  rw [← normalize] at absolute
  rw [Bool.eq_iff_iff, absolute, isAbsolute_iff, ne_eq, rootOf_eq_empty_iff, not_not]

theorem parts_join (base p : String) :
    parts (join base p) = if isAbsolute p then parts p else parts base ++ parts p := by
  unfold join
  split
  · exact parts_normalize p
  · refine parts_build (rootOf_cases base) _ fun c member => ?_
    rcases List.mem_append.mp member with inBase | inRel
    · exact component_of_mem_parts inBase
    · exact component_of_mem_parts inRel

theorem parts_join_congr {p q : String} (same : normalize p = normalize q) (base : String) :
    parts (join base p) = parts (join base q) := by
  have absolute : isAbsolute p = isAbsolute q := by
    rw [← isAbsolute_normalize p, ← isAbsolute_normalize q, same]
  have components : parts p = parts q := by
    rw [← parts_normalize p, ← parts_normalize q, same]
  rw [parts_join, parts_join, absolute, components]

end PluginPack.Files.Path

namespace PluginPack.Files.Store

variable {s : Store} {p q : String}

theorem get?_congr (same : Path.parts (Path.join s.cwd p) = Path.parts (Path.join s.cwd q)) :
    s.get? p = s.get? q := by
  unfold get? blockedStep? resolve Path.physical
  rw [same]

theorem resolve_congr (same : Path.parts (Path.join s.cwd p) = Path.parts (Path.join s.cwd q)) :
    s.resolve p = s.resolve q := by
  simp only [resolve, Path.physical, same]

theorem checkWay_ok_congr (same : Path.parts (Path.join s.cwd p) = Path.parts (Path.join s.cwd q))
    (passed : s.checkWay p = .ok ()) : s.checkWay q = .ok () := by
  have blocked : s.blockedStep? p = s.blockedStep? q := by simp only [blockedStep?, same]
  unfold checkWay at passed ⊢
  rw [← blocked, ← resolve_congr same]
  split at passed
  · split at passed <;> cases passed
  · dsimp only at passed ⊢
    split at passed
    · rfl
    · split at passed <;> cases passed

theorem readFile_ok_congr {b : ByteArray} (same : Path.parts (Path.join s.cwd p) = Path.parts (Path.join s.cwd q))
    (read : s.readFile p = .ok b) : s.readFile q = .ok b := by
  unfold readFile at read ⊢
  cases passed : s.checkWay p with
  | error e =>
    rw [passed] at read
    cases read
  | ok u =>
    rw [passed] at read
    rw [checkWay_ok_congr same passed, ← get?_congr same]
    cases entry : s.get? p with
    | none => simp [entry, bind, Except.bind, throw, throwThe, MonadExceptOf.throw] at read
    | some e => cases e <;> simp_all [bind, Except.bind, throw, throwThe, MonadExceptOf.throw]

theorem entryAt?_of_get? {e : Entry} (found : s.get? p = some e) : s.entryAt? (s.resolve p) = some e := by
  unfold get? at found
  split at found
  · cases found
  · exact found

theorem get?_of_readFile {b : ByteArray} (read : s.readFile p = .ok b) : ∃ t, s.get? p = some (.file b t) := by
  unfold readFile at read
  cases passed : s.checkWay p with
  | error e =>
    rw [passed] at read
    cases read
  | ok u =>
    rw [passed] at read
    cases entry : s.get? p with
    | none => simp [entry, bind, Except.bind, throw, throwThe, MonadExceptOf.throw] at read
    | some e =>
      cases e with
      | file bytes t =>
        simp only [entry, bind, Except.bind, pure, Except.pure, Except.ok.injEq] at read
        exact ⟨t, by rw [read]⟩
      | dir t => simp [entry, bind, Except.bind, throw, throwThe, MonadExceptOf.throw] at read

theorem mem_of_entryAt? {k : String} {b : ByteArray} {t : Nat} (found : s.entryAt? k = some (.file b t)) :
    (k, .file b t) ∈ s.entries := by
  unfold entryAt? at found
  split at found
  · cases found
  · obtain ⟨e, hit, held⟩ := Option.map_eq_some_iff.mp found
    have keyed : e.1 = k := by simpa using List.find?_some hit
    have same : e = (k, .file b t) := Prod.ext keyed held
    rw [← same]
    exact List.mem_of_find?_eq_some hit

theorem mem_keys_of_entryAt? {k : String} {b : ByteArray} {t : Nat} (found : s.entryAt? k = some (.file b t)) :
    k ∈ s.entries.map Prod.fst :=
  List.mem_map.mpr ⟨_, mem_of_entryAt? found, rfl⟩

end PluginPack.Files.Store
