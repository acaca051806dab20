import PluginPack.Proofs.Files.Below

/-! Every operation of the store keeps a tree a tree.

Setting an entry keeps the keys spelled as places, since it resolves its path, and keeps every
listed entry the one found at its key, since it replaces each entry of the key or adds the first
one. It keeps the places above every entry directories when the places above the new key are
directories and no directory there gives way to a file. The operations check what that needs:
writing and creating a directory check the way to the place, touching the directory above a
place and setting a time change an entry into one of its own kind, and removing a tree takes
everything below the place with it. -/

namespace PluginPack.Files

namespace Path

theorem ne_of_mem_ancestors {p a : String} (member : a ∈ ancestors p) : a ≠ p := by
  rintro rfl
  obtain ⟨k, shorter, spelled, -⟩ := mem_ancestors member
  have lengths := congrArg List.length spelled
  rw [List.length_take] at lengths
  omega

theorem isBelow_of_mem_ancestors {ps : List String} (components : ∀ c ∈ ps, Component c) {a q : String}
    (member : a ∈ ancestors (build "/" ps)) (above : a = q ∨ isBelow q a = true) : isBelow q (build "/" ps) = true := by
  rw [ancestors_build_slash components, List.mem_reverse, mem_chain] at member
  obtain ⟨j, shorter, rfl⟩ := member
  have componentsTake : ∀ c ∈ ps.take j, Component c := fun c inTake => components c (List.mem_of_mem_take inTake)
  have prefixed : ps.take j <+: ps := List.take_prefix j ps
  simp only [isBelow, rootOf_build_slash components, parts_build_slash components, Bool.and_eq_true, beq_iff_eq,
    decide_eq_true_eq, List.isPrefixOf_iff_prefix]
  rcases above with rfl | below
  · rw [rootOf_build_slash componentsTake, parts_build_slash componentsTake, List.length_take]
    exact ⟨⟨rfl, by omega⟩, prefixed⟩
  · simp only [isBelow, rootOf_build_slash componentsTake, parts_build_slash componentsTake, Bool.and_eq_true,
      beq_iff_eq, decide_eq_true_eq, List.isPrefixOf_iff_prefix, List.length_take] at below
    obtain ⟨⟨root, longer⟩, inTake⟩ := below
    exact ⟨⟨root, by omega⟩, inTake.trans prefixed⟩

end Path

namespace Store

variable {s s' : Store} {p : String}

theorem physical_resolve (s : Store) (p : String) : Path.physical (s.resolve p) = s.resolve p := by
  conv => rhs; rw [resolve_eq_build_parts]
  rw [Path.physical_of_not_mem (not_mem_parts_resolve s p)]
  rfl

theorem mem_setEntry_entries {e e' : Entry} {k : String} (member : (k, e') ∈ (s.setEntry p e).entries) :
    k = s.resolve p ∧ e' = e ∨ (k, e') ∈ s.entries ∧ k ≠ s.resolve p := by
  unfold setEntry at member
  dsimp only at member
  split at member
  · obtain ⟨⟨q, old⟩, inS, replaced⟩ := List.mem_map.mp member
    by_cases same : q = s.resolve p
    · simp only [same, beq_self_eq_true, if_true, Prod.mk.injEq] at replaced
      exact .inl ⟨replaced.1.symm, replaced.2.symm⟩
    · simp only [beq_iff_eq, same, if_false, Prod.mk.injEq] at replaced
      rw [← replaced.1, ← replaced.2]
      exact .inr ⟨inS, same⟩
  · rename_i absent
    rcases List.mem_append.mp member with old | new
    · refine .inr ⟨old, fun same => absent (List.any_eq_true.mpr ⟨(k, e'), old, by simp [same]⟩)⟩
    · simp only [List.mem_singleton, Prod.mk.injEq] at new
      exact .inl new

theorem dirs_above_of_checkWay (passed : s.checkWay p = .ok ()) :
    ∀ a ∈ Path.ancestors (s.resolve p), ∃ t, s.entryAt? a = some (.dir t) := by
  have components : ∀ c ∈ Path.parts (s.resolve p), Path.Component c := fun _ member => Path.component_of_mem_parts member
  have plain := not_mem_parts_resolve s p
  intro a member
  rw [resolve_eq_build_parts, Path.ancestors_build_slash components, List.mem_reverse] at member
  obtain ⟨j, shorter, rfl⟩ := Path.mem_chain.mp member
  have componentsTake : ∀ c ∈ (Path.parts (s.resolve p)).take j, Path.Component c :=
    fun c inTake => components c (List.mem_of_mem_take inTake)
  by_cases zero : j = 0
  · subst zero
    exact ⟨0, by simp [Path.build_slash]⟩
  · -- The check looks at every place of the way below the root.
    have opened := blockedStep?_of_checkWay passed
    unfold checkWay at passed
    rw [opened] at passed
    dsimp only at passed
    split at passed
    · rename_i none
      have listed : Path.build "/" ((Path.parts (s.resolve p)).take j) ∈
          (Path.ancestors (s.resolve p)).reverse.drop 1 := by
        rw [resolve_eq_build_parts, Path.ancestors_build_slash components, List.reverse_reverse, Path.parts_build_slash components]
        rw [Path.chain_eq_cons (by rintro empty; simp [empty, Path.mem_chain] at member)] at member
        rcases List.mem_cons.mp member with root | below
        · have lengths := congrArg (fun q => (Path.parts q).length) root
          have rootParts : Path.parts "/" = [] := by decide
          simp only [Path.parts_build_slash componentsTake, List.length_take, rootParts, List.length_nil] at lengths
          omega
        · simpa using below
      have dir := List.find?_eq_none.mp none _ listed
      rw [Bool.not_eq_true', Bool.not_eq_false] at dir
      exact (isDir_build_slash componentsTake fun inTake => plain (List.mem_of_mem_take inTake)).mp dir
    · split at passed <;> cases passed

theorem makeDirsAlong_induction (R : Store → Store → Prop) (refl : ∀ s, R s s)
    (trans : ∀ {s₁ s₂ s₃}, R s₁ s₂ → R s₂ s₃ → R s₁ s₃)
    (create : ∀ {s s' q}, s.createDir q = .ok s' → R s s') (way : ∀ {s s' q}, s.makeWay q = .ok s' → R s s')
    {root : String} (rev : List String) (made : s.makeDirsAlong root rev = .ok s') : R s s' := by
  induction rev generalizing s' with
  | nil =>
    rw [makeDirsAlong] at made
    exact way made
  | cons c above ih =>
    rw [makeDirsAlong] at made
    split at made
    · rename_i s₁ created
      cases made
      exact create created
    · split at made
      · split at made
        · cases made
        · rename_i s₁ upper
          split at made
          · rename_i s₂ created
            cases made
            exact trans (ih upper) (create created)
          · split at made
            · cases made
              exact ih upper
            · cases made
      · split at made
        · cases made
          exact refl s
        · cases made

namespace Tree

variable (tree : s.Tree)
include tree

theorem setEntry {e : Entry} (notRoot : s.resolve p ≠ "/")
    (above : ∀ a ∈ Path.ancestors (s.resolve p), ∃ t, s.entryAt? a = some (.dir t))
    (kind : ∀ t, s.entryAt? (s.resolve p) = some (.dir t) → ∃ t', e = .dir t') :
    (s.setEntry p e).Tree where
  spelled k present := by
    rw [entryAt?_setEntry] at present
    split at present
    · rename_i at_
      rw [at_.2]
      exact physical_resolve s p
    · exact tree.spelled k present
  above k present a ancestor := by
    rw [entryAt?_setEntry] at present ⊢
    split at present
    · -- The new key: the places above it are directories, and none of them is the key.
      rename_i at_
      rw [at_.2] at ancestor
      rw [if_neg fun both => Path.ne_of_mem_ancestors ancestor both.2]
      exact above a ancestor
    · obtain ⟨t, dir⟩ := tree.above k present a ancestor
      split
      · rename_i at_
        rw [at_.2] at dir
        obtain ⟨t', rfl⟩ := kind t dir
        exact ⟨t', rfl⟩
      · exact ⟨t, dir⟩
  found k e' member := by
    rw [entryAt?_setEntry]
    rcases mem_setEntry_entries member with ⟨rfl, rfl⟩ | ⟨old, other⟩
    · rw [if_pos ⟨notRoot, rfl⟩]
    · rw [if_neg fun both => other both.2]
      exact tree.found k e' old

theorem touchParent : (s.touchParent p).Tree := by
  unfold Store.touchParent
  dsimp only
  split
  · rename_i touched
    simp only [Bool.and_eq_true, bne_iff_ne, ne_eq] at touched
    obtain ⟨dir, notRoot⟩ := touched
    have spelled : Path.parent (s.resolve p) = Path.build "/" (Path.parts (s.resolve p)).dropLast := by
      conv => lhs; rw [resolve_eq_build_parts]
      exact Path.parent_build_slash fun _ member => Path.component_of_mem_parts member
    have resolved : s.resolve (Path.parent (s.resolve p)) = Path.parent (s.resolve p) := by
      rw [spelled]
      exact resolve_build_slash (fun _ member => Path.component_of_mem_parts (List.dropLast_subset _ member))
        fun member => not_mem_parts_resolve s p (List.dropLast_subset _ member)
    obtain ⟨t, found⟩ := isDir_iff.mp dir
    have present := entryAt?_of_get? found
    refine tree.setEntry (by rw [resolved]; exact notRoot) (fun a member => tree.above _ ?_ a member) fun _ _ => ⟨_, rfl⟩
    rw [present]
    simp
  · exact tree

theorem writeFile {b : ByteArray} (wrote : s.writeFile p b = .ok s') : s'.Tree := by
  cases passed : s.checkWay p with
  | error e => simp [Store.writeFile, passed, bind, Except.bind] at wrote
  | ok u =>
    have found := get?_of_checkWay passed
    have above := dirs_above_of_checkWay passed
    cases entry : s.entryAt? (s.resolve p) with
    | none =>
      simp only [Store.writeFile, passed, found, entry, bind, Except.bind, pure, Except.pure, Except.ok.injEq] at wrote
      rw [← wrote]
      exact (tree.setEntry (resolve_ne_root_of_none entry) above fun t dir => by rw [entry] at dir; cases dir).touchParent
    | some e =>
      cases e with
      | dir t =>
        simp [Store.writeFile, passed, found, entry, bind, Except.bind, throw, throwThe, MonadExceptOf.throw] at wrote
      | file b₀ t₀ =>
        simp only [Store.writeFile, passed, found, entry, bind, Except.bind, pure, Except.pure, Except.ok.injEq] at wrote
        rw [← wrote]
        exact tree.setEntry (resolve_ne_root_of_file entry) above fun t dir => by rw [entry] at dir; cases dir

theorem setMtime (t : Nat) : (s.setMtime p t).Tree := by
  unfold Store.setMtime
  split
  · rename_i b t₀ found
    have present := entryAt?_of_get? found
    exact tree.setEntry (resolve_ne_root_of_file present) (tree.above _ (by rw [present]; simp))
      fun t dir => by rw [present] at dir; cases dir
  · rename_i t₀ found
    have present := entryAt?_of_get? found
    split
    · exact tree
    · rename_i notRoot
      exact tree.setEntry (by simpa using notRoot) (tree.above _ (by rw [present]; simp)) fun _ _ => ⟨t, rfl⟩
  · exact tree

theorem copyFile {src dst : String} {keep : Bool} (copied : s.copyFile src dst keep = .ok s') : s'.Tree := by
  cases read : s.readFile src with
  | error e => simp [Store.copyFile, read, bind, Except.bind] at copied
  | ok b =>
    cases wrote : s.writeFile dst b with
    | error e => simp [Store.copyFile, read, wrote, bind, Except.bind] at copied
    | ok s₁ =>
      have tree₁ := tree.writeFile wrote
      simp only [Store.copyFile, read, wrote, bind, Except.bind] at copied
      split at copied
      · split at copied <;> cases copied
        · exact tree₁.setMtime _
        · exact tree₁
      · cases copied
        exact tree₁

theorem makeDir {ps : List String} (components : ∀ c ∈ ps, Path.Component c) (plain : ".." ∉ ps)
    (dirs : ∀ a ∈ Path.chain ps, ∃ t, s.entryAt? a = some (.dir t)) : (s.makeDir (Path.build "/" ps)).Tree := by
  unfold Store.makeDir
  split
  · exact tree
  · rename_i absent
    have resolved : s.resolve (Path.build "/" ps) = Path.build "/" ps := resolve_build_slash components plain
    have missing : s.entryAt? (s.resolve (Path.build "/" ps)) = none := by
      rw [resolved, ← get?_build_slash components plain]
      simpa [present] using absent
    refine (tree.setEntry (resolve_ne_root_of_none missing) (fun a member => ?_) fun _ _ => ⟨_, rfl⟩).touchParent
    rw [resolved, Path.ancestors_build_slash components, List.mem_reverse] at member
    exact dirs a member

theorem foldl_makeDir_chain {ps : List String} (components : ∀ c ∈ ps, Path.Component c) (plain : ".." ∉ ps)
    (noFile : ∀ d ∈ Path.chain ps, s.isFile d = false) : ((Path.chain ps).foldl Store.makeDir s).Tree := by
  induction ps using List.reverseRecOn with
  | nil => exact tree
  | append_singleton ps c ih =>
    have componentsPs : ∀ c ∈ ps, Path.Component c := fun c' member => components c' (List.mem_append_left _ member)
    have plainPs : ".." ∉ ps := fun member => plain (List.mem_append_left _ member)
    rw [Path.chain_append_singleton] at noFile ⊢
    rw [List.foldl_append, List.foldl_cons, List.foldl_nil]
    have before := fun d (member : d ∈ Path.chain ps) => noFile d (List.mem_append_left _ member)
    exact (ih componentsPs plainPs before).makeDir componentsPs plainPs
      (Store.foldl_makeDir_chain componentsPs plainPs s before).dirs

theorem makeWay (made : s.makeWay p = .ok s') : s'.Tree := by
  have components : ∀ c ∈ Path.parts (s.resolve p), Path.Component c := fun _ member => Path.component_of_mem_parts member
  have plain := not_mem_parts_resolve s p
  have way : (Path.ancestors (s.resolve p)).reverse ++ [s.resolve p] = Path.chainTo (Path.parts (s.resolve p)) := by
    rw [resolve_eq_build_parts, Path.ancestors_build_slash components, List.reverse_reverse, Path.chainTo,
      Path.parts_build_slash components]
  unfold Store.makeWay at made
  dsimp only at made
  rw [way] at made
  split at made
  · cases made
  · rename_i anyFile
    rw [← Except.ok.inj made]
    have noFile : ∀ d ∈ Path.chain (Path.parts (s.resolve p)), s.isFile d = false := fun d member => by
      simpa using List.any_eq_false.mp (Bool.not_eq_true _ ▸ anyFile) d (List.mem_append_left _ member)
    show ((Path.chainTo (Path.parts (s.resolve p))).foldl Store.makeDir s).Tree
    rw [Path.chainTo, List.foldl_append, List.foldl_cons, List.foldl_nil]
    exact (tree.foldl_makeDir_chain components plain noFile).makeDir components plain
      (Store.foldl_makeDir_chain components plain s noFile).dirs

theorem createDir (made : s.createDir p = .ok s') : s'.Tree := by
  obtain ⟨passed, missing, result⟩ := createDir_eq_ok made
  rw [result]
  exact (tree.setEntry (resolve_ne_root_of_none missing) (dirs_above_of_checkWay passed)
    fun t dir => by rw [missing] at dir; cases dir).touchParent

theorem makeDirs (made : s.makeDirs p = .ok s') : s'.Tree :=
  makeDirsAlong_induction (fun s s' => s.Tree → s'.Tree) (fun _ => id) (fun first second tree => second (first tree))
    (fun created tree => tree.createDir created) (fun made tree => tree.makeWay made) _ made tree

end Tree

theorem entryAt?_filter (keep : String → Bool) (k : String) :
    ({ s with entries := s.entries.filter fun e => keep e.1 } : Store).entryAt? k =
      if k = "/" then some (.dir 0) else if keep k = true then s.entryAt? k else none := by
  unfold entryAt?
  by_cases root : k = "/"
  · simp [root]
  · have notRoot : (k == "/") = false := by simpa using root
    simp only [notRoot, Bool.false_eq_true, if_false, root, List.find?_filter]
    split
    · rename_i kept
      congr 2
      funext e
      by_cases same : e.1 = k
      · simp [same, kept]
      · simp [same]
    · rename_i refused
      rw [List.find?_eq_none.mpr fun e _ => by
        by_cases same : e.1 = k
        · simp [same, refused]
        · simp [same]]
      rfl

def keptBy (q : String) (k : String) : Bool := k != q && !Path.isBelow q k

theorem keptBy_of_outside {q k : String} (outside : ¬Path.parts q <+: Path.parts k) : keptBy q k = true := by
  simp only [keptBy, Bool.and_eq_true, bne_iff_ne, ne_eq, Bool.not_eq_true']
  refine ⟨fun same => outside (same ▸ List.prefix_refl _), ?_⟩
  cases below : Path.isBelow q k with
  | false => rfl
  | true =>
    simp only [Path.isBelow, Bool.and_eq_true, List.isPrefixOf_iff_prefix] at below
    exact absurd below.2 outside

theorem Tree.filter_keptBy (tree : s.Tree) (q : String) :
    ({ s with entries := s.entries.filter fun e => keptBy q e.1 } : Store).Tree where
  spelled k present := by
    rw [entryAt?_filter] at present
    split at present
    · rename_i root
      rw [root]
      decide
    · split at present
      · exact tree.spelled k present
      · exact absurd rfl present
  above k present a ancestor := by
    rw [entryAt?_filter] at present ⊢
    split at present
    · rename_i root
      rw [root, show Path.ancestors "/" = [] by decide] at ancestor
      cases ancestor
    · split at present
      · rename_i kept
        obtain ⟨t, dir⟩ := tree.above k present a ancestor
        split
        · exact ⟨0, rfl⟩
        · split
          · exact ⟨t, dir⟩
          · -- A dropped place above a kept one would have dropped it too.
            rename_i dropped
            have below : Path.isBelow q k = true := by
              rw [tree.eq_build present] at ancestor ⊢
              refine Path.isBelow_of_mem_ancestors (fun _ member => Path.component_of_mem_parts member) ancestor ?_
              by_cases same : a = q
              · exact .inl same
              · exact .inr (by simpa [keptBy, same] using dropped)
            simp [keptBy, below] at kept
      · exact absurd rfl present
  found k e member := by
    obtain ⟨listed, kept⟩ := List.mem_filter.mp member
    have kept : keptBy q k = true := kept
    rw [entryAt?_filter]
    split
    · rename_i root
      have found := tree.found k e listed
      rw [root, entryAt?_root] at found
      exact found
    · exact tree.found k e listed

theorem removeTree_eq_ok (removed : s.removeTree p = .ok s') :
    s.checkWay p = .ok () ∧ (∃ t, s.entryAt? (s.resolve p) = some (.dir t)) ∧
      s' = ({ s with entries := s.entries.filter fun e => keptBy (s.resolve p) e.1 } : Store).touchParent p := by
  cases passed : s.checkWay p with
  | error e => simp [removeTree, passed, bind, Except.bind] at removed
  | ok u =>
    have found := get?_of_checkWay passed
    cases entry : s.entryAt? (s.resolve p) with
    | none => simp [removeTree, passed, found, entry, bind, Except.bind, throw, throwThe, MonadExceptOf.throw] at removed
    | some e =>
      cases e with
      | file b t => simp [removeTree, passed, found, entry, bind, Except.bind, throw, throwThe, MonadExceptOf.throw] at removed
      | dir t =>
        simp only [removeTree, passed, found, entry, bind, Except.bind, pure, Except.pure, Except.ok.injEq] at removed
        exact ⟨rfl, ⟨t, rfl⟩, removed.symm⟩

theorem Tree.removeTree (tree : s.Tree) (removed : s.removeTree p = .ok s') : s'.Tree := by
  obtain ⟨-, -, result⟩ := removeTree_eq_ok removed
  rw [result]
  exact (tree.filter_keptBy _).touchParent

theorem removeTree_stamped (removed : s.removeTree p = .ok s') {k : String}
    (outside : ¬Path.parts (s.resolve p) <+: Path.parts k) : Stamped s s' k := by
  obtain ⟨-, -, result⟩ := removeTree_eq_ok removed
  rw [result]
  have kept : Stamped s ({ s with entries := s.entries.filter fun e => keptBy (s.resolve p) e.1 } : Store) k := by
    refine .inl ?_
    rw [entryAt?_filter]
    split
    · rename_i root
      rw [root, entryAt?_root]
    · rw [if_pos (keptBy_of_outside outside)]
  exact kept.trans (touchParent_stamped k) rfl

end Store

end PluginPack.Files
