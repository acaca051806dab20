import PluginPack.Proofs.Assembly.Unpack

/-! Placing one artifact, and placing it again.

A library is copied unless its copy is at least as new; an overlay is unpacked unless its cache
is a directory at least as new as the archive, and laid over the application. What a placement
can do is said once per kind of placement (`copyIfModified_run'`, `unpackCached_run'`,
`place_run'`); and where every artifact is placed already (`Placed`), assembling once more
changes nothing and reports every library as up to date (`foldlM_place_of_placed`). -/

namespace PluginPack.Assembly

open Files

variable {w w' : Workspace}

theorem copyIfModified_run' {source target : String} {b : Bool}
    (ran : (copyIfModified source target).run' w = (.ok b, w')) :
    (b = false ∧ w'.store = w.store ∧
      ∃ t u, w.store.mtime? target = some t ∧ w.store.mtime? source = some u ∧ u ≤ t) ∨
    (b = true ∧ (∀ t u, w.store.mtime? target = some t → w.store.mtime? source = some u → t < u) ∧
      ∃ s₁, w.store.makeDirs (Path.parent target) = .ok s₁ ∧ copyPreserving s₁ source target = .ok w'.store) := by
  unfold copyIfModified at ran
  rw [Step.run'_bind_of_ok (currentStore_run' w)] at ran
  extract_lets fresh copying at ran
  split at ran
  · simp at ran
  simp only [copying] at ran
  split at ran
  · -- The copy is at least as new: nothing is written.
    rename_i isFresh
    rw [Step.run'_pure, Prod.mk.injEq] at ran
    refine .inl ⟨(Except.ok.inj ran.1).symm, by rw [← ran.2], ?_⟩
    simp only [fresh] at isFresh
    split at isFresh
    · cases isFresh
    · rename_i t u dated timed
      exact ⟨t, u, dated, timed, of_decide_eq_true isFresh⟩
    · cases isFresh
  · -- Otherwise the way is made and the file copied with its time.
    rename_i stale
    obtain ⟨u₁, w₁, made, ran⟩ := Step.run'_bind_eq_ok ran
    obtain ⟨u₂, w₂, copied, ran⟩ := Step.run'_bind_eq_ok ran
    obtain ⟨s₁, madeDirs, stored₁⟩ := changeOrFail_eq_ok made
    obtain ⟨s₂, copiedFile, stored₂⟩ := changeOrFail_eq_ok copied
    rw [Step.run'_pure, Prod.mk.injEq] at ran
    refine .inr ⟨(Except.ok.inj ran.1).symm, fun t u dated timed => ?_, s₁, madeDirs, ?_⟩
    · simp only [fresh, dated, timed, decide_eq_true_eq] at stale
      omega
    · rw [← ran.2, stored₂, ← stored₁]
      exact copiedFile

theorem place_run' {a : Assembler} {webapp : String} {r r' : Report} {p : Placement}
    (ran : (a.place webapp r p).run' w = (.ok r', w')) :
    ∃ source, p.facade.file = some source ∧
      (p.destination = .overlay → ∃ b w₁ written, (unpackCached source (a.overlayCache p)).run' w = (.ok b, w₁) ∧
        (applyOverlay (a.overlayCache p) webapp).run' w₁ = (.ok written, w')) ∧
      (p.destination ≠ .overlay → ∃ b, (copyIfModified source (p.target webapp)).run' w = (.ok b, w')) := by
  unfold Assembler.place at ran
  split at ran
  · rw [Step.run'_throw] at ran
    cases (Prod.mk.inj ran).1
  · rename_i source named
    refine ⟨source, named, fun overlay => ?_, fun library => ?_⟩
    · simp only [overlay, beq_self_eq_true, if_true] at ran
      obtain ⟨b, w₁, unpacked, ran⟩ := Step.run'_bind_eq_ok ran
      obtain ⟨written, w₂, laid, ran⟩ := Step.run'_bind_eq_ok ran
      rw [Step.run'_pure, Prod.mk.injEq] at ran
      exact ⟨b, w₁, written, unpacked, by rw [← ran.2]; exact laid⟩
    · have notOverlay : (p.destination == .overlay) = false := by simpa using library
      simp only [notOverlay, Bool.false_eq_true, if_false] at ran
      obtain ⟨b, w₁, copied, ran⟩ := Step.run'_bind_eq_ok ran
      refine ⟨b, ?_⟩
      split at ran <;>
      · rw [Step.run'_pure, Prod.mk.injEq] at ran
        rw [← ran.2]
        exact copied

section Laying

variable {s s' : Store} {source destination webapp : String}

theorem copyPreserving_tree (tree : s.Tree) (copied : copyPreserving s source destination = .ok s') :
    s'.Tree := by
  unfold copyPreserving at copied
  generalize (if s.isDir destination = true then Path.join destination (Path.name source) else destination) = target
    at copied
  dsimp only at copied
  split at copied
  · nomatch copied
  · exact tree.copyFile copied

theorem copyOverlayFiles_tree :
    ∀ (rest : List (String × String)) {w w' : Workspace} {written : List String}, w.store.Tree →
      (copyOverlayFiles webapp rest).run' w = (.ok written, w') → w'.store.Tree
  | [], w, w', written, tree, ran => by
    rw [copyOverlayFiles, Step.run'_pure, Prod.mk.injEq] at ran
    rw [← ran.2]
    exact tree
  | (path, rel) :: rest, w, w', written, tree, ran => by
    rw [copyOverlayFiles] at ran
    obtain ⟨first, w₁, ranFirst, ranRest⟩ := Step.run'_bind_eq_ok ran
    obtain ⟨later, w₂, ranLater, finished⟩ := Step.run'_bind_eq_ok ranRest
    rw [Step.run'_pure, Prod.mk.injEq] at finished
    have tree₁ : w₁.store.Tree := by
      rcases copyOverlayFile_run' ranFirst with ⟨-, kept⟩ | ⟨-, -, s₁, made, copied⟩
      · rw [kept]
        exact tree
      · exact copyPreserving_tree (tree.makeDirs made) copied
    rw [← finished.2]
    exact copyOverlayFiles_tree rest tree₁ ranLater

theorem applyOverlay_tree {written : List String} (tree : w.store.Tree)
    (ran : (applyOverlay source webapp).run' w = (.ok written, w')) : w'.store.Tree := by
  rw [applyOverlay, Step.run'_bind_of_ok (currentStore_run' w)] at ran
  exact copyOverlayFiles_tree _ tree ran

theorem copyOverlayFile_of_skipped {path rel : String}
    (skipped : rel = Artifact.manifestEntry ∨ w.store.present (Path.join webapp rel) = true) :
    (copyOverlayFile webapp path rel).run' w = (.ok [], w) := by
  unfold copyOverlayFile
  by_cases manifest : rel = Artifact.manifestEntry
  · simp [manifest]
  · simp [manifest, skipped.resolve_left manifest]

theorem copyOverlayFiles_of_skipped :
    ∀ (rest : List (String × String)),
      (∀ x ∈ rest, x.2 = Artifact.manifestEntry ∨ w.store.present (Path.join webapp x.2) = true) →
      (copyOverlayFiles webapp rest).run' w = (.ok [], w)
  | [], _ => by rw [copyOverlayFiles, Step.run'_pure]
  | (path, rel) :: rest, skipped => by
    rw [copyOverlayFiles, Step.run'_bind_of_ok (copyOverlayFile_of_skipped (skipped _ List.mem_cons_self)),
      Step.run'_bind_of_ok (copyOverlayFiles_of_skipped rest fun x member => skipped x (List.mem_cons_of_mem _ member)),
      Step.run'_pure]
    rfl

end Laying

section Again

variable (s : Store)

def AsNew (source target : String) : Prop :=
  ∃ t u, s.mtime? target = some t ∧ s.mtime? source = some u ∧ u ≤ t

def Unpacked (archive cache : String) : Prop :=
  ∃ d t, s.get? cache = some (.dir d) ∧ s.mtime? archive = some t ∧ t ≤ d

/-- Every file of the cache other than its manifest has its place in the application taken. -/
def Covered (cache webapp : String) : Prop :=
  ∀ rel b t, OverlayFile s cache rel b t →
    Path.parts rel = Path.parts Artifact.manifestEntry ∨ s.present (Path.join webapp rel) = true

/-- An artifact placed already: a library's copy is at least as new as its file; an overlay's
cache is a directory at least as new as its archive, and its files are laid over the application. -/
def Placed (a : Assembler) (webapp : String) (p : Placement) : Prop :=
  ∃ source, p.facade.file = some source ∧
    if p.destination = .overlay then Unpacked s source (a.overlayCache p) ∧ Covered s (a.overlayCache p) webapp
    else AsNew s source (p.target webapp)

end Again

theorem copyIfModified_of_asNew {source target : String} (fresh : AsNew w.store source target) :
    (copyIfModified source target).run' w = (.ok false, w) := by
  obtain ⟨t, u, dated, timed, newer⟩ := fresh
  unfold copyIfModified
  simp [dated, timed, newer]

theorem unpackCached_of_unpacked {archive cache : String} (fresh : Unpacked w.store archive cache) :
    (unpackCached archive cache).run' w = (.ok false, w) := by
  obtain ⟨d, t, found, dated, newer⟩ := fresh
  have dir : w.store.isDir cache = true := by simp [Store.isDir, found]
  have cached : w.store.mtime? cache = some d := by simp [Store.mtime?, found, Entry.mtime]
  unfold unpackCached
  simp [dir, cached, dated, newer]

theorem applyOverlay_of_covered {cache webapp : String} (tree : w.store.Tree) (covered : Covered w.store cache webapp) :
    (applyOverlay cache webapp).run' w = (.ok [], w) := by
  rw [applyOverlay, Step.run'_bind_of_ok (currentStore_run' w)]
  refine copyOverlayFiles_of_skipped _ fun x member => ?_
  have listed := listed_of_mem_overlayEntries tree member
  obtain ⟨b, t, file⟩ := listed.file
  have overlayFile : OverlayFile w.store cache x.2 b t :=
    ⟨listed.relative, listed.named, listed.plain, by rw [← listed.path, listed.get?_eq, file]⟩
  rcases covered x.2 b t overlayFile with manifest | present
  · exact .inl (by rw [← listed.spelled, manifest, manifestEntry_spelled])
  · exact .inr present

theorem place_of_placed {a : Assembler} {webapp : String} {p : Placement} (r : Report) (tree : w.store.Tree)
    (placed : Placed w.store a webapp p) :
    (a.place webapp r p).run' w =
      (.ok (if p.destination = .overlay then r else { r with upToDate := r.upToDate ++ [p.target webapp] }), w) := by
  obtain ⟨source, named, kind⟩ := placed
  unfold Assembler.place
  rw [named]
  by_cases overlay : p.destination = .overlay
  · rw [if_pos overlay] at kind
    simp only [overlay, beq_self_eq_true, if_pos, Step.run'_bind_of_ok (unpackCached_of_unpacked kind.1),
      Step.run'_bind_of_ok (applyOverlay_of_covered tree kind.2), Step.run'_pure]
    simp
  · rw [if_neg overlay] at kind
    have notOverlay : (p.destination == .overlay) = false := by simpa using overlay
    simp only [notOverlay, Bool.false_eq_true, if_false, overlay, Step.run'_bind_of_ok (copyIfModified_of_asNew kind),
      Step.run'_pure]

theorem foldlM_place_of_placed {a : Assembler} {webapp : String} (tree : w.store.Tree) {ps : List Placement}
    (placed : ∀ p ∈ ps, Placed w.store a webapp p) (r : Report) :
    (ps.foldlM (a.place webapp) r).run' w =
      (.ok { r with upToDate := r.upToDate ++ (ps.filter fun p => p.destination != .overlay).map (·.target webapp) }, w) := by
  induction ps generalizing r with
  | nil => simp
  | cons p ps ih =>
    rw [List.foldlM_cons, Step.run'_bind_of_ok (place_of_placed r tree (placed p List.mem_cons_self)),
      ih fun q member => placed q (List.mem_cons_of_mem _ member)]
    by_cases overlay : p.destination = .overlay
    · simp [overlay]
    · simp [overlay]

end PluginPack.Assembly
