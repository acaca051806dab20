import PluginPack.Proofs.Files.Write

/-! What an operation on the file tree can change.

Entries are set only at resolved paths, so every key the operations write is spelled without
`..`. Making directories and touching the directory that holds a new entry change directories
only: a key keeps what it held, or becomes a directory stamped with the clock where there was a
directory or nothing (`Stamped`). A successful write or copy changes, besides that, exactly the
key of its target; making directories adds entries only on the way to the place made. -/

namespace PluginPack.Files

namespace Path

theorem not_mem_walk : ∀ {acc ps : List String}, ".." ∉ acc → ".." ∉ walk acc ps
  | _, [], clean => by simpa [walk] using clean
  | acc, c :: ps, clean => by
    by_cases up : c = ".."
    · subst up
      rw [walk]
      exact not_mem_walk fun member => clean (List.mem_of_mem_tail member)
    · rw [walk.eq_3 _ _ _ up]
      exact not_mem_walk fun member => (List.mem_cons.mp member).elim (fun same => up same.symm) clean

theorem components_walk : ∀ {acc ps : List String}, (∀ c ∈ acc, Component c) → (∀ c ∈ ps, Component c) →
    ∀ c ∈ walk acc ps, Component c
  | _, [], inAcc, _ => by simpa [walk] using inAcc
  | acc, c :: ps, inAcc, inPs => by
    have rest : ∀ c' ∈ ps, Component c' := fun c' member => inPs c' (List.mem_cons_of_mem _ member)
    by_cases up : c = ".."
    · subst up
      rw [walk]
      exact components_walk (fun c' member => inAcc c' (List.mem_of_mem_tail member)) rest
    · rw [walk.eq_3 _ _ _ up]
      exact components_walk (fun c' member => (List.mem_cons.mp member).elim
        (fun same => same ▸ inPs c List.mem_cons_self) (inAcc c')) rest

theorem parts_physical_eq (p : String) : parts (physical p) = walk [] (parts p) := by
  rw [physical, parts_slash_append, parts_intercalate _ (components_walk (by simp)
    fun _ member => component_of_mem_parts member)]

theorem not_mem_parts_physical (p : String) : ".." ∉ parts (physical p) := by
  rw [parts_physical_eq]
  exact not_mem_walk (by simp)

theorem mem_chainTo {ps : List String} {d : String} : d ∈ chainTo ps ↔ ∃ j ≤ ps.length, build "/" (ps.take j) = d := by
  rw [chainTo, List.mem_append, mem_chain, List.mem_singleton]
  constructor
  · rintro (⟨j, below, spelled⟩ | rfl)
    · exact ⟨j, Nat.le_of_lt below, spelled⟩
    · exact ⟨ps.length, le_rfl, by rw [List.take_length]⟩
  · rintro ⟨j, atMost, rfl⟩
    rcases Nat.lt_or_eq_of_le atMost with below | whole
    · exact .inl ⟨j, below, rfl⟩
    · exact .inr (by rw [whole, List.take_length])

theorem take_mem_chainTo (ps : List String) {j : Nat} (atMost : j ≤ ps.length) : build "/" (ps.take j) ∈ chainTo ps :=
  mem_chainTo.mpr ⟨j, atMost, rfl⟩

end Path

namespace Store

variable {s s' s₁ : Store} {p : String}

theorem not_mem_parts_resolve (s : Store) (p : String) : ".." ∉ Path.parts (s.resolve p) :=
  Path.not_mem_parts_physical _

def Plain (s : Store) : Prop := ∀ e ∈ s.entries, ".." ∉ Path.parts e.1

def Stamped (s s' : Store) (k : String) : Prop :=
  s'.entryAt? k = s.entryAt? k ∨ (s'.entryAt? k = some (.dir s.clock) ∧ ∀ b t, s.entryAt? k ≠ some (.file b t))

/-- `s'` differs from `s` only at the keys of `region`, apart from directories made or
stamped; the working directory and the clock stay. -/
structure Within (s s' : Store) (region : String → Prop) : Prop where
  cwd : s'.cwd = s.cwd
  clock : s'.clock = s.clock
  stamped : ∀ k, ¬region k → Stamped s s' k

namespace Stamped

theorem refl (s : Store) (k : String) : Stamped s s k := .inl rfl

theorem trans {s₂ : Store} {k : String} (first : Stamped s s₁ k) (second : Stamped s₁ s₂ k) (clock : s₁.clock = s.clock) :
    Stamped s s₂ k := by
  unfold Stamped at *
  rcases second with same | ⟨dir, notFile⟩
  · rw [same]
    exact first
  · rw [clock] at dir
    rcases first with same₁ | ⟨dir₁, notFile₁⟩
    · exact .inr ⟨dir, fun b t found => notFile b t (same₁.trans found)⟩
    · exact .inr ⟨dir, notFile₁⟩

theorem file {k : String} {b : ByteArray} {t : Nat} (stamped : Stamped s s' k) (file : s.entryAt? k = some (.file b t)) :
    s'.entryAt? k = some (.file b t) := by
  rcases stamped with same | ⟨_, notFile⟩
  · rw [same, file]
  · exact absurd file (notFile b t)

theorem dir {k : String} {t : Nat} (stamped : Stamped s s' k) (dir : s.entryAt? k = some (.dir t)) :
    ∃ t', s'.entryAt? k = some (.dir t') := by
  rcases stamped with same | ⟨stampedDir, _⟩
  · exact ⟨t, by rw [same, dir]⟩
  · exact ⟨_, stampedDir⟩

theorem file_of_file {k : String} {b : ByteArray} {t : Nat} (stamped : Stamped s s' k)
    (file : s'.entryAt? k = some (.file b t)) : s.entryAt? k = some (.file b t) := by
  rcases stamped with same | ⟨dir, _⟩
  · rw [← same, file]
  · rw [dir] at file
    cases file

end Stamped

namespace Within

theorem refl (s : Store) (region : String → Prop) : Within s s region := ⟨rfl, rfl, fun k _ => .refl s k⟩

theorem trans {s₂ : Store} {r₁ r₂ : String → Prop} (first : Within s s₁ r₁) (second : Within s₁ s₂ r₂) :
    Within s s₂ fun k => r₁ k ∨ r₂ k :=
  ⟨second.cwd.trans first.cwd, second.clock.trans first.clock, fun k outside =>
    (first.stamped k fun inside => outside (.inl inside)).trans
      (second.stamped k fun inside => outside (.inr inside)) first.clock⟩

theorem mono {r₁ r₂ : String → Prop} (within : Within s s' r₁) (wider : ∀ k, r₁ k → r₂ k) : Within s s' r₂ :=
  ⟨within.cwd, within.clock, fun k outside => within.stamped k fun inside => outside (wider k inside)⟩

end Within

theorem plain_setEntry (plain : s.Plain) (e : Entry) : (s.setEntry p e).Plain := by
  unfold setEntry
  dsimp only
  split
  · intro x member
    obtain ⟨⟨q, old⟩, inS, rfl⟩ := List.mem_map.mp member
    have key : (if (q == s.resolve p) = true then (q, e) else (q, old)).1 = q := by
      split <;> rfl
    rw [key]
    exact plain _ inS
  · intro x member
    rcases List.mem_append.mp member with old | new
    · exact plain x old
    · rw [List.mem_singleton.mp new]
      exact not_mem_parts_resolve s p

theorem plain_touchParent (plain : s.Plain) : (s.touchParent p).Plain := by
  unfold touchParent
  dsimp only
  split
  · exact plain_setEntry plain _
  · exact plain

theorem touchParent_stamped (k : String) : Stamped s (s.touchParent p) k := by
  unfold touchParent
  dsimp only
  split
  · rename_i touched
    obtain ⟨t, dir⟩ := isDir_iff.mp (Bool.and_eq_true _ _ ▸ touched).1
    rw [Stamped, entryAt?_setEntry]
    split
    · rename_i at_
      rw [at_.2, entryAt?_of_get? dir]
      exact .inr ⟨rfl, fun b t' same => by cases same⟩
    · exact .inl rfl
  · exact .refl s k

def Confined (s s' : Store) (keys : String → Prop) : Prop :=
  ∀ k, ¬keys k → s'.entryAt? k = s.entryAt? k

namespace Confined

theorem refl (s : Store) (keys : String → Prop) : Confined s s keys := fun _ _ => rfl

theorem trans {s₂ : Store} {k₁ k₂ : String → Prop} (first : Confined s s₁ k₁) (second : Confined s₁ s₂ k₂) :
    Confined s s₂ fun k => k₁ k ∨ k₂ k := fun k outside =>
  (second k fun inside => outside (.inr inside)).trans (first k fun inside => outside (.inl inside))

theorem mono {k₁ k₂ : String → Prop} (confined : Confined s s' k₁) (wider : ∀ k, k₁ k → k₂ k) : Confined s s' k₂ :=
  fun k outside => confined k fun inside => outside (wider k inside)

end Confined

theorem setEntry_confined (e : Entry) : Confined s (s.setEntry p e) (· = s.resolve p) := by
  intro k other
  rw [entryAt?_setEntry, if_neg fun both => other both.2]

theorem touchParent_confined : Confined s (s.touchParent p) (· = s.resolve (Path.parent (s.resolve p))) :=
  fun _ other => entryAt?_touchParent_of_ne other

theorem setEntry_touchParent_confined (e : Entry) :
    Confined s ((s.setEntry p e).touchParent p) fun k => k = s.resolve p ∨ k = s.resolve (Path.parent (s.resolve p)) := by
  have resolved : (s.setEntry p e).resolve = s.resolve := funext (resolve_eq_of_cwd (cwd_setEntry _))
  have touched := touchParent_confined (s := s.setEntry p e) (p := p)
  rw [resolved] at touched
  exact (setEntry_confined e).trans touched

theorem newDir_stamped (missing : s.entryAt? (s.resolve p) = none) (k : String) :
    Stamped s ((s.setEntry p (.dir s.clock)).touchParent p) k := by
  have set : Stamped s (s.setEntry p (.dir s.clock)) k := by
    unfold Stamped
    rw [entryAt?_setEntry]
    split
    · rename_i at_
      rw [at_.2, missing]
      exact .inr ⟨rfl, fun b t absent => by cases absent⟩
    · exact .inl rfl
  exact set.trans (touchParent_stamped k) (clock_setEntry _)

theorem blockedStep?_of_checkWay (passed : s.checkWay p = .ok ()) : s.blockedStep? p = none := by
  cases blocked : s.blockedStep? p with
  | none => rfl
  | some here =>
    unfold checkWay at passed
    rw [blocked] at passed
    dsimp only at passed
    split at passed <;> cases passed

theorem get?_of_checkWay (passed : s.checkWay p = .ok ()) : s.get? p = s.entryAt? (s.resolve p) := by
  rw [get?, blockedStep?_of_checkWay passed]
  rfl

theorem createDir_eq_ok (made : s.createDir p = .ok s') :
    s.checkWay p = .ok () ∧ s.entryAt? (s.resolve p) = none ∧ s' = (s.setEntry p (.dir s.clock)).touchParent p := by
  cases passed : s.checkWay p with
  | error e => simp [createDir, passed, bind, Except.bind] at made
  | ok u =>
    cases entry : s.get? p with
    | some e => simp [createDir, passed, entry, bind, Except.bind, throw, throwThe, MonadExceptOf.throw] at made
    | none =>
      simp only [createDir, passed, entry, bind, Except.bind, pure, Except.pure, Except.ok.injEq] at made
      rw [← get?_of_checkWay passed]
      exact ⟨rfl, entry, made.symm⟩

theorem createDir_stamped (made : s.createDir p = .ok s') (k : String) : Stamped s s' k := by
  obtain ⟨-, missing, result⟩ := createDir_eq_ok made
  rw [result]
  exact newDir_stamped missing k

theorem makeDir_stamped {d : String} (plain : ".." ∉ Path.parts (Path.join s.cwd d)) (k : String) :
    Stamped s (s.makeDir d) k := by
  unfold makeDir
  split
  · exact .refl s k
  · rename_i absent
    have missing : s.entryAt? (s.resolve d) = none := by
      rw [← get?_eq_entryAt? plain]
      simpa [present] using absent
    exact newDir_stamped missing k

theorem makeDir_confined (d : String) :
    Confined s (s.makeDir d) fun k => k = s.resolve d ∨ k = s.resolve (Path.parent (s.resolve d)) := by
  unfold makeDir
  split
  · exact .refl s _
  · exact setEntry_touchParent_confined _

theorem chainTo_closed {ps : List String} (components : ∀ c ∈ ps, Path.Component c) (plain : ".." ∉ ps)
    {d : String} (member : d ∈ Path.chainTo ps) :
    s.resolve d = d ∧ s.resolve (Path.parent d) ∈ Path.chainTo ps := by
  obtain ⟨j, atMost, rfl⟩ := Path.mem_chainTo.mp member
  have componentsTake : ∀ c ∈ ps.take j, Path.Component c := fun c inTake => components c (List.mem_of_mem_take inTake)
  have plainTake : ".." ∉ ps.take j := fun inTake => plain (List.mem_of_mem_take inTake)
  have above : (ps.take j).dropLast = ps.take (j - 1) := by
    rw [List.dropLast_eq_take, List.take_take, List.length_take]
    congr 1
    omega
  refine ⟨resolve_build_slash componentsTake plainTake, ?_⟩
  rw [Path.parent_build_slash componentsTake, above,
    resolve_build_slash (fun c inTake => components c (List.mem_of_mem_take inTake))
      fun inTake => plain (List.mem_of_mem_take inTake)]
  exact Path.take_mem_chainTo ps (by omega)

theorem foldl_makeDir_stamped :
    ∀ (way : List String) (s : Store), (∀ d ∈ way, ".." ∉ Path.parts (Path.join s.cwd d)) →
      ∀ k, Stamped s (way.foldl makeDir s) k
  | [], s, _, k => .refl s k
  | d :: way, s, plain, k => by
    rw [List.foldl_cons]
    have first := makeDir_stamped (plain d List.mem_cons_self) k
    have rest := foldl_makeDir_stamped way (s.makeDir d)
      (fun d' member => by rw [cwd_makeDir]; exact plain d' (List.mem_cons_of_mem _ member)) k
    exact first.trans rest (clock_makeDir d)

theorem foldl_makeDir_confined {ps : List String} (components : ∀ c ∈ ps, Path.Component c) (plain : ".." ∉ ps) :
    ∀ (way : List String) (s : Store), (∀ d ∈ way, d ∈ Path.chainTo ps) →
      Confined s (way.foldl makeDir s) (· ∈ Path.chainTo ps)
  | [], s, _ => .refl s _
  | d :: way, s, inside => by
    rw [List.foldl_cons]
    obtain ⟨same, above⟩ := chainTo_closed (s := s) components plain (inside d List.mem_cons_self)
    have first : Confined s (s.makeDir d) (· ∈ Path.chainTo ps) := (makeDir_confined d).mono fun k at_ => by
      rcases at_ with rfl | rfl
      · rw [same]
        exact inside d List.mem_cons_self
      · rw [same]
        exact above
    exact (first.trans (foldl_makeDir_confined components plain way (s.makeDir d)
      fun d' member => inside d' (List.mem_cons_of_mem _ member))).mono fun _ either => either.elim id id

theorem cwd_foldl_makeDir : ∀ (way : List String) (s : Store), (way.foldl makeDir s).cwd = s.cwd
  | [], _ => rfl
  | d :: way, s => by rw [List.foldl_cons, cwd_foldl_makeDir way, cwd_makeDir]

theorem clock_foldl_makeDir : ∀ (way : List String) (s : Store), (way.foldl makeDir s).clock = s.clock
  | [], _ => rfl
  | d :: way, s => by rw [List.foldl_cons, clock_foldl_makeDir way, clock_makeDir]

/-- What making directories does: the working directory and the clock stay, every place is
stamped, and only the places of `way` change. -/
structure DirsMade (s s' : Store) (way : String → Prop) : Prop where
  cwd : s'.cwd = s.cwd
  clock : s'.clock = s.clock
  stamped : ∀ k, Stamped s s' k
  confined : Confined s s' way

namespace DirsMade

theorem refl (s : Store) (way : String → Prop) : DirsMade s s way :=
  ⟨rfl, rfl, Stamped.refl s, .refl s way⟩

theorem trans {s₂ : Store} {w₁ w₂ : String → Prop} (first : DirsMade s s₁ w₁) (second : DirsMade s₁ s₂ w₂) :
    DirsMade s s₂ fun k => w₁ k ∨ w₂ k :=
  ⟨second.cwd.trans first.cwd, second.clock.trans first.clock,
    fun k => (first.stamped k).trans (second.stamped k) first.clock, first.confined.trans second.confined⟩

theorem mono {w₁ w₂ : String → Prop} (made : DirsMade s s' w₁) (wider : ∀ k, w₁ k → w₂ k) : DirsMade s s' w₂ :=
  ⟨made.cwd, made.clock, made.stamped, made.confined.mono wider⟩

end DirsMade

theorem createDir_dirsMade (plain : ".." ∉ Path.parts (Path.join s.cwd p)) (made : s.createDir p = .ok s') :
    DirsMade s s' (· ∈ Path.chainTo (Path.parts (Path.join s.cwd p))) := by
  have components : ∀ c ∈ Path.parts (Path.join s.cwd p), Path.Component c :=
    fun _ member => Path.component_of_mem_parts member
  have last : Path.build "/" (Path.parts (Path.join s.cwd p)) ∈ Path.chainTo (Path.parts (Path.join s.cwd p)) :=
    List.mem_append_right _ (List.mem_singleton_self _)
  obtain ⟨-, missing, result⟩ := createDir_eq_ok made
  rw [result]
  refine ⟨by simp, by simp, newDir_stamped missing, (setEntry_touchParent_confined _).mono ?_⟩
  intro k at_
  rw [resolve_eq_build plain] at at_
  rcases at_ with rfl | rfl
  · exact last
  · exact (chainTo_closed components plain last).2

theorem makeDirsAlong_dirsMade {root : String} (rooted : root = "" ∨ root = "/" ∨ root = "//") (ps : List String)
    (components : ∀ c ∈ ps, Path.Component c)
    (plain : ".." ∉ Path.parts (Path.join s.cwd (Path.build root ps)))
    (made : s.makeDirsAlong root ps.reverse = .ok s') :
    DirsMade s s' (· ∈ Path.chainTo (Path.parts (Path.join s.cwd (Path.build root ps)))) := by
  induction ps using List.reverseRecOn generalizing s' with
  | nil =>
    have componentsWay : ∀ c ∈ Path.parts (Path.join s.cwd (Path.build root [])), Path.Component c :=
      fun _ member => Path.component_of_mem_parts member
    have way : (Path.ancestors (s.resolve (Path.build root []))).reverse ++ [s.resolve (Path.build root [])] =
        Path.chainTo (Path.parts (Path.join s.cwd (Path.build root []))) := by
      rw [resolve_eq_build plain, Path.ancestors_build_slash componentsWay, List.reverse_reverse, Path.chainTo]
    rw [List.reverse_nil, makeDirsAlong, makeWay, way] at made
    split at made
    · cases made
    · rw [← Except.ok.inj made]
      refine ⟨cwd_foldl_makeDir _ s, clock_foldl_makeDir _ s, foldl_makeDir_stamped _ s fun d member => ?_,
        foldl_makeDir_confined componentsWay plain _ s fun _ => id⟩
      obtain ⟨j, atMost, rfl⟩ := Path.mem_chainTo.mp member
      rw [parts_join_build_slash s.cwd fun c inTake => componentsWay c (List.mem_of_mem_take inTake)]
      exact fun inTake => plain (List.mem_of_mem_take inTake)
  | append_singleton ps c ih =>
    have componentsPs : ∀ c ∈ ps, Path.Component c := fun c' member => components c' (List.mem_append_left _ member)
    have spelled : Path.parts (Path.join s.cwd (Path.build root (ps ++ [c]))) =
        Path.parts (Path.join s.cwd (Path.build root ps)) ++ [c] := by
      rw [Path.parts_join_build rooted components, Path.parts_join_build rooted componentsPs, List.append_assoc]
    have plainPs : ".." ∉ Path.parts (Path.join s.cwd (Path.build root ps)) := by
      rw [spelled] at plain
      exact fun member => plain (List.mem_append_left _ member)
    have wider : ∀ k, k ∈ Path.chainTo (Path.parts (Path.join s.cwd (Path.build root ps))) →
        k ∈ Path.chainTo (Path.parts (Path.join s.cwd (Path.build root (ps ++ [c])))) := fun k member => by
      rw [spelled, Path.chainTo_append_singleton]
      exact List.mem_append_left _ member
    rw [List.reverse_append, List.reverse_singleton, List.singleton_append, makeDirsAlong] at made
    simp only [List.reverse_reverse] at made
    split at made
    · rename_i s₁ created
      cases made
      exact createDir_dirsMade plain created
    · rename_i e failed
      split at made
      · split at made
        · cases made
        · rename_i s₁ above
          have first := ih componentsPs plainPs above
          have plain₁ : ".." ∉ Path.parts (Path.join s₁.cwd (Path.build root (ps ++ [c]))) := by
            rw [first.cwd]
            exact plain
          split at made
          · rename_i s₂ created
            cases made
            have second := createDir_dirsMade plain₁ created
            rw [first.cwd] at second
            exact (first.trans second).mono fun k either => either.elim (wider k) id
          · split at made
            · cases made
              exact first.mono wider
            · cases made
      · split at made
        · cases made
          exact .refl s _
        · cases made

theorem makeDirs_dirsMade (plain : ".." ∉ Path.parts (Path.join s.cwd p)) (made : s.makeDirs p = .ok s') :
    DirsMade s s' (· ∈ Path.chainTo (Path.parts (Path.join s.cwd p))) := by
  rw [← Path.parts_join_normalize s.cwd p] at plain ⊢
  exact makeDirsAlong_dirsMade (Path.rootOf_cases p) (Path.parts p) (fun _ member => Path.component_of_mem_parts member)
    plain made

theorem resolve_eq_build_parts : s.resolve p = Path.build "/" (Path.parts (s.resolve p)) := by
  show Path.physical (Path.join s.cwd p) = "/" ++ "/".intercalate (Path.parts (Path.physical (Path.join s.cwd p)))
  rw [Path.parts_physical_eq]
  rfl

theorem resolve_parent_ne (notRoot : s.resolve p ≠ "/") : s.resolve (Path.parent (s.resolve p)) ≠ s.resolve p := by
  intro same
  have plain := not_mem_parts_resolve s p
  have absolute : Path.isAbsolute (Path.parent (s.resolve p)) = true := by
    rw [Path.isAbsolute_parent]
    exact Path.isAbsolute_physical _
  have above : Path.parts (s.resolve (Path.parent (s.resolve p))) = (Path.parts (s.resolve p)).dropLast := by
    show Path.parts (Path.physical (Path.join s.cwd (Path.parent (s.resolve p)))) = _
    rw [Path.parts_physical_eq, Path.parts_join, if_pos absolute, Path.parts_parent,
      Path.walk_of_not_mem fun member => plain (List.dropLast_subset _ member), List.reverse_nil, List.nil_append]
  rw [same] at above
  have empty : Path.parts (s.resolve p) = [] := by
    have lengths := congrArg List.length above
    rw [List.length_dropLast] at lengths
    exact List.eq_nil_of_length_eq_zero (by omega)
  apply notRoot
  rw [resolve_eq_build_parts, empty]
  simp [Path.build_slash]

/-- What writing one place does: the working directory and the clock stay, the place holds
`e`, every other place is stamped, and besides the place only places `around` it change. -/
structure Wrote (s s' : Store) (key : String) (e : Entry) (around : String → Prop) : Prop where
  cwd : s'.cwd = s.cwd
  clock : s'.clock = s.clock
  written : s'.entryAt? key = some e
  stamped : ∀ k, k ≠ key → Stamped s s' k
  confined : Confined s s' fun k => k = key ∨ around k

namespace Wrote

variable {s₂ : Store} {key : String} {e e' : Entry} {a₁ a₂ : String → Prop}

theorem mono (wrote : Wrote s s' key e a₁) (wider : ∀ k, a₁ k → a₂ k) : Wrote s s' key e a₂ :=
  ⟨wrote.cwd, wrote.clock, wrote.written, wrote.stamped,
    wrote.confined.mono fun k either => either.elim .inl fun inside => .inr (wider k inside)⟩

theorem rewrite (first : Wrote s s₁ key e a₁) (second : Wrote s₁ s₂ key e' a₂) :
    Wrote s s₂ key e' fun k => a₁ k ∨ a₂ k :=
  ⟨second.cwd.trans first.cwd, second.clock.trans first.clock, second.written,
    fun k other => (first.stamped k other).trans (second.stamped k other) first.clock,
    (first.confined.trans second.confined).mono fun _ either =>
      either.elim (fun one => one.elim .inl (.inr ∘ .inl)) fun two => two.elim .inl (.inr ∘ .inr)⟩

end Wrote

theorem DirsMade.then_wrote {way : String → Prop} {s₂ : Store} {key : String} {e : Entry} {around : String → Prop}
    (made : DirsMade s s₁ way) (wrote : Wrote s₁ s₂ key e around) : Wrote s s₂ key e fun k => way k ∨ around k :=
  ⟨wrote.cwd.trans made.cwd, wrote.clock.trans made.clock, wrote.written,
    fun k other => (made.stamped k).trans (wrote.stamped k other) made.clock,
    (made.confined.trans wrote.confined).mono fun _ either =>
      either.elim (.inr ∘ .inl) fun two => two.elim .inl (.inr ∘ .inr)⟩

theorem resolve_ne_root_of_file {b : ByteArray} {t : Nat} (file : s.entryAt? (s.resolve p) = some (.file b t)) :
    s.resolve p ≠ "/" := fun root => by
  rw [root, entryAt?_root] at file
  cases file

theorem resolve_ne_root_of_none (missing : s.entryAt? (s.resolve p) = none) : s.resolve p ≠ "/" := fun root => by
  rw [root, entryAt?_root] at missing
  cases missing

theorem setEntry_wrote (e : Entry) (notRoot : s.resolve p ≠ "/") :
    Wrote s (s.setEntry p e) (s.resolve p) e fun _ => False where
  cwd := cwd_setEntry e
  clock := clock_setEntry e
  written := by rw [entryAt?_setEntry, if_pos ⟨notRoot, rfl⟩]
  stamped k other := .inl (setEntry_confined e k other)
  confined := (setEntry_confined e).mono fun _ => .inl

theorem newEntry_wrote (e : Entry) (missing : s.entryAt? (s.resolve p) = none) :
    Wrote s ((s.setEntry p e).touchParent p) (s.resolve p) e (· = s.resolve (Path.parent (s.resolve p))) := by
  have set := setEntry_wrote e (resolve_ne_root_of_none missing)
  have resolved : (s.setEntry p e).resolve = s.resolve := funext (resolve_eq_of_cwd (cwd_setEntry _))
  have touched := touchParent_confined (s := s.setEntry p e) (p := p)
  rw [resolved] at touched
  refine ⟨by simp, by simp, ?_, fun k other => (set.stamped k other).trans (touchParent_stamped k) set.clock,
    (set.confined.trans touched).mono fun k either => either.elim (fun one => one.elim .inl False.elim) .inr⟩
  rw [touched _ fun same => resolve_parent_ne (resolve_ne_root_of_none missing) same.symm]
  exact set.written

theorem writeFile_wrote {b : ByteArray} (wrote : s.writeFile p b = .ok s') :
    Wrote s s' (s.resolve p) (.file b s.clock) (· = s.resolve (Path.parent (s.resolve p))) := by
  cases passed : s.checkWay p with
  | error e => simp [writeFile, passed, bind, Except.bind] at wrote
  | ok u =>
    have found := get?_of_checkWay passed
    cases entry : s.entryAt? (s.resolve p) with
    | none =>
      simp only [writeFile, passed, found, entry, bind, Except.bind, pure, Except.pure, Except.ok.injEq] at wrote
      rw [← wrote]
      exact newEntry_wrote _ entry
    | some e =>
      cases e with
      | dir t =>
        simp [writeFile, passed, found, entry, bind, Except.bind, throw, throwThe, MonadExceptOf.throw] at wrote
      | file b₀ t₀ =>
        simp only [writeFile, passed, found, entry, bind, Except.bind, pure, Except.pure, Except.ok.injEq] at wrote
        rw [← wrote]
        exact (setEntry_wrote _ (resolve_ne_root_of_file entry)).mono fun _ => False.elim

theorem copyFile_wrote {src dst : String} (plain : ".." ∉ Path.parts (Path.join s.cwd dst))
    (copied : s.copyFile src dst true = .ok s') :
    ∃ b t, s.get? src = some (.file b t) ∧
      Wrote s s' (s.resolve dst) (.file b t) (· = s.resolve (Path.parent (s.resolve dst))) := by
  cases read : s.readFile src with
  | error e => simp [copyFile, read, bind, Except.bind] at copied
  | ok b =>
    obtain ⟨t, found⟩ := get?_of_readFile read
    cases wrote : s.writeFile dst b with
    | error e => simp [copyFile, read, wrote, bind, Except.bind] at copied
    | ok s₁ =>
      have first := writeFile_wrote wrote
      simp only [copyFile, read, wrote, mtime?, found, Option.map_some, Entry.mtime, bind, Except.bind, pure,
        Except.pure, if_true, Except.ok.injEq] at copied
      have plain₁ : ".." ∉ Path.parts (Path.join s₁.cwd dst) := by
        rw [first.cwd]
        exact plain
      have found₁ : s₁.get? dst = some (.file b s.clock) := by
        rw [get?_eq_entryAt? plain₁, resolve_eq_of_cwd first.cwd, first.written]
      have timed : s₁.setMtime dst t = s₁.setEntry dst (.file b t) := by
        rw [setMtime, found₁]
      have notRoot : s.resolve dst ≠ "/" := fun root => by
        have written := first.written
        rw [root, entryAt?_root] at written
        cases written
      have second := setEntry_wrote (s := s₁) (p := dst) (.file b t) (by
        rw [resolve_eq_of_cwd first.cwd]
        exact notRoot)
      rw [resolve_eq_of_cwd first.cwd] at second
      refine ⟨b, t, found, ?_⟩
      rw [← copied, timed]
      exact (first.rewrite second).mono fun k either => either.elim id False.elim

end Store

end PluginPack.Files
