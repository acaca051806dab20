import PluginPack.Proofs.Version.Prefix

/-! Trailing null items carry no meaning. A full stop or a hyphen closes the run that is open
when a version's text ends, as finishing the text would, and puts it in the innermost level; a
zero after it is then a run that finishing reads as the number zero. In normal form that zero is
dropped, after a full stop as the last item of the innermost level, after a hyphen with the
level it opened, which it leaves empty. An empty run, which closing reads as a zero and
finishing leaves out, is null too. So `v ++ ".0"` and `v ++ "-0"` read as the same items as
`v`, and fail as `v` fails. -/

namespace PluginPack.Version

open PluginPack.Text

/-! Closing the open run at a separator. -/

theorem Scan.step_dot {s : Scan} {x : Item} (closed : s.closeRun = .ok x) :
    s.step '.' = .ok { s with level := s.level ++ [x], run := [] } := by
  simp [Scan.step, closed]

theorem Scan.step_hyphen {s : Scan} {x : Item} (closed : s.closeRun = .ok x) :
    s.step '-' = .ok { s with levels := s.levels ++ [s.level ++ [x]], level := [], run := [] } := by
  simp [Scan.step, closed]

theorem Scan.step_separator_error {s : Scan} {c : Char} {e : VersionError} (separator : c = '.' ∨ c = '-')
    (failed : s.closeRun = .error e) : s.step c = .error e := by
  rcases separator with rfl | rfl <;> simp [Scan.step, failed]

theorem Scan.finish_of_closeRun {s : Scan} {x : Item} (closed : s.closeRun = .ok x) :
    s.finish.map nestLevels = .ok (nestLevels (s.levels ++ [s.level ++ [x]])) := by
  unfold Scan.closeRun at closed
  unfold Scan.finish
  split at closed
  · rename_i empty
    cases closed
    simp only [empty, if_true]
    rw [nestLevels_snoc_null s.levels s.level rfl]
    rfl
  · rename_i running
    simp only [running, Bool.false_eq_true, if_false, closed]
    rfl

theorem Scan.finish_of_closeRun_error {s : Scan} {e : VersionError} (failed : s.closeRun = .error e) :
    s.finish = .error e := by
  unfold Scan.closeRun at failed
  unfold Scan.finish
  split at failed
  · cases failed
  · rename_i running
    simp only [running, Bool.false_eq_true, if_false, failed]
    rfl

theorem Scan.foldlM_zero {s : Scan} (fresh : s.run = []) :
    ['0'].foldlM Scan.step s = .ok { s with run := ['0'], digits := true } := by
  rw [List.foldlM_cons, Scan.step_continue (by decide) (by decide) (by decide : isDigit '0' = true) (Or.inl fresh),
    fresh]
  rfl

theorem Scan.finish_zero (s : Scan) :
    Scan.finish { s with run := ['0'], digits := true } = .ok (s.levels ++ [s.level ++ [.number 0]]) := by
  have zero : runItem true ['0'] false = .ok (.number 0) := rfl
  simp [Scan.finish, zero]

theorem Scan.finish_after_separator_zero (s : Scan) {c : Char} (separator : c = '.' ∨ c = '-')
    (closes : ∀ x, s.closeRun = .ok x → ∃ s', s.step c = .ok s' ∧ s'.run = [] ∧
      nestLevels (s'.levels ++ [s'.level ++ [.number 0]]) = nestLevels (s.levels ++ [s.level ++ [x]])) :
    (([c, '0'].foldlM Scan.step s) >>= Scan.finish).map nestLevels = s.finish.map nestLevels := by
  cases closed : s.closeRun with
  | error e =>
    rw [List.foldlM_cons, Scan.step_separator_error separator closed, Scan.finish_of_closeRun_error closed]
    rfl
  | ok x =>
    obtain ⟨s', stepped, fresh, insignificant⟩ := closes x closed
    calc (([c, '0'].foldlM Scan.step s) >>= Scan.finish).map nestLevels
        = (Scan.finish { s' with run := ['0'], digits := true }).map nestLevels := by
          rw [List.foldlM_cons, stepped]
          show ((['0'].foldlM Scan.step s') >>= Scan.finish).map nestLevels = _
          rw [Scan.foldlM_zero fresh]
          rfl
      _ = .ok (nestLevels (s'.levels ++ [s'.level ++ [.number 0]])) := by
          rw [Scan.finish_zero]
          rfl
      _ = .ok (nestLevels (s.levels ++ [s.level ++ [x]])) := by rw [insignificant]
      _ = s.finish.map nestLevels := (Scan.finish_of_closeRun closed).symm

theorem Scan.finish_after_dot_zero (s : Scan) :
    ((['.', '0'].foldlM Scan.step s) >>= Scan.finish).map nestLevels = s.finish.map nestLevels :=
  Scan.finish_after_separator_zero s (Or.inl rfl) fun _ closed =>
    ⟨_, Scan.step_dot closed, rfl, nestLevels_snoc_null s.levels _ rfl⟩

theorem Scan.finish_after_hyphen_zero (s : Scan) :
    ((['-', '0'].foldlM Scan.step s) >>= Scan.finish).map nestLevels = s.finish.map nestLevels :=
  Scan.finish_after_separator_zero s (Or.inr rfl) fun x closed => by
    refine ⟨_, Scan.step_hyphen closed, rfl, ?_⟩
    simp only [List.nil_append, List.append_assoc, List.cons_append]
    exact nestLevels_snoc_emptied s.levels (s.level ++ [x]) (trimItems_snoc_null [] rfl)

/-! Reading a version with a trailing zero. -/

theorem VersionNumber.parse_map_items (text : String) :
    (VersionNumber.parse text).map VersionNumber.items =
      ((lower text).toList.foldlM Scan.step {} >>= Scan.finish).map nestLevels := by
  unfold VersionNumber.parse
  cases (lower text).toList.foldlM Scan.step {} with
  | error e => rfl
  | ok s =>
    show Except.map VersionNumber.items (s.finish >>= fun levels => pure { text, items := nestLevels levels }) =
      Except.map nestLevels s.finish
    cases s.finish <;> rfl

theorem VersionNumber.parse_append_zero_items {suffix : String} (zero : suffix = ".0" ∨ suffix = "-0")
    (v : String) :
    (VersionNumber.parse (v ++ suffix)).map VersionNumber.items = (VersionNumber.parse v).map VersionNumber.items := by
  rw [VersionNumber.parse_map_items, VersionNumber.parse_map_items, toList_lower_append_zero zero,
    List.foldlM_append]
  cases (lower v).toList.foldlM Scan.step {} with
  | error e => rfl
  | ok s =>
    show ((suffix.toList.foldlM Scan.step s) >>= Scan.finish).map nestLevels = s.finish.map nestLevels
    rcases zero with rfl | rfl
    · exact Scan.finish_after_dot_zero s
    · exact Scan.finish_after_hyphen_zero s

theorem VersionNumber.compare_eq_of_items {t : String} {u : VersionNumber}
    (same : (VersionNumber.parse t).map VersionNumber.items = .ok u.items) :
    ∃ w, VersionNumber.parse t = .ok w ∧ w.compare u = .eq := by
  cases read : VersionNumber.parse t with
  | error e =>
    rw [read] at same
    cases same
  | ok w =>
    rw [read] at same
    have items : w.items = u.items := Except.ok.inj same
    exact ⟨w, rfl, by rw [VersionNumber.compare, items, compareItems_self]⟩

/-- Trailing null items are insignificant: a full stop and a zero, or a hyphen and a zero, after
a version's text leave the items it reads as, and the error it fails with, unchanged; so where
the text can be read the three versions are equal. -/
theorem VersionNumber.parse_append_zero (v : String) :
    (VersionNumber.parse (v ++ ".0")).map VersionNumber.items = (VersionNumber.parse v).map VersionNumber.items ∧
      (VersionNumber.parse (v ++ "-0")).map VersionNumber.items = (VersionNumber.parse v).map VersionNumber.items ∧
      ∀ u, VersionNumber.parse v = .ok u → ∃ w w', VersionNumber.parse (v ++ ".0") = .ok w ∧
        VersionNumber.parse (v ++ "-0") = .ok w' ∧ w.compare u = .eq ∧ u.compare w' = .eq := by
  have dot := VersionNumber.parse_append_zero_items (Or.inl rfl) v
  have hyphen := VersionNumber.parse_append_zero_items (Or.inr rfl) v
  refine ⟨dot, hyphen, fun u read => ?_⟩
  rw [read] at dot hyphen
  obtain ⟨w, readDot, sameDot⟩ := VersionNumber.compare_eq_of_items dot
  obtain ⟨w', readHyphen, sameHyphen⟩ := VersionNumber.compare_eq_of_items hyphen
  refine ⟨w, w', readDot, readHyphen, sameDot, ?_⟩
  rw [VersionNumber.compare_swap, sameHyphen]
  rfl

theorem snapshot_trailing_zeros :
    VersionNumber.parse "1-SNAPSHOT" = .ok ⟨"1-SNAPSHOT", [.number 1, .sub [.word "snapshot"]]⟩ ∧
      ∃ w w', VersionNumber.parse "1-SNAPSHOT.0" = .ok w ∧ VersionNumber.parse "1-SNAPSHOT-0" = .ok w' ∧
        w.compare ⟨"1-SNAPSHOT", [.number 1, .sub [.word "snapshot"]]⟩ = .eq ∧
        VersionNumber.compare ⟨"1-SNAPSHOT", [.number 1, .sub [.word "snapshot"]]⟩ w' = .eq :=
  ⟨rfl, (VersionNumber.parse_append_zero "1-SNAPSHOT").2.2 _ rfl⟩

end PluginPack.Version
