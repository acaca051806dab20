import PluginPack.Proofs.Version.Standard

/-! Comparing version texts: the order of their numbers, with equal numbers ordered by
the texts themselves. The tie-break makes texts equal only when they are the same
text, and on standard versions the combined order is a strict total order. -/

namespace PluginPack.Version

theorem compareVersionTexts_eq_ok (a b : String) (u v : VersionNumber)
    (readA : VersionNumber.parse a = .ok u) (readB : VersionNumber.parse b = .ok v) :
    compareVersionTexts a b = .ok ((u.compare v).then (compare a b)) := by
  unfold compareVersionTexts
  rw [readA, readB]
  rfl

theorem compareVersionTexts_swap (a b : String) (u v : VersionNumber)
    (readA : VersionNumber.parse a = .ok u) (readB : VersionNumber.parse b = .ok v) :
    compareVersionTexts b a = (compareVersionTexts a b).map Ordering.swap := by
  have textSwap : compare b a = (compare a b).swap := Std.OrientedOrd.eq_swap
  rw [compareVersionTexts_eq_ok a b u v readA readB, compareVersionTexts_eq_ok b a v u readB readA,
    VersionNumber.compare_swap u v, textSwap, ← Ordering.swap_then]
  rfl

theorem compareVersionTexts_eq_eq_iff (a b : String) (u v : VersionNumber)
    (readA : VersionNumber.parse a = .ok u) (readB : VersionNumber.parse b = .ok v) :
    compareVersionTexts a b = .ok .eq ↔ a = b := by
  rw [compareVersionTexts_eq_ok a b u v readA readB]
  constructor
  · intro same
    have texts := (Ordering.then_eq_eq.mp (Except.ok.inj same)).2
    exact Std.LawfulEqCmp.compare_eq_iff_eq.mp texts
  · rintro rfl
    have sameVersion : u = v := Except.ok.inj (readA.symm.trans readB)
    subst sameVersion
    have textSelf : compare a a = .eq := Std.ReflOrd.compare_self
    rw [VersionNumber.compare_self, textSelf]
    rfl

theorem then_compare_swap (u v : VersionNumber) (a b : String) :
    (v.compare u).then (compare b a) = ((u.compare v).then (compare a b)).swap := by
  have textSwap : compare b a = (compare a b).swap := Std.OrientedOrd.eq_swap
  rw [VersionNumber.compare_swap u v, textSwap, Ordering.swap_then]

theorem compareVersionTexts_gt_trans (a b c : String) (u v w : VersionNumber)
    (readA : VersionNumber.parse a = .ok u) (readB : VersionNumber.parse b = .ok v)
    (readC : VersionNumber.parse c = .ok w) (uStandard : Standard u.items)
    (vStandard : Standard v.items) (wStandard : Standard w.items)
    (first : compareVersionTexts a b = .ok .gt) (second : compareVersionTexts b c = .ok .gt) :
    compareVersionTexts a c = .ok .gt := by
  rw [compareVersionTexts_eq_ok a b u v readA readB] at first
  rw [compareVersionTexts_eq_ok b c v w readB readC] at second
  rw [compareVersionTexts_eq_ok a c u w readA readC]
  have uSettled := VersionNumber.parse_settled readA
  have vSettled := VersionNumber.parse_settled readB
  have wSettled := VersionNumber.parse_settled readC
  have cb : ((w.compare v).then (compare c b)) = .lt := by
    rw [then_compare_swap, Except.ok.inj second]
    rfl
  have ba : ((v.compare u).then (compare b a)) = .lt := by
    rw [then_compare_swap, Except.ok.inj first]
    rfl
  have ca : ((w.compare u).then (compare c a)).isLE :=
    Ordering.then_isLE_trans
      (compareItems_isLE_trans wStandard wSettled vStandard vSettled uStandard uSettled)
      (compareItems_eq_of_between wStandard wSettled vStandard vSettled uStandard uSettled)
      Std.TransOrd.isLE_trans (Ordering.isLE_of_eq_lt cb) (Ordering.isLE_of_eq_lt ba)
  have notSame : (w.compare u).then (compare c a) ≠ .eq := by
    intro same
    have texts : c = a := Std.LawfulEqCmp.compare_eq_iff_eq.mp (Ordering.then_eq_eq.mp same).2
    subst texts
    have sameVersion : u = w := Except.ok.inj (readA.symm.trans readC)
    subst sameVersion
    rw [Except.ok.inj second] at ba
    cases ba
  rw [then_compare_swap w u c a]
  cases order : (w.compare u).then (compare c a) with
  | lt => rfl
  | eq => exact absurd order notSame
  | gt => rw [order] at ca; cases ca

/-- Comparing version texts is a strict total order on standard versions: texts
compare equal only when they are the same text, swapping them swaps the answer, and
newer-than is transitive. The first two hold for every version that can be read. -/
theorem compareVersionTexts_strict_order_on_standard (a b c : String) (u v w : VersionNumber)
    (readA : VersionNumber.parse a = .ok u) (readB : VersionNumber.parse b = .ok v)
    (readC : VersionNumber.parse c = .ok w) :
    (compareVersionTexts a b = .ok .eq ↔ a = b) ∧
      compareVersionTexts b a = (compareVersionTexts a b).map Ordering.swap ∧
      (Standard u.items → Standard v.items → Standard w.items →
        compareVersionTexts a b = .ok .gt → compareVersionTexts b c = .ok .gt →
        compareVersionTexts a c = .ok .gt) :=
  ⟨compareVersionTexts_eq_eq_iff a b u v readA readB, compareVersionTexts_swap a b u v readA readB,
    compareVersionTexts_gt_trans a b c u v w readA readB readC⟩

theorem compareVersionTexts_strict_order_at_prerelease :
    VersionNumber.parse "1.0.1" = .ok ⟨"1.0.1", [.number 1, .number 0, .number 1]⟩ ∧
      VersionNumber.parse "1.0" = .ok ⟨"1.0", [.number 1]⟩ ∧
      VersionNumber.parse "1.0-alpha" = .ok ⟨"1.0-alpha", [.number 1, .sub [.word "alpha"]]⟩ ∧
      compareVersionTexts "1.0.1" "1.0" = .ok .gt ∧ compareVersionTexts "1.0" "1.0-alpha" = .ok .gt ∧
      compareVersionTexts "1.0.1" "1.0-alpha" = .ok .gt := by
  have readPatch : VersionNumber.parse "1.0.1" = .ok ⟨"1.0.1", [.number 1, .number 0, .number 1]⟩ :=
    rfl
  have readRelease : VersionNumber.parse "1.0" = .ok ⟨"1.0", [.number 1]⟩ := rfl
  have readAlpha :
      VersionNumber.parse "1.0-alpha" = .ok ⟨"1.0-alpha", [.number 1, .sub [.word "alpha"]]⟩ := rfl
  have patchAbove : compareVersionTexts "1.0.1" "1.0" = .ok .gt := by
    rw [compareVersionTexts_eq_ok _ _ _ _ readPatch readRelease]
    exact congrArg Except.ok (by decide +kernel)
  have releaseAbove : compareVersionTexts "1.0" "1.0-alpha" = .ok .gt := by
    rw [compareVersionTexts_eq_ok _ _ _ _ readRelease readAlpha]
    exact congrArg Except.ok (by decide +kernel)
  have patchStandard : Standard [.number 1, .number 0, .number 1] :=
    .number 1 (.number 0 (.number 1 .nil))
  have releaseStandard : Standard [.number 1] := .number 1 .nil
  have alphaStandard : Standard [.number 1, .sub [.word "alpha"]] :=
    .number 1 (.sub (by decide) .nil)
  exact ⟨readPatch, readRelease, readAlpha, patchAbove, releaseAbove,
    (compareVersionTexts_strict_order_on_standard _ _ _ _ _ _ readPatch readRelease readAlpha).2.2
      patchStandard releaseStandard alphaStandard patchAbove releaseAbove⟩

/-- Outside the standard shape newer-than has cycles: the release word in `1.ga.5`
and the zero in `1.0.alpha` are both level with padding, yet a number is above a
word. -/
theorem compareVersionTexts_cycle :
    compareVersionTexts "1.ga.5" "1" = .ok .gt ∧ compareVersionTexts "1" "1.0.alpha" = .ok .gt ∧
      compareVersionTexts "1.ga.5" "1.0.alpha" = .ok .lt := by
  have readWord : VersionNumber.parse "1.ga.5" = .ok ⟨"1.ga.5", [.number 1, .word "", .number 5]⟩ :=
    rfl
  have readRelease : VersionNumber.parse "1" = .ok ⟨"1", [.number 1]⟩ := rfl
  have readZero :
      VersionNumber.parse "1.0.alpha" = .ok ⟨"1.0.alpha", [.number 1, .number 0, .word "alpha"]⟩ :=
    rfl
  refine ⟨?_, ?_, ?_⟩
  · rw [compareVersionTexts_eq_ok _ _ _ _ readWord readRelease]
    exact congrArg Except.ok (by decide +kernel)
  · rw [compareVersionTexts_eq_ok _ _ _ _ readRelease readZero]
    exact congrArg Except.ok (by decide +kernel)
  · rw [compareVersionTexts_eq_ok _ _ _ _ readWord readZero]
    exact congrArg Except.ok (by decide +kernel)

end PluginPack.Version
