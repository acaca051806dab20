import PluginPack.Proofs.Version.Normal

/-! Versions of the standard shape, and why the order is a total preorder on them.

Against padding (a missing item) the order is not a single place in the order of
items: padding equals the number zero, the release word and the empty list, which
differ from each other, and it sits between low and high qualifiers, which both rank
below every list. A standard version keeps each of these apart: numbers fill every
place but the first of a nested list, and a nested list opens with a number above
zero or a qualifier other than the release word. Then each list is on one side of
padding, and comparing with padding agrees with the order of kinds. -/

namespace PluginPack.Version

/-- The items that may open a nested list of a standard version: a number above zero,
or a qualifier word other than the release word. -/
def Item.IsLead : Item → Prop
  | .number n => 0 < n
  | .word w => Rank.ofWord w ≠ releaseRank
  | .sub _ => False

instance Item.decidableIsLead : (x : Item) → Decidable x.IsLead
  | .number n => inferInstanceAs (Decidable (0 < n))
  | .word w => inferInstanceAs (Decidable (Rank.ofWord w ≠ releaseRank))
  | .sub _ => inferInstanceAs (Decidable False)

/-- Standard versions: numbers, then possibly one nested list that opens with a lead
item and goes on in the same way, as `1.2-rc-3`, `2.5-SNAPSHOT` or `1.0-beta.2` are
read. A qualifier stands only right after a hyphen or a change from digits to letters,
never after a dot. -/
inductive Standard : List Item → Prop
  | nil : Standard []
  | number (n : Nat) {rest : List Item} : Standard rest → Standard (.number n :: rest)
  | sub {lead : Item} {rest : List Item} : lead.IsLead → Standard rest →
      Standard [.sub (lead :: rest)]

theorem Item.IsLead.isSub {lead : Item} (isLead : lead.IsLead) : lead.isSub = false := by
  cases lead with
  | sub => exact isLead.elim
  | number | word => rfl

theorem Item.IsLead.compareTo_none_ne_eq {lead : Item} (isLead : lead.IsLead) :
    lead.compareTo none ≠ .eq := by
  cases lead with
  | number n =>
      have positive : n ≠ 0 := Nat.pos_iff_ne_zero.mp isLead
      simp [Item.compareTo, positive]
  | word w =>
      simp only [Item.compareTo, ne_eq, Rank.compare_eq_iff]
      exact isLead
  | sub => exact isLead.elim

/-! Comparing a standard list with padding. -/

theorem compareItems_sub_nil (lead : Item) (rest : List Item) :
    compareItems [.sub (lead :: rest)] [] = lead.compareTo none := by
  rw [compareItems_cons_nil, compareItems_nil_nil, Ordering.then_eq, Item.compareTo]

theorem compareItems_nil_of_positive {rest : List Item} (standard : Standard rest) {m : Nat}
    (member : Item.number m ∈ rest) (positive : m ≠ 0) : compareItems rest [] = .gt := by
  induction standard with
  | nil => simp at member
  | number n _ ih =>
      rw [compareItems_cons_nil]
      by_cases zero : n = 0
      · have later := List.mem_of_ne_of_mem (fun same => positive (by simpa [zero] using same)) member
        simp [Item.compareTo, zero, ih later]
      · simp [Item.compareTo, zero]
  | sub => simp at member

theorem Standard.number_of_atom {items : List Item} (standard : Standard items) {y : Item}
    (member : y ∈ items) (atom : y.isSub = false) : ∃ m, y = .number m := by
  induction standard with
  | nil => simp at member
  | number n _ ih =>
      rcases List.mem_cons.mp member with same | later
      · exact ⟨n, same⟩
      · exact ih later
  | sub =>
      simp only [List.mem_singleton] at member
      subst member
      simp [Item.isSub] at atom

theorem compareItems_number_nil {n : Nat} {rest : List Item}
    (standard : Standard (.number n :: rest)) (settled : Settled (.number n :: rest)) :
    compareItems (.number n :: rest) [] = .gt := by
  rw [compareItems_cons_nil]
  cases standard with
  | number _ restStandard =>
      by_cases zero : n = 0
      · subst zero
        obtain ⟨y, member, notNull, atom⟩ := settled.resolved.1 (by simp [Item.isNull]) rfl
        obtain ⟨m, rfl⟩ := restStandard.number_of_atom member atom
        have positive : m ≠ 0 := by simpa [Item.isNull] using notNull
        simp [Item.compareTo, compareItems_nil_of_positive restStandard member positive]
      · simp [Item.compareTo, zero]

/-! The side of padding a standard list is on: below it (a nested list that opens
with a low qualifier), level with it (the empty list), above it (a nested list
that opens otherwise), or above every nested list (a number first). -/

/-- Where a list stands against padding and against the other kinds, lowest first. -/
def padClass : List Item → Nat
  | .sub (lead :: _) :: _ => if lead.compareTo none = .lt then 0 else 2
  | .number _ :: _ => 3
  | _ => 1

@[simp] theorem padClass_nil : padClass [] = 1 := rfl

@[simp] theorem padClass_number (n : Nat) (rest : List Item) : padClass (.number n :: rest) = 3 := rfl

@[simp] theorem padClass_sub (lead : Item) (rest : List Item) :
    padClass [.sub (lead :: rest)] = if lead.compareTo none = .lt then 0 else 2 := rfl

theorem Item.IsLead.compareTo_lt_of_sides {lead lead' : Item} (isLead : lead.IsLead)
    (isLead' : lead'.IsLead) (below : lead.compareTo none = .lt) (above : lead'.compareTo none = .gt) :
    lead.compareTo (some lead') = .lt := by
  cases lead with
  | number n =>
      have positive : n ≠ 0 := Nat.pos_iff_ne_zero.mp isLead
      simp [Item.compareTo, positive] at below
  | sub => exact isLead.elim
  | word w =>
      cases lead' with
      | number => simp [Item.compareTo]
      | sub => exact isLead'.elim
      | word w' =>
          simp only [Item.compareTo] at below above ⊢
          have releaseBelow : releaseRank.compare (Rank.ofWord w') = .lt := by
            rw [Rank.compare_swap, above]
            rfl
          exact Rank.compare_lt_trans below releaseBelow

theorem Item.IsLead.compareTo_none_gt {lead : Item} (isLead : lead.IsLead)
    (notBelow : ¬lead.compareTo none = .lt) : lead.compareTo none = .gt := by
  cases side : lead.compareTo none with
  | lt => exact absurd side notBelow
  | eq => exact absurd side isLead.compareTo_none_ne_eq
  | gt => rfl

theorem compareItems_lt_of_padClass_lt {xs ys : List Item} (xStandard : Standard xs)
    (xSettled : Settled xs) (yStandard : Standard ys) (ySettled : Settled ys)
    (lower : padClass xs < padClass ys) : compareItems xs ys = .lt := by
  cases xStandard with
  | nil =>
      cases yStandard with
      | nil => simp [padClass] at lower
      | number m _ =>
          rw [compareItems_nil_left, compareItems_number_nil (.number m ‹_›) ySettled]
          rfl
      | @sub lead' _ isLead' _ =>
          have notBelow : ¬lead'.compareTo none = .lt := by
            intro below
            simp [padClass, below] at lower
          rw [compareItems_nil_left, compareItems_sub_nil, isLead'.compareTo_none_gt notBelow]
          rfl
  | number n _ =>
      cases yStandard <;> simp only [padClass_nil, padClass_number, padClass_sub] at lower
      · omega
      · omega
      · split at lower <;> omega
  | @sub lead rest isLead _ =>
      cases yStandard with
      | nil =>
          have below : lead.compareTo none = .lt := by
            refine Classical.byContradiction fun notBelow => ?_
            simp [notBelow] at lower
          rw [compareItems_sub_nil, below]
      | number m _ =>
          rw [compareItems_cons_cons]
          simp [Item.compareTo]
      | @sub lead' rest' isLead' _ =>
          have below : lead.compareTo none = .lt := by
            refine Classical.byContradiction fun notBelow => ?_
            simp only [padClass_sub, notBelow, if_false] at lower
            split at lower <;> omega
          have notBelow : ¬lead'.compareTo none = .lt := by
            intro below'
            simp [below, below'] at lower
          rw [compareItems_cons_cons, compareItems_nil_nil, Ordering.then_eq, Item.compareTo,
            compareItems_cons_cons,
            isLead.compareTo_lt_of_sides isLead' below (isLead'.compareTo_none_gt notBelow)]
          rfl

theorem padClass_le_of_isLE {xs ys : List Item} (xStandard : Standard xs) (xSettled : Settled xs)
    (yStandard : Standard ys) (ySettled : Settled ys) (ordered : (compareItems xs ys).isLE) :
    padClass xs ≤ padClass ys := by
  refine Nat.le_of_not_lt fun higher => ?_
  have reversed := compareItems_lt_of_padClass_lt yStandard ySettled xStandard xSettled higher
  rw [compareItems_swap, reversed] at ordered
  cases ordered

/-! Lists of one class have one shape. -/

theorem Standard.eq_nil_of_padClass {xs : List Item} (standard : Standard xs)
    (level : padClass xs = 1) : xs = [] := by
  cases standard with
  | nil => rfl
  | number => simp at level
  | sub => simp only [padClass_sub] at level; split at level <;> omega

theorem Standard.number_of_padClass {xs : List Item} (standard : Standard xs)
    (first : padClass xs = 3) : ∃ n rest, xs = .number n :: rest ∧ Standard rest := by
  cases standard with
  | nil => simp at first
  | number n restStandard => exact ⟨n, _, rfl, restStandard⟩
  | sub => simp only [padClass_sub] at first; split at first <;> omega

theorem Standard.sub_of_padClass {xs : List Item} (standard : Standard xs) (notLevel : padClass xs ≠ 1)
    (notFirst : padClass xs ≠ 3) :
    ∃ lead rest, xs = [.sub (lead :: rest)] ∧ lead.IsLead ∧ Standard rest := by
  cases standard with
  | nil => simp at notLevel
  | number => simp at notFirst
  | @sub lead rest isLead restStandard => exact ⟨lead, rest, rfl, isLead, restStandard⟩

theorem compareItems_sub_sub (xs ys : List Item) : compareItems [.sub xs] [.sub ys] = compareItems xs ys := by
  rw [compareItems_cons_cons, compareItems_nil_nil, Ordering.then_eq, Item.compareTo]

theorem isLE_or_padClass_eq {xs ys zs : List Item} (xStandard : Standard xs)
    (xSettled : Settled xs) (yStandard : Standard ys) (ySettled : Settled ys)
    (zStandard : Standard zs) (zSettled : Settled zs) (first : (compareItems xs ys).isLE)
    (second : (compareItems ys zs).isLE) :
    (compareItems xs zs).isLE ∨ (padClass ys = padClass xs ∧ padClass zs = padClass xs) := by
  have xyClass := padClass_le_of_isLE xStandard xSettled yStandard ySettled first
  have yzClass := padClass_le_of_isLE yStandard ySettled zStandard zSettled second
  by_cases strict : padClass xs < padClass zs
  · left
    rw [compareItems_lt_of_padClass_lt xStandard xSettled zStandard zSettled strict]
    rfl
  · right
    omega

theorem compareItems_isLE_trans {xs ys zs : List Item} (xStandard : Standard xs)
    (xSettled : Settled xs) (yStandard : Standard ys) (ySettled : Settled ys)
    (zStandard : Standard zs) (zSettled : Settled zs) (first : (compareItems xs ys).isLE)
    (second : (compareItems ys zs).isLE) : (compareItems xs zs).isLE := by
  induction xStandard generalizing ys zs with
  | nil =>
      rcases isLE_or_padClass_eq .nil xSettled yStandard ySettled zStandard zSettled first second
        with ordered | ⟨_, zClass⟩
      · exact ordered
      rw [zStandard.eq_nil_of_padClass zClass, compareItems_nil_nil]
      rfl
  | number n restStandard ih =>
      rcases isLE_or_padClass_eq (.number n restStandard) xSettled yStandard ySettled zStandard
        zSettled first second with ordered | ⟨yClass, zClass⟩
      · exact ordered
      obtain ⟨m, rest', rfl, rest'Standard⟩ := yStandard.number_of_padClass yClass
      obtain ⟨k, rest'', rfl, rest''Standard⟩ := zStandard.number_of_padClass zClass
      rw [compareItems_cons_cons] at first second ⊢
      exact Ordering.then_isLE_trans (Item.compareTo_isLE_trans_of_atoms rfl rfl rfl)
        (Item.compareTo_eq_of_between rfl rfl rfl)
        (ih xSettled.tail rest'Standard ySettled.tail rest''Standard zSettled.tail) first second
  | @sub lead rest isLead restStandard ih =>
      rcases isLE_or_padClass_eq (.sub isLead restStandard) xSettled yStandard ySettled zStandard
        zSettled first second with ordered | ⟨yClass, zClass⟩
      · exact ordered
      have notLevel : padClass [.sub (lead :: rest)] ≠ 1 := by
        simp only [padClass_sub]
        split <;> omega
      have notFirst : padClass [.sub (lead :: rest)] ≠ 3 := by
        simp only [padClass_sub]
        split <;> omega
      obtain ⟨lead', rest', rfl, isLead', rest'Standard⟩ :=
        yStandard.sub_of_padClass (yClass ▸ notLevel) (yClass ▸ notFirst)
      obtain ⟨lead'', rest'', rfl, isLead'', rest''Standard⟩ :=
        zStandard.sub_of_padClass (zClass ▸ notLevel) (zClass ▸ notFirst)
      have inner {l : Item} {r : List Item} (settled : Settled [.sub (l :: r)]) : Settled r :=
        (settled.inner (List.mem_singleton_self _)).tail
      rw [compareItems_sub_sub, compareItems_cons_cons] at first second ⊢
      exact Ordering.then_isLE_trans
        (Item.compareTo_isLE_trans_of_atoms isLead.isSub isLead'.isSub isLead''.isSub)
        (Item.compareTo_eq_of_between isLead.isSub isLead'.isSub isLead''.isSub)
        (ih (inner xSettled) rest'Standard (inner ySettled) rest''Standard (inner zSettled)) first second

theorem compareItems_eq_of_between {xs ys zs : List Item} (xStandard : Standard xs)
    (xSettled : Settled xs) (yStandard : Standard ys) (ySettled : Settled ys)
    (zStandard : Standard zs) (zSettled : Settled zs) (outer : compareItems xs zs = .eq)
    (first : (compareItems xs ys).isLE) (second : (compareItems ys zs).isLE) :
    compareItems xs ys = .eq ∧ compareItems ys zs = .eq := by
  have back : (compareItems zs xs).isLE := by
    rw [compareItems_swap xs zs, outer]
    rfl
  have yx := compareItems_isLE_trans yStandard ySettled zStandard zSettled xStandard xSettled second back
  have zy := compareItems_isLE_trans zStandard zSettled xStandard xSettled yStandard ySettled back first
  rw [compareItems_swap] at yx zy
  exact ⟨Ordering.eq_eq_of_isLE_of_isLE_swap first yx, Ordering.eq_eq_of_isLE_of_isLE_swap second zy⟩

/-- The order of version numbers compares each version equal to itself and is
antisymmetric on every version that can be read, and it is transitive on standard
versions. -/
theorem VersionNumber.compare_preorder_on_standard (a b c : String) (u v w : VersionNumber)
    (readA : VersionNumber.parse a = .ok u) (readB : VersionNumber.parse b = .ok v)
    (readC : VersionNumber.parse c = .ok w) :
    u.compare u = .eq ∧ v.compare u = (u.compare v).swap ∧
      (Standard u.items → Standard v.items → Standard w.items →
        (u.compare v).isLE → (v.compare w).isLE → (u.compare w).isLE) := by
  refine ⟨u.compare_self, VersionNumber.compare_swap u v, ?_⟩
  intro uStandard vStandard wStandard first second
  exact compareItems_isLE_trans uStandard (VersionNumber.parse_settled readA) vStandard
    (VersionNumber.parse_settled readB) wStandard (VersionNumber.parse_settled readC) first second

theorem compare_preorder_on_standard_prerelease :
    VersionNumber.parse "1.0-alpha" = .ok ⟨"1.0-alpha", [.number 1, .sub [.word "alpha"]]⟩ ∧
      VersionNumber.parse "1.0" = .ok ⟨"1.0", [.number 1]⟩ ∧
      VersionNumber.parse "1.0.1" = .ok ⟨"1.0.1", [.number 1, .number 0, .number 1]⟩ ∧
      Standard [.number 1, .sub [.word "alpha"]] ∧ Standard [.number 1] ∧
      Standard [.number 1, .number 0, .number 1] ∧
      (compareItems [.number 1, .sub [.word "alpha"]] [.number 1, .number 0, .number 1]).isLE := by
  have alphaStandard : Standard [.number 1, .sub [.word "alpha"]] :=
    .number 1 (.sub (by decide) .nil)
  have releaseStandard : Standard [.number 1] := .number 1 .nil
  have patchStandard : Standard [.number 1, .number 0, .number 1] :=
    .number 1 (.number 0 (.number 1 .nil))
  refine ⟨rfl, rfl, rfl, alphaStandard, releaseStandard, patchStandard, ?_⟩
  exact (VersionNumber.compare_preorder_on_standard "1.0-alpha" "1.0" "1.0.1" _ _ _ rfl rfl rfl).2.2
    alphaStandard releaseStandard patchStandard (by decide +kernel) (by decide +kernel)

/-- Outside the standard shape the order has cycles: a zero before a qualifier is
level with padding, yet above every nested list. -/
theorem version_order_cycle_after_zero :
    VersionNumber.parse "1.0.rc1" =
        .ok ⟨"1.0.rc1", [.number 1, .number 0, .word "rc", .sub [.number 1]]⟩ ∧
      VersionNumber.parse "1" = .ok ⟨"1", [.number 1]⟩ ∧
      VersionNumber.parse "1-2" = .ok ⟨"1-2", [.number 1, .sub [.number 2]]⟩ ∧
      compareItems [.number 1, .number 0, .word "rc", .sub [.number 1]] [.number 1] = .lt ∧
      compareItems [.number 1] [.number 1, .sub [.number 2]] = .lt ∧
      compareItems [.number 1, .number 0, .word "rc", .sub [.number 1]]
        [.number 1, .sub [.number 2]] = .gt :=
  ⟨rfl, rfl, rfl, by decide +kernel, by decide +kernel, by decide +kernel⟩

end PluginPack.Version