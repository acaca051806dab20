import PluginPack.Version.Parse

/-! The laws that the order of version items keeps on every input: each item and
list compares equal to itself, and swapping the two sides swaps the answer. The
comparison against padding (a missing item) is the one place where the two sides
are read differently, so it gets its own lemmas first. -/

namespace PluginPack.Version

theorem Rank.compare_self (r : Rank) : r.compare r = .eq := by
  cases r <;> simp [Rank.compare]

theorem Rank.compare_swap (r s : Rank) : s.compare r = (r.compare s).swap := by
  cases r <;> cases s <;> simp only [Rank.compare]
  all_goals first | exact Std.OrientedCmp.eq_swap | rfl

theorem Rank.compare_eq_iff (r s : Rank) : r.compare s = .eq ↔ r = s := by
  cases r <;> cases s <;> simp [Rank.compare, Std.LawfulEqCmp.compare_eq_iff_eq]

theorem Rank.compare_isLE_trans {r s t : Rank} (first : (r.compare s).isLE) (second : (s.compare t).isLE) :
    (r.compare t).isLE := by
  cases r <;> cases s <;> cases t <;> simp only [Rank.compare] at first second ⊢
  all_goals first | exact Std.TransCmp.isLE_trans first second | rfl | contradiction

theorem Rank.compare_lt_trans {r s t : Rank} (first : r.compare s = .lt) (second : s.compare t = .lt) :
    r.compare t = .lt := by
  cases r <;> cases s <;> cases t <;> simp only [Rank.compare] at first second ⊢
  all_goals first | exact Std.TransCmp.lt_trans first second | rfl | contradiction

/-! Each step of the list comparison, written with `Ordering.then`. -/

@[simp] theorem compareItems_nil_nil : compareItems [] [] = .eq := by
  simp [compareItems]

theorem compareItems_nil_cons (y : Item) (ys : List Item) :
    compareItems [] (y :: ys) = (y.compareTo none).swap.then (compareItems [] ys) := by
  rw [compareItems]
  cases (y.compareTo none).swap <;> rfl

theorem compareItems_cons_nil (x : Item) (xs : List Item) :
    compareItems (x :: xs) [] = (x.compareTo none).then (compareItems xs []) := by
  rw [compareItems]
  cases x.compareTo none <;> rfl

theorem compareItems_cons_cons (x y : Item) (xs ys : List Item) :
    compareItems (x :: xs) (y :: ys) = (x.compareTo (some y)).then (compareItems xs ys) := by
  rw [compareItems]
  cases x.compareTo (some y) <;> rfl

theorem compareItems_nil_left (ys : List Item) : compareItems [] ys = (compareItems ys []).swap := by
  induction ys with
  | nil => simp
  | cons y ys ih => rw [compareItems_nil_cons, compareItems_cons_nil, ih, Ordering.swap_then]

mutual

theorem Item.compareTo_self : ∀ x : Item, x.compareTo (some x) = .eq
  | .number n => by simp [Item.compareTo]
  | .word w => by simp [Item.compareTo, Rank.compare_self]
  | .sub xs => by
      rw [Item.compareTo]
      exact compareItems_self xs

theorem compareItems_self : ∀ xs : List Item, compareItems xs xs = .eq
  | [] => compareItems_nil_nil
  | x :: xs => by
      rw [compareItems_cons_cons, Item.compareTo_self x]
      exact compareItems_self xs

end

mutual

theorem Item.compareTo_swap : ∀ x y : Item, y.compareTo (some x) = (x.compareTo (some y)).swap
  | .number a, .number b => by
      simp only [Item.compareTo]
      exact Std.OrientedCmp.eq_swap
  | .word v, .word w => by
      simp only [Item.compareTo]
      exact Rank.compare_swap _ _
  | .sub xs, .sub ys => by
      simp only [Item.compareTo]
      exact compareItems_swap xs ys
  | .number _, .word _ | .number _, .sub _ | .word _, .number _ | .word _, .sub _
  | .sub _, .number _ | .sub _, .word _ => by simp [Item.compareTo]

theorem compareItems_swap : ∀ xs ys : List Item, compareItems ys xs = (compareItems xs ys).swap
  | [], ys => by rw [compareItems_nil_left, Ordering.swap_swap]
  | x :: xs, [] => compareItems_nil_left (x :: xs)
  | x :: xs, y :: ys => by
      rw [compareItems_cons_cons, compareItems_cons_cons, Item.compareTo_swap x y,
        compareItems_swap xs ys, Ordering.swap_then]

end

theorem VersionNumber.compare_self (v : VersionNumber) : v.compare v = .eq :=
  compareItems_self v.items

theorem VersionNumber.compare_swap (v w : VersionNumber) : w.compare v = (v.compare w).swap :=
  compareItems_swap v.items w.items

/-! Numbers and words, the items that are not lists, form a total preorder: words
below numbers, words by rank, numbers by value. -/

theorem Item.compareTo_isLE_trans_of_atoms {x y z : Item} (xAtom : x.isSub = false)
    (yAtom : y.isSub = false) (zAtom : z.isSub = false) (first : (x.compareTo (some y)).isLE)
    (second : (y.compareTo (some z)).isLE) : (x.compareTo (some z)).isLE := by
  cases x <;> cases y <;> cases z <;> simp only [Item.isSub, Bool.true_eq_false] at xAtom yAtom zAtom
  all_goals simp only [Item.compareTo] at first second ⊢
  case number.number.number => exact Std.TransCmp.isLE_trans first second
  case word.word.word => exact Rank.compare_isLE_trans first second
  -- across kinds a word is below a number, so the other cases are immediate
  all_goals simp_all

theorem Item.compareTo_eq_of_between {x y z : Item} (xAtom : x.isSub = false)
    (yAtom : y.isSub = false) (zAtom : z.isSub = false) (outer : x.compareTo (some z) = .eq)
    (first : (x.compareTo (some y)).isLE) (second : (y.compareTo (some z)).isLE) :
    x.compareTo (some y) = .eq ∧ y.compareTo (some z) = .eq := by
  have back : (z.compareTo (some x)).isLE := by
    rw [Item.compareTo_swap x z, outer]
    rfl
  have yx : (y.compareTo (some x)).isLE :=
    Item.compareTo_isLE_trans_of_atoms yAtom zAtom xAtom second back
  have zy : (z.compareTo (some y)).isLE :=
    Item.compareTo_isLE_trans_of_atoms zAtom xAtom yAtom back first
  rw [Item.compareTo_swap] at yx zy
  exact ⟨Ordering.eq_eq_of_isLE_of_isLE_swap first yx, Ordering.eq_eq_of_isLE_of_isLE_swap second zy⟩

theorem Ordering.then_isLE_trans {a b c a' b' c' : Ordering} (heads : a.isLE → b.isLE → c.isLE)
    (between : c = .eq → a.isLE → b.isLE → a = .eq ∧ b = .eq)
    (tails : a'.isLE → b'.isLE → c'.isLE) (first : (a.then a').isLE) (second : (b.then b').isLE) :
    (c.then c').isLE := by
  have aLE := Ordering.isLE_left_of_isLE_then first
  have bLE := Ordering.isLE_left_of_isLE_then second
  cases outer : c with
  | lt => rfl
  | gt =>
      have outerLE := heads aLE bLE
      rw [outer] at outerLE
      cases outerLE
  | eq =>
      obtain ⟨aEq, bEq⟩ := between outer aLE bLE
      simp only [aEq, bEq, Ordering.then] at first second ⊢
      exact tails first second

end PluginPack.Version
