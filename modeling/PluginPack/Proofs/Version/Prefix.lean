import Mathlib.Data.List.TakeWhile
import PluginPack.Proofs.Text.Lowering
import PluginPack.Proofs.Version.Standard

/-! Versions that share everything but their last component. Reading a version puts its last
component as the last item of the innermost level, the one that a hyphen or a change
between digits and letters opened last; the levels are then put in normal form from the
innermost outwards. Two items that are not null are compared where they stand, so the two
versions compare as the two items do. A null last item is dropped, and with it every level
it leaves empty; what then faces the other version's item is padding, and a nested list
meets padding through its first item only. So a null item compares with one that is not
null as padding does, unless the innermost level already held items, all of them null:
then the other version's first item there is null as well, and the two versions are equal.

Main statements: after a prefix that is empty or ends with a dot or a hyphen, a larger
number makes a larger version, except that zero and a larger number give equal versions
when the prefix leaves a nested level holding only null items (`1-0.0` and `1-0.1`); and a
qualifier after a hyphen orders versions exactly as the documented qualifier order does. -/

namespace PluginPack.Version

/-! Normal form of a level that ends with a given item. -/

theorem trimItems_snoc_solid (level : List Item) {x : Item} (solid : x.isNull = false)
    (atom : x.isSub = false) : trimItems (level ++ [x]) = level ++ [x] := by
  simp [trimItems, trimReversed, solid, atom]

theorem trimItems_snoc_null (level : List Item) {x : Item} (null : x.isNull = true) :
    trimItems (level ++ [x]) = trimItems level := by
  simp [trimItems, trimReversed, null]

theorem trimItems_snoc_sub (level inner : List Item) :
    trimItems (level ++ [.sub inner]) = if inner = [] then trimItems level else trimItems level ++ [.sub inner] := by
  cases inner with
  | nil => simp [trimItems, trimReversed, Item.isNull]
  | cons x rest => simp [trimItems, trimReversed, Item.isNull, Item.isSub]

theorem trimReversed_of_atomic : ∀ {reversed : List Item}, Atomic reversed →
    trimReversed reversed = reversed.dropWhile Item.isNull
  | [], _ => rfl
  | x :: rest, atomic => by
    have atom : x.isSub = false := atomic x List.mem_cons_self
    by_cases null : x.isNull = true
    · simp only [trimReversed, null, if_true, List.dropWhile_cons_of_pos null]
      exact trimReversed_of_atomic fun y member => atomic y (List.mem_cons_of_mem x member)
    · simp [trimReversed, null, atom]

theorem Atomic.reverse {level : List Item} (atomic : Atomic level) : Atomic level.reverse :=
  fun x member => atomic x (List.mem_reverse.mp member)

theorem trimItems_append_nulls {level : List Item} (atomic : Atomic level) :
    ∃ nulls, level = trimItems level ++ nulls ∧ ∀ x ∈ nulls, x.isNull = true := by
  refine ⟨(level.reverse.takeWhile Item.isNull).reverse, ?_, fun x member => ?_⟩
  · rw [trimItems, trimReversed_of_atomic atomic.reverse, ← List.reverse_append,
      List.takeWhile_append_dropWhile, List.reverse_reverse]
  · exact List.mem_takeWhile_imp (List.mem_reverse.mp member)

theorem trimItems_eq_nil {level : List Item} (atomic : Atomic level) :
    trimItems level = [] ↔ ∀ x ∈ level, x.isNull = true := by
  rw [trimItems, trimReversed_of_atomic atomic.reverse, List.reverse_eq_nil_iff, List.dropWhile_eq_nil_iff]
  simp

/-! Comparing lists that share a front. -/

theorem compareItems_append_left (front : List Item) (xs ys : List Item) :
    compareItems (front ++ xs) (front ++ ys) = compareItems xs ys := by
  induction front with
  | nil => rfl
  | cons x front ih => rw [List.cons_append, List.cons_append, compareItems_cons_cons, Item.compareTo_self, ih]; rfl

theorem Item.compareTo_none_of_null {x : Item} (null : x.isNull = true) (atom : x.isSub = false) :
    x.compareTo none = .eq := by
  cases x with
  | number n => simp_all [Item.isNull, Item.compareTo]
  | word w =>
    have release : Rank.ofWord w = releaseRank := by simpa [Item.isNull] using null
    simp [Item.compareTo, release, Rank.compare_self]
  | sub => simp [Item.isSub] at atom

theorem compareItems_nil_nulls_snoc {nulls : List Item} (null : ∀ x ∈ nulls, x.isNull = true)
    (atomic : Atomic nulls) (y : Item) : compareItems [] (nulls ++ [y]) = (y.compareTo none).swap := by
  induction nulls with
  | nil => rw [List.nil_append, compareItems_nil_cons, compareItems_nil_nil, Ordering.then_eq]
  | cons x rest ih =>
    rw [List.cons_append, compareItems_nil_cons,
      Item.compareTo_none_of_null (null x List.mem_cons_self) (atomic x List.mem_cons_self)]
    exact ih (fun z member => null z (List.mem_cons_of_mem x member))
      (fun z member => atomic z (List.mem_cons_of_mem x member))

/-! The levels of a version whose innermost level ends with a given item. -/

section Nesting

theorem nestLevels_singleton (level : List Item) : nestLevels [level] = trimItems level := rfl

variable (levels : List (List Item)) (level : List Item)

theorem nestLevels_cons_snoc (outer last : List Item) :
    nestLevels (outer :: (levels ++ [last])) = trimItems (outer ++ [.sub (nestLevels (levels ++ [last]))]) := by
  obtain ⟨first, rest, split⟩ := List.exists_cons_of_ne_nil (List.append_ne_nil_of_right_ne_nil levels
    (List.cons_ne_nil last []))
  rw [split]
  rfl

theorem nestLevels_snoc_ne_nil {x : Item} (solid : x.isNull = false) (atom : x.isSub = false) :
    nestLevels (levels ++ [level ++ [x]]) ≠ [] := by
  induction levels with
  | nil => simp [nestLevels_singleton, trimItems_snoc_solid level solid atom]
  | cons outer levels ih => simp [nestLevels_cons_snoc, trimItems_snoc_sub, ih]

theorem compareItems_nestLevels_solid {x y : Item} (xSolid : x.isNull = false) (xAtom : x.isSub = false)
    (ySolid : y.isNull = false) (yAtom : y.isSub = false) :
    compareItems (nestLevels (levels ++ [level ++ [x]])) (nestLevels (levels ++ [level ++ [y]])) =
      x.compareTo (some y) := by
  induction levels with
  | nil =>
    simp only [List.nil_append, nestLevels_singleton]
    rw [trimItems_snoc_solid level xSolid xAtom, trimItems_snoc_solid level ySolid yAtom,
      compareItems_append_left, compareItems_cons_cons, compareItems_nil_nil, Ordering.then_eq]
  | cons outer levels ih =>
    simp only [List.cons_append, nestLevels_cons_snoc]
    rw [trimItems_snoc_sub, trimItems_snoc_sub, if_neg (nestLevels_snoc_ne_nil levels level xSolid xAtom),
      if_neg (nestLevels_snoc_ne_nil levels level ySolid yAtom), compareItems_append_left, compareItems_sub_sub, ih]

theorem nestLevels_snoc_null {x : Item} (null : x.isNull = true) :
    nestLevels (levels ++ [level ++ [x]]) = nestLevels (levels ++ [level]) := by
  induction levels with
  | nil =>
    simp only [List.nil_append, nestLevels_singleton]
    exact trimItems_snoc_null level null
  | cons outer levels ih =>
    simp only [List.cons_append, nestLevels_cons_snoc]
    rw [ih]

theorem nestLevels_snoc_nulls {x y : Item} (xNull : x.isNull = true) (yNull : y.isNull = true) :
    nestLevels (levels ++ [level ++ [x]]) = nestLevels (levels ++ [level ++ [y]]) := by
  rw [nestLevels_snoc_null levels level xNull, nestLevels_snoc_null levels level yNull]

theorem nestLevels_snoc_emptied {inner : List Item} (emptied : trimItems inner = []) :
    nestLevels (levels ++ [level, inner]) = nestLevels (levels ++ [level]) := by
  induction levels with
  | nil =>
    show trimItems (level ++ [.sub (trimItems inner)]) = trimItems level
    rw [emptied, trimItems_snoc_sub, if_pos rfl]
  | cons outer levels ih =>
    have regrouped : levels ++ [level, inner] = (levels ++ [level]) ++ [inner] := by simp
    rw [List.cons_append, List.cons_append, regrouped, nestLevels_cons_snoc, nestLevels_cons_snoc,
      ← regrouped, ih]

variable {levels level}

theorem nulls_of_nestLevels_eq_nil (atomic : Atomic level) {x : Item} (null : x.isNull = true)
    (empty : nestLevels (levels ++ [level ++ [x]]) = []) : ∀ z ∈ level, z.isNull = true := by
  induction levels with
  | nil =>
    rw [List.nil_append, nestLevels_singleton, trimItems_snoc_null level null] at empty
    exact (trimItems_eq_nil atomic).mp empty
  | cons outer levels ih =>
    rw [List.cons_append, nestLevels_cons_snoc, trimItems_snoc_sub] at empty
    split at empty
    · exact ih ‹_›
    · simp at empty

theorem Item.compareTo_none_nestLevels (atomic : Atomic level) {x y : Item} (null : x.isNull = true)
    (ySolid : y.isNull = false) (yAtom : y.isSub = false) (empty : nestLevels (levels ++ [level ++ [x]]) = []) :
    (Item.sub (nestLevels (levels ++ [level ++ [y]]))).compareTo none =
      if level = [] then y.compareTo none else .eq := by
  induction levels with
  | nil =>
    rw [List.nil_append, nestLevels_singleton, trimItems_snoc_solid level ySolid yAtom]
    cases level with
    | nil => simp [Item.compareTo]
    | cons z rest =>
      have nulls := nulls_of_nestLevels_eq_nil atomic null empty
      rw [List.cons_append, Item.compareTo, Item.compareTo_none_of_null (nulls z List.mem_cons_self)
        (atomic z List.mem_cons_self)]
      simp
  | cons outer levels ih =>
    rw [List.cons_append, nestLevels_cons_snoc, trimItems_snoc_sub] at empty ⊢
    split at empty
    · rename_i innerEmpty
      rw [empty, if_neg (nestLevels_snoc_ne_nil levels level ySolid yAtom), List.nil_append, Item.compareTo]
      exact ih innerEmpty
    · simp at empty

theorem compareItems_nestLevels_null (levelsAtomic : ∀ l ∈ levels, Atomic l) (atomic : Atomic level)
    {x y : Item} (null : x.isNull = true) (ySolid : y.isNull = false) (yAtom : y.isSub = false) :
    compareItems (nestLevels (levels ++ [level ++ [x]])) (nestLevels (levels ++ [level ++ [y]])) =
      if levels ≠ [] ∧ level ≠ [] ∧ ∀ z ∈ level, z.isNull = true then .eq else (y.compareTo none).swap := by
  induction levels with
  | nil =>
    obtain ⟨nulls, split, allNull⟩ := trimItems_append_nulls atomic
    have nullsAtomic : Atomic nulls := fun z member => atomic z (split ▸ List.mem_append_right _ member)
    simp only [List.nil_append, nestLevels_singleton]
    rw [trimItems_snoc_null level null, trimItems_snoc_solid level ySolid yAtom]
    conv => lhs; arg 2; rw [split]
    rw [List.append_assoc, ← List.append_nil (trimItems level), List.append_assoc, compareItems_append_left,
      List.nil_append, compareItems_nil_nulls_snoc allNull nullsAtomic]
    simp
  | cons outer levels ih =>
    have outerAtomic := fun l member => levelsAtomic l (List.mem_cons_of_mem outer member)
    simp only [List.cons_append, nestLevels_cons_snoc]
    rw [trimItems_snoc_sub, trimItems_snoc_sub, if_neg (nestLevels_snoc_ne_nil levels level ySolid yAtom)]
    split
    · -- The null item leaves the inner levels empty: padding meets the other's nested list.
      rename_i innerEmpty
      have nulls := nulls_of_nestLevels_eq_nil atomic null innerEmpty
      rw [← List.append_nil (trimItems outer), List.append_assoc, compareItems_append_left, List.nil_append,
        compareItems_nil_cons, compareItems_nil_nil, Ordering.then_eq,
        Item.compareTo_none_nestLevels atomic null ySolid yAtom innerEmpty]
      by_cases empty : level = []
      · simp [empty]
      · rw [if_neg empty, if_pos ⟨List.cons_ne_nil _ _, empty, nulls⟩]
        rfl
    · rename_i innerKept
      rw [compareItems_append_left, compareItems_sub_sub, ih outerAtomic]
      -- With no outer level left, the innermost level cannot hold null items alone.
      cases levels with
      | nil =>
        have solidInside : ¬ ∀ z ∈ level, z.isNull = true := by
          intro nulls
          apply innerKept
          rw [List.nil_append, nestLevels_singleton, trimItems_snoc_null level null]
          exact (trimItems_eq_nil atomic).mpr nulls
        simp [solidInside]
      | cons => simp

end Nesting

/-! Reading a last run of digits or letters. -/

open PluginPack.Text

theorem Scan.empty_flat : ({} : Scan).Flat :=
  ⟨fun _ member => by simp at member, fun _ member => by simp at member⟩

theorem Scan.step_continue {s : Scan} {c : Char} {digits : Bool} (dot : c ≠ '.') (hyphen : c ≠ '-')
    (kind : isDigit c = digits) (fresh : s.run = [] ∨ s.digits = digits) :
    s.step c = .ok { s with run := s.run ++ [c], digits } := by
  cases digits <;> rcases fresh with empty | same <;> simp_all [Scan.step] <;> rfl

theorem Scan.foldlM_continue {digits : Bool} : ∀ {c : Char} {rest : List Char} {s : Scan},
    (∀ x ∈ c :: rest, x ≠ '.' ∧ x ≠ '-' ∧ isDigit x = digits) → (s.run = [] ∨ s.digits = digits) →
    (c :: rest).foldlM Scan.step s = .ok { s with run := s.run ++ c :: rest, digits }
  | c, [], s, kind, fresh => by
    have ⟨dot, hyphen, same⟩ := kind c List.mem_cons_self
    rw [List.foldlM_cons, Scan.step_continue dot hyphen same fresh]
    rfl
  | c, next :: rest, s, kind, fresh => by
    have ⟨dot, hyphen, same⟩ := kind c List.mem_cons_self
    rw [List.foldlM_cons, Scan.step_continue dot hyphen same fresh]
    show List.foldlM Scan.step { s with run := s.run ++ [c], digits } (next :: rest) = _
    rw [Scan.foldlM_continue (fun x member => kind x (List.mem_cons_of_mem c member)) (Or.inr rfl),
      List.append_assoc, List.singleton_append]

theorem Scan.step_separator {s s' : Scan} {c : Char} (separator : c = '.' ∨ c = '-')
    (stepped : s.step c = .ok s') : s'.run = [] ∧ (c = '-' → s'.level = []) := by
  rcases separator with rfl | rfl
  · unfold Scan.step at stepped
    obtain ⟨item, _, built⟩ := Except.exists_of_bind_eq_ok stepped
    cases built
    exact ⟨rfl, fun same => absurd same (by decide)⟩
  · unfold Scan.step at stepped
    obtain ⟨item, _, built⟩ := Except.exists_of_bind_eq_ok stepped
    cases built
    exact ⟨rfl, fun _ => rfl⟩

theorem Scan.foldlM_separated {front : List Char} {s : Scan}
    (ends : front.getLast? ∈ [none, some '.', some '-']) (scanned : front.foldlM Scan.step {} = .ok s) :
    s.run = [] ∧ (front.getLast? = some '-' → s.level = []) := by
  rcases List.eq_nil_or_concat front with rfl | ⟨body, last, rfl⟩
  · cases scanned
    exact ⟨rfl, by simp⟩
  · rw [List.concat_eq_append, List.getLast?_concat] at ends ⊢
    rw [List.concat_eq_append, List.foldlM_append] at scanned
    obtain ⟨before, _, lastScanned⟩ := Except.exists_of_bind_eq_ok scanned
    obtain ⟨after, stepped, finished⟩ := Except.exists_of_bind_eq_ok lastScanned
    cases finished
    have separator : last = '.' ∨ last = '-' := by simpa using ends
    have ⟨run, level⟩ := Scan.step_separator separator stepped
    exact ⟨run, fun hyphen => level (Option.some.inj hyphen)⟩

theorem VersionNumber.parse_last_run {text : String} {u : VersionNumber} {front : List Char}
    {c : Char} {rest : List Char} {digits : Bool} (lowered : (lower text).toList = front ++ c :: rest)
    (ends : front.getLast? ∈ [none, some '.', some '-'])
    (kind : ∀ x ∈ c :: rest, x ≠ '.' ∧ x ≠ '-' ∧ isDigit x = digits)
    (read : VersionNumber.parse text = .ok u) :
    ∃ s item, front.foldlM Scan.step {} = .ok s ∧ s.Flat ∧ runItem digits (c :: rest) false = .ok item ∧
      u.items = nestLevels (s.levels ++ [s.level ++ [item]]) := by
  unfold VersionNumber.parse at read
  obtain ⟨scan, scanned, built⟩ := Except.exists_of_bind_eq_ok read
  obtain ⟨levels, finished, returned⟩ := Except.exists_of_bind_eq_ok built
  cases returned
  rw [lowered, List.foldlM_append] at scanned
  obtain ⟨s, frontScanned, runScanned⟩ := Except.exists_of_bind_eq_ok scanned
  have fresh := (Scan.foldlM_separated ends frontScanned).1
  rw [Scan.foldlM_continue kind (Or.inl fresh)] at runScanned
  cases runScanned
  unfold Scan.finish at finished
  simp only [fresh, List.nil_append, List.isEmpty_cons, Bool.false_eq_true, if_false] at finished
  obtain ⟨item, readItem, closed⟩ := Except.exists_of_bind_eq_ok finished
  cases closed
  exact ⟨s, item, frontScanned, Scan.foldlM_flat Scan.empty_flat frontScanned, readItem, rfl⟩

theorem foldlM_decimalValue {cs : List Char} (digits : ∀ c ∈ cs, c.isDigit) (init : Nat) :
    cs.foldlM (fun acc c => (decimalValue? c).map (acc * 10 + ·)) init = some (Nat.ofDigitChars 10 cs init) := by
  induction cs generalizing init with
  | nil => rfl
  | cons c cs ih =>
    have value := (asciiDigitEntry_of_isDigit (digits c List.mem_cons_self)).2.2.2.2
    rw [List.foldlM_cons, value, Option.map_some, Nat.ofDigitChars_cons, Nat.mul_comm]
    exact ih (fun x member => digits x (List.mem_cons_of_mem c member)) _

theorem decimalNumeral?_toDigits (m : Nat) : decimalNumeral? (String.ofList (Nat.toDigits 10 m)) = some m := by
  have digits (c : Char) (member : c ∈ Nat.toDigits 10 m) : c.isDigit :=
    Nat.isDigit_of_mem_toDigits (by decide) (by decide) member
  have nonempty : (String.ofList (Nat.toDigits 10 m)).isEmpty = false := by
    simp
  rw [decimalNumeral?, nonempty, if_neg Bool.false_ne_true, String.toList_ofList, foldlM_decimalValue digits,
    Nat.ofDigitChars_toDigits (by decide) (by decide)]

theorem runItem_toDigits {m : Nat} {item : Item} (read : runItem true (Nat.toDigits 10 m) false = .ok item) :
    item = .number m := by
  unfold runItem at read
  simp only [if_true, decimalNumeral?_toDigits] at read
  split at read
  · cases read
  · cases read
    rfl

theorem VersionNumber.parse_append_repr {p : String} {m : Nat} {u : VersionNumber}
    (ends : p.toList.getLast? ∈ [none, some '.', some '-']) (read : VersionNumber.parse (p ++ Nat.repr m) = .ok u) :
    ∃ s, (lower p).toList.foldlM Scan.step {} = .ok s ∧ s.Flat ∧
      u.items = nestLevels (s.levels ++ [s.level ++ [.number m]]) := by
  obtain ⟨d, ds, split⟩ := List.exists_cons_of_ne_nil (Nat.toDigits_ne_nil : Nat.toDigits 10 m ≠ [])
  have lowered := toList_lower_append_repr p m
  rw [split] at lowered
  have kind (x : Char) (member : x ∈ d :: ds) : x ≠ '.' ∧ x ≠ '-' ∧ isDigit x = true := by
    have digit := Nat.isDigit_of_mem_toDigits (by decide) (by decide) (split ▸ member)
    refine ⟨?_, ?_, (asciiDigitEntry_of_isDigit digit).2.2.2.1⟩ <;> rintro rfl <;> simp at digit
  obtain ⟨s, item, scanned, flat, readItem, items⟩ :=
    VersionNumber.parse_last_run lowered ((getLast?_toList_lower ends).symm ▸ ends) kind read
  rw [← split] at readItem
  rw [runItem_toDigits readItem] at items
  exact ⟨s, scanned, flat, items⟩

theorem VersionNumber.parse_append_qualifier {p q : String} {u : VersionNumber} (nonempty : q ≠ "")
    (letters : ∀ c ∈ q.toList, c.isAlpha) (read : VersionNumber.parse (p ++ "-" ++ q) = .ok u) :
    ∃ s, ((lower p).toList ++ ['-']).foldlM Scan.step {} = .ok s ∧ s.Flat ∧ s.level = [] ∧
      u.items = nestLevels (s.levels ++ [[.word (canonicalWord (lower q) false)]]) := by
  have lowerLetters := toList_lower_of_letters letters
  obtain ⟨c, rest, split⟩ := List.exists_cons_of_ne_nil (by simpa [lowerLetters] using nonempty :
    (lower q).toList ≠ [])
  have lowered := toList_lower_append_hyphen p letters
  rw [split, ← List.singleton_append, ← List.append_assoc] at lowered
  have kind (x : Char) (member : x ∈ c :: rest) : x ≠ '.' ∧ x ≠ '-' ∧ isDigit x = false := by
    rw [← split, lowerLetters, List.mem_map] at member
    obtain ⟨y, original, rfl⟩ := member
    have ⟨_, dot, hyphen, digit⟩ := (asciiLetterEntry_of_isAlpha (letters y original)).1
    exact ⟨dot, hyphen, digit⟩
  have ends : ((lower p).toList ++ ['-']).getLast? = some '-' := List.getLast?_concat
  obtain ⟨s, item, scanned, flat, readItem, items⟩ :=
    VersionNumber.parse_last_run lowered (by simp [ends]) kind read
  have level := (Scan.foldlM_separated (by simp [ends]) scanned).2 ends
  cases readItem
  rw [level, List.nil_append, ← split, String.ofList_toList] at items
  exact ⟨s, scanned, flat, level, items⟩

/-! The order after a prefix. -/

/-- Whether reading `p` leaves open a nested level that already holds items, all of them null,
as `1-0.` does. -/
def leavesNullLevel (p : String) : Bool :=
  match (lower p).toList.foldlM Scan.step {} with
  | .ok s => !s.levels.isEmpty && !s.level.isEmpty && s.level.all Item.isNull
  | .error _ => false

/-- The documented order of qualifiers: alpha < beta < milestone < rc = cr < snapshot <
ga = final = release < sp, and after them every other word by its text. -/
def qualifierRank : String → Rank
  | "alpha" => .known 0
  | "beta" => .known 1
  | "milestone" => .known 2
  | "rc" | "cr" => .known 3
  | "snapshot" => .known 4
  | "ga" | "final" | "release" => .known 5
  | "sp" => .known 6
  | other => .unknown other

theorem Rank.ofWord_canonicalWord {w : String} (nonempty : w ≠ "") :
    Rank.ofWord (canonicalWord w false) = qualifierRank w := by
  unfold qualifierRank
  split
  any_goals rfl
  have notKnown : w ∉ knownQualifiers := by simp_all [knownQualifiers]
  simp_all [canonicalWord, Rank.ofWord, List.idxOf?_eq_none_iff.mpr notKnown]

theorem Item.isNull_word (w : String) : (Item.word w).isNull = true ↔ Rank.ofWord w = releaseRank := by
  simp [Item.isNull]

theorem Item.isNull_number_of_pos {k : Nat} (positive : 0 < k) : (Item.number k).isNull = false := by
  simp only [Item.isNull, beq_eq_false_iff_ne]
  omega

theorem compareItems_nestLevels_words {levels : List (List Item)} (levelsAtomic : ∀ l ∈ levels, Atomic l)
    (w1 w2 : String) :
    compareItems (nestLevels (levels ++ [[.word w1]])) (nestLevels (levels ++ [[.word w2]])) =
      (Rank.ofWord w1).compare (Rank.ofWord w2) := by
  have against (v w : String) : (Item.word v).compareTo (some (.word w)) = (Rank.ofWord v).compare (Rank.ofWord w) := by
    rw [Item.compareTo]
  have againstPadding (w : String) : (Item.word w).compareTo none = (Rank.ofWord w).compare releaseRank := by
    rw [Item.compareTo]
  have empty : Atomic [] := fun _ member => by simp at member
  have alone (w : String) : [Item.word w] = [] ++ [.word w] := rfl
  rw [alone w1, alone w2]
  cases first : (Item.word w1).isNull <;> cases second : (Item.word w2).isNull
  · rw [compareItems_nestLevels_solid levels [] first rfl second rfl, against]
  · rw [compareItems_swap, compareItems_nestLevels_null levelsAtomic empty second first rfl, if_neg (by simp),
      Ordering.swap_swap, againstPadding, (Item.isNull_word w2).mp second]
  · rw [compareItems_nestLevels_null levelsAtomic empty first second rfl, if_neg (by simp), againstPadding,
      (Item.isNull_word w1).mp first, ← Rank.compare_swap]
  · rw [nestLevels_snoc_nulls levels [] first second, compareItems_self, (Item.isNull_word w1).mp first,
      (Item.isNull_word w2).mp second, Rank.compare_self]

theorem VersionNumber.compare_append_numbers {p : String} {m n : Nat} {u v : VersionNumber}
    (ends : p.toList.getLast? ∈ [none, some '.', some '-']) (smaller : m < n)
    (readM : VersionNumber.parse (p ++ Nat.repr m) = .ok u)
    (readN : VersionNumber.parse (p ++ Nat.repr n) = .ok v) :
    u.compare v = if m = 0 ∧ leavesNullLevel p = true then .eq else .lt := by
  obtain ⟨s, scanned, flat, itemsU⟩ := VersionNumber.parse_append_repr ends readM
  obtain ⟨s', scanned', -, itemsV⟩ := VersionNumber.parse_append_repr ends readN
  rw [scanned] at scanned'
  cases scanned'
  have nullLevel : leavesNullLevel p = true ↔ s.levels ≠ [] ∧ s.level ≠ [] ∧ ∀ z ∈ s.level, z.isNull = true := by
    simp [leavesNullLevel, scanned, and_assoc]
  have solid := Item.isNull_number_of_pos (Nat.zero_lt_of_lt smaller)
  rw [VersionNumber.compare, itemsU, itemsV]
  by_cases zero : m = 0
  · subst zero
    have padding : (Item.number n).compareTo none = .gt := by
      rw [Item.compareTo, if_neg (by omega)]
    rw [compareItems_nestLevels_null flat.1 flat.2 rfl solid rfl, padding]
    by_cases opened : leavesNullLevel p = true
    · rw [if_pos (nullLevel.mp opened), if_pos ⟨rfl, opened⟩]
    · rw [if_neg (fun held => opened (nullLevel.mpr held)), if_neg (fun both => opened both.2)]
      rfl
  · rw [compareItems_nestLevels_solid s.levels s.level (Item.isNull_number_of_pos (Nat.pos_of_ne_zero zero)) rfl
      solid rfl, if_neg (fun both => zero both.1),
      Item.compareTo]
    exact Nat.compare_eq_lt.mpr smaller

theorem VersionNumber.compare_append_qualifiers {p q1 q2 : String} {u v : VersionNumber}
    (nonempty1 : q1 ≠ "") (nonempty2 : q2 ≠ "") (letters1 : ∀ c ∈ q1.toList, c.isAlpha)
    (letters2 : ∀ c ∈ q2.toList, c.isAlpha) (read1 : VersionNumber.parse (p ++ "-" ++ q1) = .ok u)
    (read2 : VersionNumber.parse (p ++ "-" ++ q2) = .ok v) :
    u.compare v = (qualifierRank (lower q1)).compare (qualifierRank (lower q2)) := by
  have lowered {q : String} (nonempty : q ≠ "") (letters : ∀ c ∈ q.toList, c.isAlpha) : lower q ≠ "" := by
    intro empty
    have chars := congrArg String.toList empty
    rw [toList_lower_of_letters letters] at chars
    exact nonempty (by simpa using chars)
  obtain ⟨s, scanned, flat, -, itemsU⟩ := VersionNumber.parse_append_qualifier nonempty1 letters1 read1
  obtain ⟨s', scanned', -, -, itemsV⟩ := VersionNumber.parse_append_qualifier nonempty2 letters2 read2
  rw [scanned] at scanned'
  cases scanned'
  rw [VersionNumber.compare, itemsU, itemsV, compareItems_nestLevels_words flat.1,
    Rank.ofWord_canonicalWord (lowered nonempty1 letters1), Rank.ofWord_canonicalWord (lowered nonempty2 letters2)]

/-- The documented order after every prefix: a larger last number after a separator makes a
larger version unless the prefix leaves open a nested level of null items and the smaller number
is zero, and a qualifier after a hyphen orders versions as the documented qualifier order does. -/
theorem VersionNumber.compare_after_prefix (p : String) :
    (∀ (m n : Nat) (u v : VersionNumber), p.toList.getLast? ∈ [none, some '.', some '-'] → m < n →
      VersionNumber.parse (p ++ Nat.repr m) = .ok u → VersionNumber.parse (p ++ Nat.repr n) = .ok v →
      u.compare v = if m = 0 ∧ leavesNullLevel p = true then .eq else .lt) ∧
    ∀ (q1 q2 : String) (u v : VersionNumber), q1 ≠ "" → q2 ≠ "" → (∀ c ∈ q1.toList, c.isAlpha) →
      (∀ c ∈ q2.toList, c.isAlpha) → VersionNumber.parse (p ++ "-" ++ q1) = .ok u →
      VersionNumber.parse (p ++ "-" ++ q2) = .ok v →
      u.compare v = (qualifierRank (lower q1)).compare (qualifierRank (lower q2)) :=
  ⟨fun _ _ _ _ ends smaller readM readN => VersionNumber.compare_append_numbers ends smaller readM readN,
    fun _ _ _ _ nonempty1 nonempty2 letters1 letters2 read1 read2 =>
      VersionNumber.compare_append_qualifiers nonempty1 nonempty2 letters1 letters2 read1 read2⟩

theorem compare_after_prefix_cases :
    VersionNumber.compare ⟨"1.1", [.number 1, .number 1]⟩ ⟨"1.2", [.number 1, .number 2]⟩ = .lt ∧
      VersionNumber.compare ⟨"1-0.0", [.number 1]⟩ ⟨"1-0.1", [.number 1, .sub [.number 0, .number 1]]⟩ = .eq ∧
      VersionNumber.compare ⟨"1.0-alpha", [.number 1, .sub [.word "alpha"]]⟩
        ⟨"1.0-Beta", [.number 1, .sub [.word "beta"]]⟩ = .lt := by
  refine ⟨?_, ?_, ?_⟩
  · rw [(VersionNumber.compare_after_prefix "1.").1 1 2 ⟨"1.1", [.number 1, .number 1]⟩
      ⟨"1.2", [.number 1, .number 2]⟩ (by decide) (by decide) rfl rfl]
    rfl
  · rw [(VersionNumber.compare_after_prefix "1-0.").1 0 1 ⟨"1-0.0", [.number 1]⟩
      ⟨"1-0.1", [.number 1, .sub [.number 0, .number 1]]⟩ (by decide) (by decide) rfl rfl]
    rw [if_pos ⟨rfl, by decide +kernel⟩]
  · rw [(VersionNumber.compare_after_prefix "1.0").2 "alpha" "Beta" ⟨"1.0-alpha", [.number 1, .sub [.word "alpha"]]⟩
      ⟨"1.0-Beta", [.number 1, .sub [.word "beta"]]⟩ (by decide) (by decide) (List.all_eq_true.mp (by decide))
      (List.all_eq_true.mp (by decide)) rfl rfl]
    decide +kernel

/-- A numeral after a prefix that leaves a level of nulls open is not always ordered by its
value: the zero after `1-0.` is dropped as a trailing null, and the versions compare equal. -/
theorem zero_after_null_level_ties :
    ∃ u v, VersionNumber.parse "1-0.0" = .ok u ∧ VersionNumber.parse "1-0.1" = .ok v ∧ u.compare v = .eq :=
  ⟨⟨"1-0.0", [.number 1]⟩, ⟨"1-0.1", [.number 1, .sub [.number 0, .number 1]]⟩, rfl, rfl, by decide +kernel⟩

end PluginPack.Version
