import Mathlib.Data.List.Basic
import PluginPack.Text.Case
import PluginPack.Text.Digit

/-! Lowering text piece by piece. Only capital sigma looks at its neighbours, and only past
case-ignorable characters, for a cased one; a character that is neither ends that search. So
the lower case of a text splits at such a character, and a text without capital sigma lowers
character by character. The tables send the ASCII digits and the hyphen to themselves and an
ASCII letter to its ASCII lower case. -/

namespace PluginPack.Text

section Splitting

variable {ys : List Char} (uncased : (ys.dropWhile isCaseIgnorable).head?.any isCased = false)
include uncased

theorem any_cased_dropWhile_append (xs : List Char) :
    ((xs ++ ys).dropWhile isCaseIgnorable).head?.any isCased =
      (xs.dropWhile isCaseIgnorable).head?.any isCased := by
  induction xs with
  | nil => simpa using uncased
  | cons x xs ih =>
    by_cases skipped : isCaseIgnorable x = true
    · rw [List.cons_append, List.dropWhile_cons_of_pos skipped, List.dropWhile_cons_of_pos skipped, ih]
    · rw [List.cons_append, List.dropWhile_cons_of_neg skipped, List.dropWhile_cons_of_neg skipped]
      rfl

theorem sigmaIsFinal_append (before xs : List Char) :
    sigmaIsFinal before (xs ++ ys) = sigmaIsFinal before xs := by
  rw [sigmaIsFinal, sigmaIsFinal, any_cased_dropWhile_append uncased]

theorem lowerFrom_append : ∀ (before xs : List Char),
    lowerFrom before (xs ++ ys) = lowerFrom before xs ++ lowerFrom (xs.reverse ++ before) ys
  | _, [] => rfl
  | before, x :: xs => by
    rw [List.cons_append, lowerFrom, lowerFrom, sigmaIsFinal_append uncased,
      lowerFrom_append (x :: before) xs, List.append_assoc, List.reverse_cons, List.append_assoc,
      List.singleton_append]

end Splitting

theorem lowerFrom_append_break {c : Char} (ignorable : isCaseIgnorable c = false) (cased : isCased c = false)
    (ys before xs : List Char) :
    lowerFrom before (xs ++ c :: ys) = lowerFrom before xs ++ lowerFrom (xs.reverse ++ before) (c :: ys) :=
  lowerFrom_append (by simp [List.dropWhile, ignorable, cased]) before xs

theorem lowerFrom_eq_map {f : Char → Char} : ∀ {before cs : List Char},
    (∀ c ∈ cs, c.toNat ≠ 0x3A3 ∧ lowerChar c = [f c]) → lowerFrom before cs = cs.map f
  | _, [], _ => rfl
  | before, c :: cs, plain => by
    have ⟨notSigma, lowered⟩ := plain c List.mem_cons_self
    rw [lowerFrom, List.map_cons, lowerFrom_eq_map fun x member => plain x (List.mem_cons_of_mem c member)]
    simp [notSigma, lowered]

theorem lowerFrom_snoc {c : Char} (notSigma : c.toNat ≠ 0x3A3) : ∀ (before xs : List Char),
    ∃ front, lowerFrom before (xs ++ [c]) = front ++ lowerChar c
  | before, [] => ⟨[], by simp [lowerFrom, notSigma]⟩
  | before, x :: xs => by
    obtain ⟨front, split⟩ := lowerFrom_snoc notSigma (x :: before) xs
    rw [List.cons_append, lowerFrom, split, ← List.append_assoc]
    exact ⟨_, rfl⟩

/-! The tables on ASCII characters, checked code point by code point. -/

theorem forall_char_between {P : Char → Prop} (lo count : Nat) (each : ∀ n < count, P (Char.ofNat (lo + n)))
    {c : Char} (low : lo ≤ c.toNat) (high : c.toNat < lo + count) : P c := by
  have entry := each (c.toNat - lo) (by omega)
  rwa [Nat.add_sub_cancel' low, Char.ofNat_toNat] at entry

/-- What the tables say of an ASCII digit. -/
def AsciiDigitEntry (c : Char) : Prop :=
  isCaseIgnorable c = false ∧ isCased c = false ∧ lowerChar c = [c] ∧ isDigit c = true ∧
    decimalValue? c = some (c.toNat - 48)

theorem asciiDigitEntry_of_isDigit {c : Char} (digit : c.isDigit) : AsciiDigitEntry c := by
  have range := Char.isDigit_iff_toNat.mp digit
  exact forall_char_between 48 10 (by unfold AsciiDigitEntry; decide +kernel) (by simpa using range.1)
    (by simp at range; omega)

def AsciiLetterEntry (c : Char) : Prop :=
  lowerChar c = [c.toLower] ∧ c.toLower ≠ '.' ∧ c.toLower ≠ '-' ∧ isDigit c.toLower = false

theorem asciiLetterEntry_of_isAlpha {c : Char} (letter : c.isAlpha) : AsciiLetterEntry c ∧ c.toNat < 128 := by
  have range : (65 ≤ c.toNat ∧ c.toNat < 65 + 26) ∨ (97 ≤ c.toNat ∧ c.toNat < 97 + 26) := by
    change ((c.val ≥ 'A'.val ∧ c.val ≤ 'Z'.val : Bool) || (c.val ≥ 'a'.val && c.val ≤ 'z'.val)) = true at letter
    simp [UInt32.le_iff_toNat_le] at letter
    omega
  rcases range with upper | lower
  · exact ⟨forall_char_between 65 26 (by unfold AsciiLetterEntry; decide +kernel) upper.1 upper.2, by omega⟩
  · exact ⟨forall_char_between 97 26 (by unfold AsciiLetterEntry; decide +kernel) lower.1 lower.2, by omega⟩

/-! Lowering the texts that versions are built from. -/

theorem lower_letters {q : String} (letters : ∀ c ∈ q.toList, c.isAlpha) (before : List Char) :
    lowerFrom before q.toList = q.toList.map Char.toLower :=
  lowerFrom_eq_map fun c member =>
    have ⟨entry, ascii⟩ := asciiLetterEntry_of_isAlpha (letters c member)
    ⟨by omega, entry.1⟩

theorem toList_lower (s : String) : (lower s).toList = lowerFrom [] s.toList := by
  rw [lower, String.toList_ofList]

theorem toList_lower_of_letters {q : String} (letters : ∀ c ∈ q.toList, c.isAlpha) :
    (lower q).toList = q.toList.map Char.toLower := by
  rw [toList_lower, lower_letters letters]

theorem toList_lower_append_repr (p : String) (m : Nat) :
    (lower (p ++ Nat.repr m)).toList = (lower p).toList ++ Nat.toDigits 10 m := by
  have digit (c : Char) (member : c ∈ Nat.toDigits 10 m) : c.isDigit :=
    Nat.isDigit_of_mem_toDigits (by decide) (by decide) member
  have entry (c : Char) (member : c ∈ Nat.toDigits 10 m) : AsciiDigitEntry c :=
    asciiDigitEntry_of_isDigit (digit c member)
  have plain (c : Char) (member : c ∈ Nat.toDigits 10 m) : c.toNat ≠ 0x3A3 ∧ lowerChar c = [id c] := by
    have range := Char.isDigit_iff_toNat.mp (digit c member)
    simp only [Char.reduceToNat] at range
    exact ⟨by omega, (entry c member).2.2.1⟩
  have digits : lowerFrom p.toList.reverse (Nat.toDigits 10 m) = Nat.toDigits 10 m := by
    rw [lowerFrom_eq_map plain, List.map_id]
  obtain ⟨d, ds, split⟩ := List.exists_cons_of_ne_nil (Nat.toDigits_ne_nil : Nat.toDigits 10 m ≠ [])
  have first := entry d (split ▸ List.mem_cons_self)
  rw [toList_lower, toList_lower, String.toList_append, Nat.toList_repr, split,
    lowerFrom_append_break first.1 first.2.1, ← split, List.append_nil, digits]

theorem toList_lower_append_hyphen {q : String} (p : String) (letters : ∀ c ∈ q.toList, c.isAlpha) :
    (lower (p ++ "-" ++ q)).toList = (lower p).toList ++ '-' :: (lower q).toList := by
  have hyphen : isCaseIgnorable '-' = false ∧ isCased '-' = false ∧ lowerChar '-' = ['-'] := by decide +kernel
  rw [toList_lower, toList_lower, toList_lower, String.toList_append, String.toList_append,
    List.append_assoc, show "-".toList = ['-'] from rfl, List.singleton_append,
    lowerFrom_append_break hyphen.1 hyphen.2.1, lowerFrom, lower_letters letters, lower_letters letters]
  simp [hyphen.2.2]

theorem toList_lower_append_zero {suffix : String} (zero : suffix = ".0" ∨ suffix = "-0") (v : String) :
    (lower (v ++ suffix)).toList = (lower v).toList ++ suffix.toList := by
  -- the full stop is case-ignorable, so the split is made before the tail as a whole
  have uncased : (suffix.toList.dropWhile isCaseIgnorable).head?.any isCased = false := by
    rcases zero with rfl | rfl <;> decide +kernel
  have plain : lowerFrom v.toList.reverse suffix.toList = suffix.toList := by
    rcases zero with rfl | rfl <;> simp [lowerFrom, show lowerChar '0' = ['0'] by decide +kernel,
      show lowerChar '.' = ['.'] by decide +kernel, show lowerChar '-' = ['-'] by decide +kernel]
  rw [toList_lower, toList_lower, String.toList_append, lowerFrom_append uncased, List.append_nil, plain]

theorem getLast?_toList_lower {p : String} (ends : p.toList.getLast? ∈ [none, some '.', some '-']) :
    (lower p).toList.getLast? = p.toList.getLast? := by
  rw [toList_lower]
  rcases List.eq_nil_or_concat p.toList with empty | ⟨front, last, split⟩
  · rw [empty]
    rfl
  · rw [split, List.concat_eq_append, List.getLast?_concat] at ends ⊢
    have plain : last.toNat ≠ 0x3A3 ∧ lowerChar last = [last] := by
      simp only [List.mem_cons, Option.some.injEq, reduceCtorEq, List.not_mem_nil, or_false,
        false_or] at ends
      rcases ends with rfl | rfl <;> decide
    obtain ⟨lowered, split'⟩ := lowerFrom_snoc plain.1 [] front
    rw [split', plain.2, List.getLast?_concat]

end PluginPack.Text
