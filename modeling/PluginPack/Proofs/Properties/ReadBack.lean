import Mathlib.Data.List.Induction
import PluginPack.Properties.Basic
import PluginPack.Proofs.Manifest.RoundTrip

/-! Reading back a written properties text. Escaping writes each character of a key or value
as itself or as a backslash and a letter that reads back as it; it never writes a `\u`, never
ends a key early, and leaves no odd run of backslashes at the end of a line. So the text
written for entries whose keys and values hold no line break, and whose keys start with no
blank that writing leaves bare, parses to those entries in their order, under any comment
line that holds no break and any time of writing. -/

namespace PluginPack.Text

theorem isSurrogate_toNat (c : Char) : isSurrogate c.toNat = false := by
  have scalar : c.toNat < 0xd800 ∨ (0xdfff < c.toNat ∧ c.toNat < 0x110000) := c.valid
  simp only [isSurrogate, Bool.and_eq_false_iff, decide_eq_false_iff_not, Nat.not_le, Nat.not_lt]
  omega

theorem toNat_ofNat_of_isValidChar {p : Nat} (valid : p.isValidChar) : (Char.ofNat p).toNat = p :=
  calc (Char.ofNat p).toNat = (Char.ofNatAux p valid).toNat := congrArg Char.toNat (dif_pos valid)
    _ = p := rfl

theorem toNat_ofNat_of_not_isValidChar {p : Nat} (invalid : ¬ p.isValidChar) : (Char.ofNat p).toNat = 0 := by
  simp [Char.ofNat, invalid, Char.toNat]

theorem toNat_lt (c : Char) : c.toNat < 0x110000 := by
  have scalar : c.toNat < 0xd800 ∨ (0xdfff < c.toNat ∧ c.toNat < 0x110000) := c.valid
  omega

theorem surrogate_or_char {p : Nat} (inRange : p < 0x110000) :
    (isSurrogate p = true ∧ 0xD800 ≤ p ∧ p < 0xE000) ∨ ∃ c : Char, c.toNat = p := by
  by_cases surrogate : isSurrogate p = true
  · refine .inl ⟨surrogate, ?_⟩
    simpa [isSurrogate] using surrogate
  · have valid : p.isValidChar := by
      simp only [isSurrogate, Bool.and_eq_true, decide_eq_true_eq, not_and, Nat.not_lt] at surrogate
      simp only [Nat.isValidChar]
      omega
    exact .inr ⟨Char.ofNat p, toNat_ofNat_of_isValidChar valid⟩

theorem CodePoints.toString?_ofString (s : String) : (CodePoints.ofString s).toString? = some s := by
  simp [CodePoints.toString?, CodePoints.charsOf, CodePoints.ofString, Function.comp_def, isSurrogate_toNat]

theorem CodePoints.ofString_injective : Function.Injective CodePoints.ofString := by
  intro s t same
  simp only [CodePoints.ofString, CodePoints.mk.injEq] at same
  exact String.toList_inj.mp (List.map_injective_iff.mpr (fun a b h => Char.toNat_inj.mp h) same)

@[simp] theorem CodePoints.points_append (a b : CodePoints) : (a ++ b).points = a.points ++ b.points := rfl

theorem CodePoints.encode_chars (cs : List Char) : (CodePoints.mk (cs.map Char.toNat)).encode = .ok (String.ofList cs) := by
  have clean : (cs.map Char.toNat).findIdx? isSurrogate = none :=
    List.findIdx?_eq_none_iff.mpr fun p member => by
      obtain ⟨c, _, rfl⟩ := List.mem_map.mp member
      exact isSurrogate_toNat c
  simp [CodePoints.encode, clean, CodePoints.charsOf, Function.comp_def]

theorem linesOf_unbroken {line : List Char} (unbroken : ∀ c ∈ line, isLineBreak c = false) (rest : List Char) :
    ∀ acc, linesOf (line ++ rest) acc = linesOf rest (line.reverse ++ acc) := by
  induction line with
  | nil => simp
  | cons c line ih =>
    intro acc
    have plain : isLineBreak c = false := unbroken c List.mem_cons_self
    have notReturn : c ≠ '\r' := by
      rintro rfl
      simp [isLineBreak] at plain
    rw [List.cons_append, linesOf.eq_3 _ _ _ (fun _ same _ => notReturn same), plain, if_neg Bool.false_ne_true,
      ih (fun d member => unbroken d (List.mem_cons_of_mem _ member))]
    simp

theorem linesOf_flatMap_newline {ls : List (List Char)} (unbroken : ∀ l ∈ ls, ∀ c ∈ l, isLineBreak c = false) :
    linesOf (ls.flatMap (· ++ ['\n'])) [] = ls.map String.ofList := by
  induction ls with
  | nil => simp [linesOf]
  | cons l ls ih =>
    rw [List.flatMap_cons, List.append_assoc, List.singleton_append,
      linesOf_unbroken (unbroken l List.mem_cons_self),
      linesOf.eq_3 _ _ _ (fun _ same _ => absurd same (by decide)),
      if_pos (by decide), ih fun l' member => unbroken l' (List.mem_cons_of_mem _ member)]
    simp

end PluginPack.Text

namespace PluginPack.Text

def Unbroken (s : String) : Prop := ∀ c ∈ s.toList, isLineBreak c = false

instance (s : String) : Decidable (Unbroken s) :=
  decidable_of_iff (s.toList.all fun c => !isLineBreak c) (by simp [Unbroken])

@[simp] theorem unbroken_append {a b : String} : Unbroken (a ++ b) ↔ Unbroken a ∧ Unbroken b := by
  simp only [Unbroken, String.toList_append, List.mem_append]
  exact ⟨fun both => ⟨fun c member => both c (.inl member), fun c member => both c (.inr member)⟩,
    fun both c member => member.elim (both.1 c) (both.2 c)⟩

end PluginPack.Text

namespace PluginPack.Time

open PluginPack.Text

theorem toString_unbroken (n : Nat) : Unbroken (toString n) := by
  intro c member
  rw [Nat.toString_eq_repr, Nat.toList_repr] at member
  have digit := Nat.isDigit_of_mem_toDigits (by decide) (by decide) member
  simp only [Char.isDigit, Bool.and_eq_true, decide_eq_true_eq] at digit
  have code : 48 ≤ c.toNat ∧ c.toNat ≤ 57 := digit
  simp only [isLineBreak, Bool.or_eq_false_iff, Bool.and_eq_false_iff, decide_eq_false_iff_not, Nat.not_le,
    beq_eq_false_iff_ne, ne_eq]
  omega

theorem padded_unbroken (width n : Nat) : Unbroken (padded width n) := by
  intro c member
  simp only [padded, String.toList_append, String.toList_ofList, List.mem_append, List.mem_replicate] at member
  rcases member with ⟨-, rfl⟩ | digit
  · decide
  · exact toString_unbroken n c digit

theorem getD_unbroken {names : List String} (plain : ∀ s ∈ names, Unbroken s) (i : Nat) :
    Unbroken (names.getD i "") := by
  rw [List.getD_eq_getElem?_getD]
  cases found : names[i]? with
  | none => simp [Unbroken]
  | some s => exact plain s (List.mem_of_getElem? found)

theorem longForm_unbroken (t : Stamp) : Unbroken t.longForm := by
  have weekdays : ∀ s ∈ weekdayNames, Unbroken s := by decide
  have months : ∀ s ∈ monthNames, Unbroken s := by decide
  have space : Unbroken " " := by decide
  have colon : Unbroken ":" := by decide
  simp only [Stamp.longForm, unbroken_append]
  exact ⟨⟨⟨⟨⟨⟨⟨⟨⟨⟨⟨⟨getD_unbroken weekdays _, space⟩, getD_unbroken months _⟩, space⟩, padded_unbroken _ _⟩, space⟩,
    padded_unbroken _ _⟩, colon⟩, padded_unbroken _ _⟩, colon⟩, padded_unbroken _ _⟩, space⟩, toString_unbroken _⟩

end PluginPack.Time

namespace PluginPack.Properties

open PluginPack.Text

def Written (unit : List Char) (c : Char) : Prop :=
  (∃ x, unit = ['\\', x] ∧ x ≠ 'u' ∧ unescapeLetter x.toNat = c.toNat) ∨ (unit = [c] ∧ c ≠ '\\')

theorem escapeChar_written (c : Char) :
    Written (escapeChar c) c ∧ (escapeChar c = [c] → c ≠ '=' ∧ c ≠ ':' ∧ c ≠ '#' ∧ c ≠ '!' ∧ c ≠ '\t') := by
  unfold escapeChar
  split <;> simp_all [Written, unescapeLetter]

def escapeKeyChar (c : Char) : List Char := if c = ' ' then ['\\', ' '] else escapeChar c

theorem escapeKeyChar_written (c : Char) :
    Written (escapeKeyChar c) c ∧
      (escapeKeyChar c = [c] → c ≠ '=' ∧ c ≠ ':' ∧ c ≠ ' ' ∧ c ≠ '\t' ∧ c ≠ '#' ∧ c ≠ '!') := by
  unfold escapeKeyChar
  split
  · subst c
    simp [Written, unescapeLetter]
  · rename_i notSpace
    obtain ⟨written, plain⟩ := escapeChar_written c
    refine ⟨written, fun same => ?_⟩
    obtain ⟨notEq, notColon, notHash, notBang, notTab⟩ := plain same
    exact ⟨notEq, notColon, notSpace, notTab, notHash, notBang⟩

/-- The characters written for a value, where only a leading space is escaped. -/
def escapeValueChars (v : List Char) : List Char :=
  match v.flatMap escapeChar with
  | ' ' :: rest => '\\' :: ' ' :: rest
  | cs => cs

theorem escapeValueChars_eq (v : List Char) :
    escapeValueChars v = match v with
      | ' ' :: rest => '\\' :: ' ' :: rest.flatMap escapeChar
      | _ => v.flatMap escapeChar := by
  unfold escapeValueChars
  cases v with
  | nil => rfl
  | cons c rest =>
    by_cases space : c = ' '
    · subst space
      rfl
    · obtain ⟨d, ds, unit, notSpace⟩ : ∃ d ds, escapeChar c = d :: ds ∧ d ≠ ' ' := by
        rcases (escapeChar_written c).1 with ⟨x, unit, -, -⟩ | ⟨unit, -⟩
        · exact ⟨'\\', [x], unit, by decide⟩
        · exact ⟨c, [], unit, space⟩
      rw [List.flatMap_cons, unit, List.cons_append]
      split
      · rename_i same
        exact absurd (List.cons.inj same).1 notSpace
      · split
        · rename_i same
          exact absurd (List.cons.inj same).1 space
        · rfl

theorem trailing_flatMap_escapeChar {l : List Char} (last : ∀ c ∈ l.reverse.head?, c ≠ '\\') (cs : List Char) :
    ((l ++ cs.flatMap escapeChar).reverse.takeWhile (· == '\\')).length % 2 = 0 := by
  induction cs using List.reverseRecOn with
  | nil =>
    cases reversed : l.reverse with
    | nil => simp [reversed]
    | cons d ds =>
      have : d ≠ '\\' := last d (by simp [reversed])
      simp [reversed, this]
  | append_singleton cs c ih =>
    rw [List.flatMap_append, List.flatMap_singleton, ← List.append_assoc, List.reverse_append]
    by_cases backslash : c = '\\'
    · subst backslash
      simp only [escapeChar, List.reverse_cons, List.reverse_nil, List.nil_append, List.cons_append,
        List.takeWhile_cons, beq_self_eq_true, if_true, List.length_cons]
      omega
    · obtain ⟨d, ds, unit, notBackslash⟩ : ∃ d ds, (escapeChar c).reverse = d :: ds ∧ d ≠ '\\' := by
        rcases (escapeChar_written c).1 with ⟨x, unit, -, letter⟩ | ⟨unit, -⟩
        · refine ⟨x, ['\\'], by simp [unit], fun same => backslash ?_⟩
          rw [same] at letter
          exact Char.toNat_inj.mp (letter.symm.trans (by decide))
        · exact ⟨c, [], by simp [unit], backslash⟩
      simp [unit, notBackslash]

def entryChars (k v : String) : List Char :=
  k.toList.flatMap escapeKeyChar ++ '=' :: escapeValueChars v.toList

/-- An entry that a properties text carries exactly: neither key nor value holds a line
break, and the key does not start with a blank that writing leaves unescaped, which reading
would drop with the line's indentation. -/
structure Carried (k v : String) : Prop where
  keyUnbroken : Unbroken k
  valueUnbroken : Unbroken v
  keyStart : ∀ c ∈ k.toList.head?, isBlank c = true → c = ' ' ∨ c = '\t'

theorem entryChars_head {k v : String} (carried : Carried k v) :
    ∃ c rest, entryChars k v = c :: rest ∧ isBlank c = false ∧ c ≠ '#' ∧ c ≠ '!' := by
  unfold entryChars
  cases key : k.toList with
  | nil => exact ⟨'=', _, rfl, by decide, by decide, by decide⟩
  | cons c ks =>
    rw [List.flatMap_cons]
    rcases escapeKeyChar_written c with ⟨⟨x, unit, -, -⟩ | ⟨unit, -⟩, plain⟩
    · exact ⟨'\\', _, by rw [unit]; rfl, by decide, by decide, by decide⟩
    · obtain ⟨-, -, notSpace, notTab, notHash, notBang⟩ := plain unit
      have start := carried.keyStart c (by simp [key])
      refine ⟨c, _, by rw [unit]; rfl, ?_, notHash, notBang⟩
      cases blank : isBlank c
      · rfl
      · rcases start blank with space | tab
        exacts [absurd space notSpace, absurd tab notTab]

theorem trailingBackslashes_entryChars (k v : String) :
    trailingBackslashes (String.ofList (entryChars k v)) % 2 = 0 := by
  rw [trailingBackslashes, String.toList_ofList, entryChars, escapeValueChars_eq]
  split
  · rename_i rest _
    rw [show k.toList.flatMap escapeKeyChar ++ '=' :: '\\' :: ' ' :: List.flatMap escapeChar rest =
      (k.toList.flatMap escapeKeyChar ++ ['=', '\\', ' ']) ++ List.flatMap escapeChar rest by simp]
    exact trailing_flatMap_escapeChar (by simp) _
  · rw [show k.toList.flatMap escapeKeyChar ++ '=' :: List.flatMap escapeChar v.toList =
      (k.toList.flatMap escapeKeyChar ++ ['=']) ++ List.flatMap escapeChar v.toList by simp]
    exact trailing_flatMap_escapeChar (by simp) _

/-! The one-line codec on code points, as a Python string holds them: a surrogate on its own too.
Escaping writes each code point as itself or as a backslash and a letter that reads back as it,
never as a `\u`, and leaves in a key as itself no code point that ends a key; so splitting the
line `key=value` written from a key and a value gives them back. -/

theorem escapePoint_toNat (c : Char) : escapePoint c.toNat = (escapeChar c).map Char.toNat := by
  simp [escapePoint, isSurrogate_toNat]

def WrittenPoint (unit : List Nat) (p : Nat) : Prop :=
  (∃ x, unit = [0x5C, x] ∧ x ≠ 0x75 ∧ unescapeLetter x = p) ∨ (unit = [p] ∧ p ≠ 0x5C)

theorem Written.point {unit : List Char} {c : Char} (written : Written unit c) :
    WrittenPoint (unit.map Char.toNat) c.toNat := by
  rcases written with ⟨x, rfl, notU, letter⟩ | ⟨rfl, notBackslash⟩
  · exact .inl ⟨x.toNat, rfl, fun same => notU (Char.toNat_inj.mp same), letter⟩
  · exact .inr ⟨rfl, fun same => notBackslash (Char.toNat_inj.mp same)⟩

theorem isSpaceOrTab_ofNat (p : Nat) : isSpaceOrTab (Char.ofNat p) = (p == 0x20 || p == 0x09) := by
  by_cases space : p = 0x20
  · subst space
    decide
  by_cases tab : p = 0x09
  · subst tab
    decide
  have toNat : (Char.ofNat p).toNat ≠ 0x20 ∧ (Char.ofNat p).toNat ≠ 0x09 := by
    by_cases valid : p.isValidChar
    · rw [toNat_ofNat_of_isValidChar valid]
      exact ⟨space, tab⟩
    · rw [toNat_ofNat_of_not_isValidChar valid]
      decide
  have notSpace : Char.ofNat p ≠ ' ' := fun same => toNat.1 (by rw [same]; rfl)
  have notTab : Char.ofNat p ≠ '\t' := fun same => toNat.2 (by rw [same]; rfl)
  unfold isSpaceOrTab
  rw [beq_false_of_ne notSpace, beq_false_of_ne notTab, beq_false_of_ne space, beq_false_of_ne tab]

theorem escapePoint_written {p : Nat} (inRange : p < 0x110000) :
    WrittenPoint (escapePoint p) p ∧ (escapePoint p = [p] → p ≠ 0x3D ∧ p ≠ 0x3A ∧ p ≠ 0x09) := by
  rcases surrogate_or_char inRange with ⟨surrogate, low, high⟩ | ⟨c, rfl⟩
  · have alone : escapePoint p = [p] := by simp [escapePoint, surrogate]
    rw [alone]
    exact ⟨.inr ⟨rfl, by omega⟩, fun _ => by omega⟩
  · obtain ⟨written, plain⟩ := escapeChar_written c
    rw [escapePoint_toNat]
    refine ⟨written.point, fun same => ?_⟩
    have unit : escapeChar c = [c] :=
      List.map_injective_iff.mpr (fun a b h => Char.toNat_inj.mp h) same
    obtain ⟨notEq, notColon, -, -, notTab⟩ := plain unit
    exact ⟨fun h => notEq (Char.toNat_inj.mp h), fun h => notColon (Char.toNat_inj.mp h),
      fun h => notTab (Char.toNat_inj.mp h)⟩

theorem escapeKeyPoint_written {p : Nat} (inRange : p < 0x110000) :
    WrittenPoint (escapeKeyPoint p) p ∧
      (escapeKeyPoint p = [p] → (p == '='.toNat || p == ':'.toNat || isSpaceOrTab (Char.ofNat p)) = false) := by
  unfold escapeKeyPoint
  split
  · rename_i space
    rw [beq_iff_eq.mp space]
    exact ⟨.inl ⟨0x20, rfl, by decide, by decide⟩, fun same => absurd same (by decide)⟩
  · rename_i notSpace
    obtain ⟨written, plain⟩ := escapePoint_written inRange
    refine ⟨written, fun same => ?_⟩
    obtain ⟨notEq, notColon, notTab⟩ := plain same
    have notSpace' : p ≠ 0x20 := fun h => notSpace (beq_iff_eq.mpr h)
    rw [isSpaceOrTab_ofNat]
    simp [notEq, notColon, notTab, notSpace']

theorem unescapePoints_flatMap {f : Nat → List Nat} :
    ∀ {ps : List Nat}, (∀ p ∈ ps, WrittenPoint (f p) p) → unescapePoints (ps.flatMap f) = .ok ps
  | [], _ => rfl
  | p :: ps, written => by
    have rest := unescapePoints_flatMap fun q member => written q (List.mem_cons_of_mem _ member)
    rw [List.flatMap_cons]
    rcases written p List.mem_cons_self with ⟨x, unit, notU, letter⟩ | ⟨unit, notBackslash⟩
    · rw [unit, List.cons_append, List.cons_append, List.nil_append,
        unescapePoints.eq_3 _ _ fun _ _ _ _ _ same _ => notU same, rest, letter]
      rfl
    · rw [unit, List.cons_append, List.nil_append,
        unescapePoints.eq_4 _ _ (fun _ _ _ _ _ same _ => notBackslash same) (fun _ _ same _ => notBackslash same), rest]
      rfl

theorem splitKey_escapeKeyPoints (rest : List Nat) :
    ∀ k : List Nat, (∀ p ∈ k, p < 0x110000) →
      splitKey (k.flatMap escapeKeyPoint ++ 0x3D :: rest) = (k.flatMap escapeKeyPoint, 0x3D :: rest)
  | [], _ => by
    rw [List.flatMap_nil, List.nil_append, splitKey.eq_3 _ _ fun _ _ same _ => absurd same (by decide)]
    rfl
  | p :: k, inRange => by
    have later := splitKey_escapeKeyPoints rest k fun q member => inRange q (List.mem_cons_of_mem _ member)
    obtain ⟨written, plain⟩ := escapeKeyPoint_written (inRange p List.mem_cons_self)
    rw [List.flatMap_cons, List.append_assoc]
    rcases written with ⟨x, unit, -, -⟩ | ⟨unit, notBackslash⟩
    · rw [unit, List.cons_append, List.cons_append, List.nil_append, splitKey.eq_2, later]
      rfl
    · rw [unit, List.cons_append, List.nil_append, splitKey.eq_3 _ _ fun _ _ same _ => notBackslash same,
        plain unit, later]
      rfl

theorem escapeValue_points {v : CodePoints} (inRange : ∀ p ∈ v.points, p < 0x110000) :
    (escapeValue v).points = match v.points with
      | 0x20 :: rest => 0x5C :: 0x20 :: rest.flatMap escapePoint
      | ps => ps.flatMap escapePoint := by
  unfold escapeValue
  cases points : v.points with
  | nil => rfl
  | cons p rest =>
    by_cases space : p = 0x20
    · subst space
      rfl
    · obtain ⟨d, ds, unit, notSpace⟩ : ∃ d ds, escapePoint p = d :: ds ∧ d ≠ 0x20 := by
        rcases (escapePoint_written (inRange p (by simp [points]))).1 with ⟨x, unit, -, -⟩ | ⟨unit, -⟩
        · exact ⟨0x5C, [x], unit, by decide⟩
        · exact ⟨p, [], unit, space⟩
      rw [List.flatMap_cons, unit, List.cons_append]
      split
      · rename_i same
        exact absurd (List.cons.inj same).1 notSpace
      · split
        · rename_i same
          exact absurd (List.cons.inj same).1 space
        · rw [List.flatMap_cons, unit, List.cons_append]

theorem escapeValue_head {v : CodePoints} (inRange : ∀ p ∈ v.points, p < 0x110000) :
    ∀ q ∈ (escapeValue v).points.head?, isSpaceOrTab (Char.ofNat q) = false := by
  rw [escapeValue_points inRange]
  split
  · simp [isSpaceOrTab_ofNat]
  · rename_i notSpace
    cases points : v.points with
    | nil => simp
    | cons p rest =>
      have space : p ≠ 0x20 := fun same => notSpace rest (by rw [points, same])
      rcases escapePoint_written (inRange p (by simp [points])) with ⟨⟨x, unit, -, -⟩ | ⟨unit, -⟩, plain⟩
      · simp [unit, isSpaceOrTab_ofNat]
      · simp [unit, isSpaceOrTab_ofNat, space, (plain unit).2.2]

theorem unescape_escapeKey {k : CodePoints} (inRange : ∀ p ∈ k.points, p < 0x110000) :
    unescape (escapeKey k) = .ok k := by
  rw [unescape, escapeKey, unescapePoints_flatMap fun p member => (escapeKeyPoint_written (inRange p member)).1]
  rfl

theorem unescape_escapeValue {v : CodePoints} (inRange : ∀ p ∈ v.points, p < 0x110000) :
    unescape (escapeValue v) = .ok v := by
  have written : ∀ ps : List Nat, (∀ p ∈ ps, p < 0x110000) → ∀ p ∈ ps, WrittenPoint (escapePoint p) p :=
    fun _ bounded p member => (escapePoint_written (bounded p member)).1
  rw [unescape, escapeValue_points inRange]
  split
  · rename_i rest points
    have bounded : ∀ p ∈ rest, p < 0x110000 := fun p member => inRange p (by simp [points, member])
    rw [unescapePoints.eq_3 _ _ fun _ _ _ _ _ same _ => absurd same (by decide),
      unescapePoints_flatMap (written rest bounded)]
    show Except.ok (⟨0x20 :: rest⟩ : CodePoints) = .ok v
    rw [← points]
  · rw [unescapePoints_flatMap (written _ inRange)]
    rfl

theorem splitEntry_escaped {k v : CodePoints} (key : ∀ p ∈ k.points, p < 0x110000)
    (value : ∀ p ∈ v.points, p < 0x110000) :
    splitEntry (escapeKey k ++ .ofString "=" ++ escapeValue v) = .ok (k, v) := by
  have kept : (escapeValue v).points.dropWhile (isSpaceOrTab <| Char.ofNat ·) = (escapeValue v).points := by
    have head := escapeValue_head value
    cases written : (escapeValue v).points with
    | nil => rfl
    | cons q qs => exact List.dropWhile_cons_of_neg (by simp [head q (by simp [written])])
  have line : (escapeKey k ++ .ofString "=" ++ escapeValue v).points =
      k.points.flatMap escapeKeyPoint ++ 0x3D :: (escapeValue v).points := by
    simp [escapeKey, CodePoints.ofString]
  have sign : List.dropWhile (fun x => isSpaceOrTab (Char.ofNat x)) (0x3D :: (escapeValue v).points) =
      0x3D :: (escapeValue v).points := List.dropWhile_cons_of_neg (by decide)
  have keyBack : unescape ⟨k.points.flatMap escapeKeyPoint⟩ = .ok k := unescape_escapeKey key
  have valueBack : unescape ⟨(escapeValue v).points⟩ = .ok v := unescape_escapeValue value
  unfold splitEntry
  rw [line, splitKey_escapeKeyPoints _ _ key]
  simp only [sign, kept, keyBack, valueBack]
  rfl

/-- The one-line codec is exact on every key and value a Python string can hold, a surrogate on
its own included: splitting `key=value` as written gives the key and the value back, and so
does unescaping each one's escape. -/
theorem splitEntry_escaped_entry (k v : CodePoints) (key : ∀ p ∈ k.points, p < 0x110000)
    (value : ∀ p ∈ v.points, p < 0x110000) :
    splitEntry (escapeKey k ++ .ofString "=" ++ escapeValue v) = .ok (k, v) ∧
      unescape (escapeKey k) = .ok k ∧ unescape (escapeValue v) = .ok v :=
  ⟨splitEntry_escaped key value, unescape_escapeKey key, unescape_escapeValue value⟩

/-- A key holding a lone high surrogate and `=`, and a value that starts with a space and holds
a lone low surrogate and a backslash. -/
theorem surrogate_entry_splits_back :
    splitEntry (escapeKey ⟨[0xD800, 0x3D]⟩ ++ .ofString "=" ++ escapeValue ⟨[0x20, 0xDC00, 0x5C]⟩) =
        .ok (⟨[0xD800, 0x3D]⟩, ⟨[0x20, 0xDC00, 0x5C]⟩) ∧
      unescape (escapeKey ⟨[0xD800, 0x3D]⟩) = .ok ⟨[0xD800, 0x3D]⟩ ∧
      unescape (escapeValue ⟨[0x20, 0xDC00, 0x5C]⟩) = .ok ⟨[0x20, 0xDC00, 0x5C]⟩ :=
  splitEntry_escaped_entry _ _ (by decide) (by decide)

theorem escapeKey_ofString (k : String) :
    escapeKey (.ofString k) = ⟨(k.toList.flatMap escapeKeyChar).map Char.toNat⟩ := by
  have unit : ∀ c : Char, escapeKeyPoint c.toNat = (escapeKeyChar c).map Char.toNat := by
    intro c
    by_cases space : c = ' '
    · subst space
      rfl
    · rw [escapeKeyPoint, if_neg fun same => space (Char.toNat_inj.mp (beq_iff_eq.mp same)), escapeKeyChar,
        if_neg space, escapePoint_toNat]
  unfold escapeKey
  rw [CodePoints.ofString, List.flatMap_map, List.map_flatMap]
  exact congrArg CodePoints.mk (congrArg (List.flatMap · k.toList) (funext unit))

theorem escapeValue_ofString (v : String) :
    escapeValue (.ofString v) = ⟨(escapeValueChars v.toList).map Char.toNat⟩ := by
  have points : (CodePoints.ofString v).points.flatMap escapePoint = (v.toList.flatMap escapeChar).map Char.toNat := by
    simp [CodePoints.ofString, List.flatMap_map, escapePoint_toNat, List.map_flatMap]
  unfold escapeValue escapeValueChars
  rw [points]
  cases v.toList.flatMap escapeChar with
  | nil => rfl
  | cons d ds =>
    by_cases space : d = ' '
    · subst space
      rfl
    · have : d.toNat ≠ 0x20 := fun same => space (Char.toNat_inj.mp same)
      simp only [List.map_cons]
      split
      · rename_i same
        exact absurd (List.cons.inj same).1 this
      · split
        · rename_i same
          exact absurd (List.cons.inj same).1 space
        · rfl

theorem escapeKey_text (k : String) :
    escapeKey (.ofString k) = .ofString (String.ofList (k.toList.flatMap escapeKeyChar)) := by
  rw [escapeKey_ofString, CodePoints.ofString, String.toList_ofList]

theorem escapeValue_text (v : String) :
    escapeValue (.ofString v) = .ofString (String.ofList (escapeValueChars v.toList)) := by
  rw [escapeValue_ofString, CodePoints.ofString, String.toList_ofList]

theorem escapedEntry_text (k v : String) :
    escapeKey (.ofString k) ++ .ofString "=" ++ escapeValue (.ofString v) =
      .ofString (String.ofList (entryChars k v)) := by
  rw [escapeKey_text, escapeValue_text]
  show CodePoints.mk (_ ++ _ ++ _) = _
  simp [CodePoints.ofString, entryChars]

theorem ofString_inRange (s : String) : ∀ p ∈ (CodePoints.ofString s).points, p < 0x110000 := by
  intro p member
  obtain ⟨c, -, rfl⟩ := List.mem_map.mp member
  exact toNat_lt c

theorem splitEntry_entryChars (k v : String) :
    splitEntry (.ofString (String.ofList (entryChars k v))) = .ok (CodePoints.ofString k, CodePoints.ofString v) := by
  rw [← escapedEntry_text]
  exact splitEntry_escaped (ofString_inRange k) (ofString_inRange v)

theorem readLines_comment (l : List Char) (rest : List String) (entries : OrderedMap CodePoints CodePoints) :
    readLines (String.ofList ('#' :: l) :: rest) "" entries = readLines rest "" entries := by
  have trimmed : trimStart (String.ofList ('#' :: l)) = String.ofList ('#' :: l) := by
    simp [trimStart, List.dropWhile_cons_of_neg (show ¬isBlank '#' = true by decide)]
  have fresh : ("" : String).isEmpty = true := rfl
  have hash : (String.ofList ('#' :: l)).front = '#' := by simp [String.front_eq, String.front?_eq]
  rw [readLines.eq_2]
  simp only [fresh, if_true, Bool.true_and, trimmed, hash, beq_self_eq_true, Bool.or_true, Bool.true_or]

theorem readLines_entry {k v : String} (carried : Carried k v) (rest : List String)
    (entries : OrderedMap CodePoints CodePoints) :
    readLines (String.ofList (entryChars k v) :: rest) "" entries =
      readLines rest "" (entries.insert (.ofString k) (.ofString v)) := by
  obtain ⟨c, cs, spelled, notBlank, notHash, notBang⟩ := entryChars_head carried
  have trimmed : trimStart (String.ofList (entryChars k v)) = String.ofList (entryChars k v) := by
    simp [trimStart, spelled, List.dropWhile_cons_of_neg (show ¬isBlank c = true by simp [notBlank])]
  have shown : ((String.ofList (entryChars k v)).isEmpty || (String.ofList (entryChars k v)).front == '#' ||
      (String.ofList (entryChars k v)).front == '!') = false := by
    simp [spelled, String.front_eq, String.front?_eq, notHash, notBang, ← String.toList_inj]
  have fresh : ("" : String).isEmpty = true := rfl
  rw [readLines.eq_2]
  simp only [fresh, if_true, trimmed, Bool.true_and, shown, Bool.false_eq_true, if_false,
    trailingBackslashes_entryChars, String.empty_append, splitEntry_entryChars]
  rfl

theorem format_points (es : List (String × String)) (comment : String) (now : Time.Stamp) :
    (format (es.map fun e => (.ofString e.1, .ofString e.2)) (some comment) now).points =
      ((("#" ++ comment).toList :: ("#" ++ now.longForm).toList :: es.map fun e => entryChars e.1 e.2).flatMap
        (· ++ ['\n'])).map Char.toNat := by
  simp only [format, Option.map_some, Option.getD_some, List.map_map, Function.comp_def, escapeKey_ofString,
    escapeValue_ofString]
  simp [entryChars, CodePoints.ofString, List.map_flatMap, List.flatMap_map]

theorem readLines_entries {es : List (String × String)} (carried : ∀ e ∈ es, Carried e.1 e.2)
    (distinct : (es.map Prod.fst).Nodup) :
    ∀ entries : OrderedMap CodePoints CodePoints, (∀ e ∈ es, CodePoints.ofString e.1 ∉ entries.keys) →
      readLines (es.map fun e => String.ofList (entryChars e.1 e.2)) "" entries =
        .ok ⟨entries.entries ++ es.map fun e => (.ofString e.1, .ofString e.2)⟩ := by
  induction es with
  | nil =>
    intro entries _
    simp [readLines]
  | cons e es ih =>
    intro entries fresh
    rw [List.map_cons, readLines_entry (carried e List.mem_cons_self)]
    rw [List.map_cons, List.nodup_cons] at distinct
    have grown := OrderedMap.entries_insert_of_not_mem entries (CodePoints.ofString e.1)
      (v := CodePoints.ofString e.2) (fresh e List.mem_cons_self)
    rw [ih (fun e' member => carried e' (List.mem_cons_of_mem _ member)) distinct.2, grown]
    · simp
    · intro e' member listed
      rw [OrderedMap.keys, grown, List.map_append, List.mem_append] at listed
      rcases listed with old | new
      · exact fresh e' (List.mem_cons_of_mem _ member) old
      · have same : e'.1 = e.1 := CodePoints.ofString_injective (by simpa using new)
        exact distinct.1 (List.mem_map.mpr ⟨e', member, same⟩)

theorem escapeChar_mem {c d : Char} (member : d ∈ escapeChar c) : d = c ∨ isLineBreak d = false := by
  unfold escapeChar at member
  split at member <;> simp at member <;> rcases member with rfl | rfl <;> first | exact .inl rfl | exact .inr (by decide)

theorem mem_flatMap_escapeChar {cs : List Char} {d : Char} (member : d ∈ cs.flatMap escapeChar) :
    d ∈ cs ∨ isLineBreak d = false := by
  obtain ⟨c, listed, unit⟩ := List.mem_flatMap.mp member
  rcases escapeChar_mem unit with rfl | plain
  exacts [.inl listed, .inr plain]

theorem entryChars_unbroken {k v : String} (carried : Carried k v) : ∀ c ∈ entryChars k v, isLineBreak c = false := by
  intro d member
  rw [entryChars, List.mem_append, List.mem_cons, escapeValueChars_eq] at member
  rcases member with inKey | rfl | inValue
  · obtain ⟨c, listed, unit⟩ := List.mem_flatMap.mp inKey
    unfold escapeKeyChar at unit
    split at unit
    · simp only [List.mem_cons, List.not_mem_nil, or_false] at unit
      rcases unit with rfl | rfl <;> decide
    · rcases escapeChar_mem unit with rfl | plain
      exacts [carried.keyUnbroken d listed, plain]
  · decide
  · split at inValue
    · rename_i rest spelled
      simp only [List.mem_cons] at inValue
      rcases inValue with rfl | rfl | later
      · decide
      · decide
      · rcases mem_flatMap_escapeChar later with listed | plain
        · exact carried.valueUnbroken d (by rw [spelled]; exact List.mem_cons_of_mem _ listed)
        · exact plain
    · rcases mem_flatMap_escapeChar inValue with listed | plain
      exacts [carried.valueUnbroken d listed, plain]

theorem parse_format {es : List (String × String)} (carried : ∀ e ∈ es, Carried e.1 e.2)
    (distinct : (es.map Prod.fst).Nodup) {comment : String} (plain : Unbroken comment) (now : Time.Stamp) :
    ∃ text, (format (es.map fun e => (.ofString e.1, .ofString e.2)) (some comment) now).encode = .ok text ∧
      parse text = .ok ⟨es.map fun e => (.ofString e.1, .ofString e.2)⟩ := by
  have unbroken : ∀ l ∈ ("#" ++ comment).toList :: ("#" ++ now.longForm).toList ::
      es.map (fun e => entryChars e.1 e.2), ∀ c ∈ l, isLineBreak c = false := by
    have hash : Unbroken "#" := by decide
    intro l member
    simp only [List.mem_cons, List.mem_map] at member
    rcases member with same | same | ⟨e, listed, rfl⟩
    · rw [same]
      exact (unbroken_append (a := "#")).mpr ⟨hash, plain⟩
    · rw [same]
      exact (unbroken_append (a := "#")).mpr ⟨hash, Time.longForm_unbroken now⟩
    · exact entryChars_unbroken (carried e listed)
  refine ⟨String.ofList ((("#" ++ comment).toList :: ("#" ++ now.longForm).toList ::
      es.map (fun e => entryChars e.1 e.2)).flatMap (· ++ ['\n'])), ?_, ?_⟩
  · have written := format_points es comment now
    cases text : format (es.map fun e => (.ofString e.1, .ofString e.2)) (some comment) now with
    | mk points =>
      rw [text] at written
      rw [show points = _ from written]
      exact CodePoints.encode_chars _
  · rw [parse, lines, String.toList_ofList, linesOf_flatMap_newline unbroken, List.map_cons, List.map_cons,
      String.toList_append, String.toList_append]
    rw [show "#".toList = ['#'] from rfl, List.singleton_append, List.singleton_append, readLines_comment,
      readLines_comment, List.map_map]
    exact readLines_entries carried distinct {} (fun _ _ absent => absurd absent List.not_mem_nil)

end PluginPack.Properties
