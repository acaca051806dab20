import Mathlib.Data.List.Basic
import PluginPack.Error

/-! Decoding what UTF-8 encoding writes. The bytes written for a character form one
well-formed sequence: its lead byte opens a sequence of the right length, its second byte lies
in the range that lead allows, and its value is the character. So strict decoding of a text's
encoding gives the text back, and reading a file of text that was written succeeds. -/

namespace PluginPack.Text

theorem byteArray_toList_loop (b : ByteArray) (i : Nat) (r : List UInt8) :
    ByteArray.toList.loop b i r = r.reverse ++ b.data.toList.drop i := by
  fun_induction ByteArray.toList.loop b i r with
  | case1 i r inside ih =>
    have bound : i < b.data.toList.length := by simpa using inside
    rw [ih, List.drop_eq_getElem_cons bound]
    simp [ByteArray.get!, inside]
  | case2 i r outside =>
    rw [List.drop_eq_nil_of_le (by simpa using Nat.le_of_not_lt outside)]
    simp

theorem byteArray_toList (b : ByteArray) : b.toList = b.data.toList := by
  simp [ByteArray.toList, byteArray_toList_loop]

theorem toList_toUTF8 (s : String) : s.toUTF8.toList = s.toList.flatMap String.utf8EncodeChar := by
  rw [byteArray_toList, String.toUTF8_eq_toByteArray, ← String.utf8Encode_toList, List.utf8Encode,
    List.toList_data_toByteArray]

theorem acceptedTail_last (lo hi : UInt8) (rest : List UInt8) : acceptedTail 1 lo hi rest = 0 := by
  cases rest <;> simp [acceptedTail]

theorem acceptedTail_complete {lo hi t : UInt8} (first : lo ≤ t ∧ t ≤ hi) (ts : List UInt8)
    (later : ∀ u ∈ ts, 0x80 ≤ u ∧ u ≤ 0xBF) (rest : List UInt8) :
    acceptedTail (ts.length + 2) lo hi (t :: ts ++ rest) = ts.length + 1 := by
  induction ts generalizing lo hi t with
  | nil => simp [acceptedTail, first, acceptedTail_last]
  | cons u us ih =>
    have next := ih (later u List.mem_cons_self) fun w member => later w (List.mem_cons_of_mem _ member)
    simp only [List.length_cons, List.cons_append] at next ⊢
    rw [acceptedTail, if_neg (by omega), if_pos (by simp [first]), show us.length + 1 + 2 - 1 = us.length + 2 by omega,
      next]
    omega

theorem decodeStrictFrom_sequence {b lo hi : UInt8} {n : Nat} (shape : leadShape b = some (n, lo, hi))
    {ts rest : List UInt8} (len : ts.length + 1 = n) (complete : acceptedTail n lo hi (ts ++ rest) = ts.length)
    (fuel pos : Nat) (acc : List Char) :
    decodeStrictFrom (fuel + 1) pos (b :: ts ++ rest) acc =
      decodeStrictFrom fuel (pos + n) rest (Char.ofNat (sequenceValue b ts) :: acc) := by
  rw [List.cons_append, decodeStrictFrom, shape]
  simp only [complete, len, beq_self_eq_true, if_true, List.drop_left, List.take_left]

theorem leadShape_one {v : Nat} (small : v ≤ 0x7f) : leadShape (UInt8.ofNat v) = some (1, 0, 0) := by
  rw [leadShape, if_pos (by simp [UInt8.lt_iff_toNat_lt]; omega)]

theorem leadShape_two {v : Nat} (large : 0x7f < v) (small : v ≤ 0x7ff) :
    leadShape (UInt8.ofNat (v / 64 % 32 + 192)) = some (2, 0x80, 0xBF) := by
  rw [leadShape, if_neg (by simp [UInt8.lt_iff_toNat_lt]; omega), if_pos (by simp [UInt8.le_iff_toNat_le]; omega)]

theorem leadShape_three_lead : ∀ n < 16, leadShape (UInt8.ofNat (n + 224)) =
    some (3, if n = 0 then 0xA0 else 0x80, if n = 13 then 0x9F else 0xBF) := by
  decide

theorem leadShape_four_lead : ∀ n < 5, leadShape (UInt8.ofNat (n + 240)) =
    some (4, if n = 0 then 0x90 else 0x80, if n = 4 then 0x8F else 0xBF) := by
  decide

theorem leadShape_three {v : Nat} (large : 0x7ff < v) (small : v ≤ 0xffff) (scalar : v < 0xd800 ∨ 0xdfff < v) :
    ∃ lo hi, leadShape (UInt8.ofNat (v / 4096 % 16 + 224)) = some (3, lo, hi) ∧
      lo ≤ UInt8.ofNat (v / 64 % 64 + 128) ∧ UInt8.ofNat (v / 64 % 64 + 128) ≤ hi := by
  refine ⟨_, _, leadShape_three_lead (v / 4096 % 16) (by omega), ?_, ?_⟩ <;>
    split_ifs <;> simp only [UInt8.le_iff_toNat_le, UInt8.toNat_ofNat', Nat.reducePow, UInt8.reduceToNat] <;> omega

theorem leadShape_four {v : Nat} (large : 0xffff < v) (small : v < 0x110000) :
    ∃ lo hi, leadShape (UInt8.ofNat (v / 262144 % 8 + 240)) = some (4, lo, hi) ∧
      lo ≤ UInt8.ofNat (v / 4096 % 64 + 128) ∧ UInt8.ofNat (v / 4096 % 64 + 128) ≤ hi := by
  refine ⟨_, _, leadShape_four_lead (v / 262144 % 8) (by omega), ?_, ?_⟩ <;>
    split_ifs <;> simp only [UInt8.le_iff_toNat_le, UInt8.toNat_ofNat', Nat.reducePow, UInt8.reduceToNat] <;> omega

theorem continuation_ofNat (v : Nat) : 0x80 ≤ UInt8.ofNat (v % 64 + 128) ∧ UInt8.ofNat (v % 64 + 128) ≤ 0xBF := by
  simp only [UInt8.le_iff_toNat_le, UInt8.toNat_ofNat', Nat.reducePow, UInt8.reduceToNat]
  omega

theorem decodeStrictFrom_encoded {c : Char} {lead lo hi : UInt8} {ts : List UInt8}
    (spelled : String.utf8EncodeChar c = lead :: ts) (shape : leadShape lead = some (ts.length + 1, lo, hi))
    (complete : ∀ rest, acceptedTail (ts.length + 1) lo hi (ts ++ rest) = ts.length)
    (decoded : sequenceValue lead ts = c.toNat) (rest : List UInt8) (fuel pos : Nat) (acc : List Char) :
    decodeStrictFrom (fuel + 1) pos (String.utf8EncodeChar c ++ rest) acc =
      decodeStrictFrom fuel (pos + (String.utf8EncodeChar c).length) rest (c :: acc) := by
  rw [spelled, decodeStrictFrom_sequence shape rfl (complete rest), decoded, Char.ofNat_toNat]
  rfl

theorem decodeStrictFrom_utf8EncodeChar (c : Char) (rest : List UInt8) (fuel pos : Nat) (acc : List Char) :
    decodeStrictFrom (fuel + 1) pos (String.utf8EncodeChar c ++ rest) acc =
      decodeStrictFrom fuel (pos + (String.utf8EncodeChar c).length) rest (c :: acc) := by
  have scalar : c.val.toNat < 0xd800 ∨ (0xdfff < c.val.toNat ∧ c.val.toNat < 0x110000) := c.valid
  have value : c.val.toNat = c.toNat := rfl
  have spelled := String.utf8EncodeChar.eq_1 c
  by_cases one : c.val.toNat ≤ 0x7f
  · rw [if_pos one] at spelled
    exact decodeStrictFrom_encoded spelled (leadShape_one one) (fun _ => acceptedTail_last _ _ _)
      (by simp [sequenceValue]; omega) rest fuel pos acc
  rw [if_neg one] at spelled
  by_cases two : c.val.toNat ≤ 0x7ff
  · rw [if_pos two] at spelled
    exact decodeStrictFrom_encoded spelled (leadShape_two (by omega) two)
      (acceptedTail_complete (continuation_ofNat _) [] (by simp)) (by simp [sequenceValue]; omega) rest fuel pos acc
  rw [if_neg two] at spelled
  by_cases three : c.val.toNat ≤ 0xffff
  · rw [if_pos three] at spelled
    obtain ⟨lo, hi, shape, low, high⟩ := leadShape_three (by omega) three (by omega)
    exact decodeStrictFrom_encoded spelled shape
      (acceptedTail_complete ⟨low, high⟩ _ (by simpa using continuation_ofNat c.val.toNat))
      (by simp [sequenceValue]; omega) rest fuel pos acc
  · rw [if_neg three] at spelled
    obtain ⟨lo, hi, shape, low, high⟩ := leadShape_four (v := c.val.toNat) (by omega) (by omega)
    exact decodeStrictFrom_encoded spelled shape
      (acceptedTail_complete ⟨low, high⟩ _ fun u member => by
        rcases List.mem_pair.mp member with rfl | rfl
        exacts [continuation_ofNat _, continuation_ofNat _])
      (by simp [sequenceValue]; omega) rest fuel pos acc

theorem decodeStrictFrom_flatMap (cs : List Char) :
    ∀ fuel pos acc, cs.length ≤ fuel →
      decodeStrictFrom fuel pos (cs.flatMap String.utf8EncodeChar) acc = .ok (acc.reverse ++ cs) := by
  induction cs with
  | nil =>
    intro fuel pos acc _
    cases fuel <;> simp [decodeStrictFrom]
  | cons c cs ih =>
    intro fuel pos acc enough
    obtain ⟨fuel, rfl⟩ : ∃ f, fuel = f + 1 := ⟨fuel - 1, by simp at enough; omega⟩
    rw [List.flatMap_cons, decodeStrictFrom_utf8EncodeChar, ih _ _ _ (by simpa using enough)]
    simp

theorem length_le_length_flatMap_utf8EncodeChar (cs : List Char) :
    cs.length ≤ (cs.flatMap String.utf8EncodeChar).length := by
  induction cs with
  | nil => simp
  | cons c cs ih =>
    have : 0 < (String.utf8EncodeChar c).length := List.length_pos_iff.mpr String.utf8EncodeChar_ne_nil
    simp only [List.flatMap_cons, List.length_append, List.length_cons]
    omega

theorem decodeUtf8Strict_toUTF8 (s : String) : decodeUtf8Strict s.toUTF8 = .ok s := by
  have bytes := toList_toUTF8 s
  have size : s.toUTF8.size = (s.toList.flatMap String.utf8EncodeChar).length := by
    rw [← bytes, byteArray_toList, Array.length_toList]
    rfl
  unfold decodeUtf8Strict
  rw [bytes, decodeStrictFrom_flatMap _ _ _ _ (by have := length_le_length_flatMap_utf8EncodeChar s.toList; omega)]
  simp [Except.map]

theorem decodeText_toUTF8 (s : String) : decodeText s.toUTF8 = .ok s := by
  rw [decodeText, decodeUtf8Strict_toUTF8]
  rfl

end PluginPack.Text
