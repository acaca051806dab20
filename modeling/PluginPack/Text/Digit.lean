/-!
Digit characters of Unicode.

A character is a *decimal digit* when it belongs to one of the runs of ten
consecutive code points that spell 0 to 9 in some script (general category Nd).
It is a *digit* when it is a decimal digit or one of the other characters whose
numeric type is "digit", such as superscripts and circled figures. Only decimal
digits have a value as part of a decimal numeral.
-/

namespace PluginPack.Text

def decimalRunStarts : List Nat :=
  [0x30, 0x660, 0x6f0, 0x7c0, 0x966, 0x9e6, 0xa66, 0xae6, 0xb66, 0xbe6, 0xc66, 0xce6, 0xd66,
   0xde6, 0xe50, 0xed0, 0xf20, 0x1040, 0x1090, 0x17e0, 0x1810, 0x1946, 0x19d0, 0x1a80, 0x1a90,
   0x1b50, 0x1bb0, 0x1c40, 0x1c50, 0xa620, 0xa8d0, 0xa900, 0xa9d0, 0xa9f0, 0xaa50, 0xabf0,
   0xff10, 0x104a0, 0x10d30, 0x11066, 0x110f0, 0x11136, 0x111d0, 0x112f0, 0x11450, 0x114d0,
   0x11650, 0x116c0, 0x11730, 0x118e0, 0x11950, 0x11c50, 0x11d50, 0x11da0, 0x16a60,
   0x16ac0, 0x16b50, 0x1d7ce, 0x1d7d8, 0x1d7e2, 0x1d7ec, 0x1d7f6, 0x1e140, 0x1e2f0,
   0x1e950, 0x1fbf0]

def otherDigitRanges : List (Nat × Nat) :=
  [(178, 179), (185, 185), (4969, 4977), (6618, 6618), (8304, 8304), (8308, 8313),
   (8320, 8329), (9312, 9320), (9332, 9340), (9352, 9360), (9450, 9450), (9461, 9469),
   (9471, 9471), (10102, 10110), (10112, 10120), (10122, 10130), (68160, 68163),
   (69216, 69224), (69714, 69722), (127232, 127242)]

def decimalValue? (c : Char) : Option Nat :=
  decimalRunStarts.findSome? fun start =>
    if start ≤ c.toNat ∧ c.toNat < start + 10 then some (c.toNat - start) else none

def isDigit (c : Char) : Bool :=
  (decimalValue? c).isSome || otherDigitRanges.any fun (lo, hi) => lo ≤ c.toNat ∧ c.toNat ≤ hi

def decimalNumeral? (s : String) : Option Nat :=
  if s.isEmpty then none
  else s.toList.foldlM (fun acc c => (decimalValue? c).map (acc * 10 + ·)) 0

example : decimalNumeral? "١٢" = some 12 := by decide
example : decimalNumeral? "²" = none := by decide
example : isDigit '²' = true := by decide

end PluginPack.Text
