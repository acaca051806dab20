/-!
UTF-8 decoding of byte sequences.

A well-formed sequence is a lead byte followed by the continuation bytes that its
value asks for, within the ranges that exclude overlong forms, surrogates and code
points beyond U+10FFFF. Strict decoding refuses anything else. Lossy decoding puts
one replacement character U+FFFD for each maximal ill-formed part: an invalid lead
byte alone, or a lead byte with the continuation bytes that were still acceptable.

A refusal names the first ill-formed part: a byte that opens no sequence is an
invalid start byte; a lead byte with the acceptable continuation bytes after it
is cut short by an invalid continuation byte, or by the end of the data, in which
case the part runs to the end.
-/

namespace PluginPack.Text

def replacementChar : Char := Char.ofNat 0xFFFD

def isContinuation (b : UInt8) : Bool := 0x80 ≤ b && b ≤ 0xBF

/-- The length of the sequence a lead byte opens, and the range allowed for the
second byte; `none` for bytes that open no sequence. -/
def leadShape (b : UInt8) : Option (Nat × UInt8 × UInt8) :=
  if b < 0x80 then some (1, 0, 0)
  else if 0xC2 ≤ b && b ≤ 0xDF then some (2, 0x80, 0xBF)
  else if b == 0xE0 then some (3, 0xA0, 0xBF)
  else if 0xE1 ≤ b && b ≤ 0xEC then some (3, 0x80, 0xBF)
  else if b == 0xED then some (3, 0x80, 0x9F)
  else if 0xEE ≤ b && b ≤ 0xEF then some (3, 0x80, 0xBF)
  else if b == 0xF0 then some (4, 0x90, 0xBF)
  else if 0xF1 ≤ b && b ≤ 0xF3 then some (4, 0x80, 0xBF)
  else if b == 0xF4 then some (4, 0x80, 0x8F)
  else none

def sequenceValue (lead : UInt8) (rest : List UInt8) : Nat :=
  let first := match rest.length with
    | 0 => lead.toNat
    | 1 => lead.toNat % 32
    | 2 => lead.toNat % 16
    | _ => lead.toNat % 8
  rest.foldl (fun acc b => acc * 64 + b.toNat % 64) first

def acceptedTail (n : Nat) (lo hi : UInt8) : List UInt8 → Nat
  | [] => 0
  | b :: rest =>
    if n ≤ 1 then 0
    else if lo ≤ b && b ≤ hi then 1 + acceptedTail (n - 1) 0x80 0xBF rest
    else 0

/-- One step of decoding: the character read, or `none` for an ill-formed part, and
the bytes after it. -/
def decodeStep : List UInt8 → Option (Option Char × List UInt8)
  | [] => none
  | b :: rest =>
    match leadShape b with
    | none => some (none, rest)
    | some (n, lo, hi) =>
      let k := acceptedTail n lo hi rest
      if k + 1 == n then some (some (Char.ofNat (sequenceValue b (rest.take k))), rest.drop k)
      else some (none, rest.drop k)

/-- Decodes all bytes; each step consumes at least one byte, so the length bounds
the number of steps. -/
def decodeWith (replace : Bool) : Nat → List UInt8 → Option (List Char)
  | 0, _ => some []
  | fuel + 1, bytes =>
    match decodeStep bytes with
    | none => some []
    | some (some c, rest) => (decodeWith replace fuel rest).map (c :: ·)
    | some (none, rest) =>
      if replace then (decodeWith replace fuel rest).map (replacementChar :: ·) else none

def decodeUtf8? (bytes : ByteArray) : Option String :=
  (decodeWith false (bytes.size + 1) bytes.toList).map String.ofList

def decodeUtf8Lossy (bytes : ByteArray) : String :=
  String.ofList ((decodeWith true (bytes.size + 1) bytes.toList).getD [])

/-- The first ill-formed part of bytes that are not UTF-8: where it starts and
ends (exclusive), its first byte, and what is wrong. -/
structure Utf8Fault where
  start : Nat
  stop : Nat
  first : UInt8
  reason : String
  deriving DecidableEq, Repr

def byteHex (b : UInt8) : String :=
  let digit (n : Nat) : Char := if n < 10 then Char.ofNat (48 + n) else Char.ofNat (87 + n)
  String.ofList [digit (b.toNat / 16), digit (b.toNat % 16)]

def Utf8Fault.message (f : Utf8Fault) : String :=
  if f.stop == f.start + 1 then
    "'utf-8' codec can't decode byte 0x" ++ byteHex f.first ++ " in position " ++ toString f.start ++
      ": " ++ f.reason
  else
    "'utf-8' codec can't decode bytes in position " ++ toString f.start ++ "-" ++
      toString (f.stop - 1) ++ ": " ++ f.reason

/-- Decodes bytes that start at position `pos`, gathering characters in reverse
in `acc`; each step consumes at least one byte, so `fuel` of the length suffices. -/
def decodeStrictFrom : Nat → Nat → List UInt8 → List Char → Except Utf8Fault (List Char)
  | 0, _, _, acc => .ok acc.reverse
  | _ + 1, _, [], acc => .ok acc.reverse
  | fuel + 1, pos, b :: rest, acc =>
    match leadShape b with
    | none => .error ⟨pos, pos + 1, b, "invalid start byte"⟩
    | some (n, lo, hi) =>
      let k := acceptedTail n lo hi rest
      if k + 1 == n then
        decodeStrictFrom fuel (pos + n) (rest.drop k) (Char.ofNat (sequenceValue b (rest.take k)) :: acc)
      else if (rest.drop k).isEmpty then .error ⟨pos, pos + 1 + k, b, "unexpected end of data"⟩
      else .error ⟨pos, pos + 1 + k, b, "invalid continuation byte"⟩

def decodeUtf8Strict (bytes : ByteArray) : Except Utf8Fault String :=
  (decodeStrictFrom (bytes.size + 1) 0 bytes.toList []).map String.ofList

example : decodeUtf8Lossy ⟨#[0x61, 0xE2, 0x82, 0x62]⟩ = "a�b" := by decide +kernel
example : decodeUtf8Lossy ⟨#[0xED, 0xA0, 0x80]⟩ = "���" := by decide +kernel
example : (match decodeUtf8Strict ⟨#[0x63, 0xE9, 0x2E]⟩ with | .error f => f.message | .ok _ => "") =
    "'utf-8' codec can't decode byte 0xe9 in position 1: invalid continuation byte" := by
  decide +kernel
example : (match decodeUtf8Strict ⟨#[0xE4, 0xB8]⟩ with | .error f => f.message | .ok _ => "") =
    "'utf-8' codec can't decode bytes in position 0-1: unexpected end of data" := by
  decide +kernel

end PluginPack.Text
