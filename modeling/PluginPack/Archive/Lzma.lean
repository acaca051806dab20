/-!
LZMA decompression of zip members.

A member compressed with LZMA starts with a four-byte header (a version and the
size of the properties that follow), then the properties: one byte for the
literal context bits `lc`, literal position bits `lp` and position bits `pb`, and
four bytes of dictionary size. The rest is a raw LZMA stream under a range coder
whose first byte must be zero.

The stream is a sequence of literals, matches with a new distance, and matches
that repeat one of the last four distances, each chosen by adaptive binary
probabilities. A match distance of `0xFFFFFFFF` marks the end of the stream, where
the range coder's code must have come down to zero. A
distance that reaches before the start of the output or beyond the dictionary
makes the stream corrupt. Decoding stops without complaint when the input runs
short, keeping the symbols completed so far; the range coder reads a new byte
only when it needs one.
-/

namespace PluginPack.Archive.Lzma

inductive Stop where
  | short
  | corrupt
  | finished

structure Range where
  data : ByteArray
  pos : Nat
  range : UInt32
  code : UInt32

def Range.normalize (r : Range) : Except Stop Range :=
  if r.range < 0x1000000 then
    if r.pos < r.data.size then
      let code := (r.code <<< 8) ||| (r.data.get! r.pos).toUInt32
      .ok { r with range := r.range <<< 8, code, pos := r.pos + 1 }
    else .error .short
  else .ok r

def probInit : Nat := 1024

/-- The decoder: the range decoder, all probabilities in one array, the output,
the state of the last symbols, the last four distances, the literal and position
parameters, and the size of the dictionary. -/
structure Decoder where
  rc : Range
  probs : Array Nat
  out : ByteArray
  state : Nat
  rep0 : Nat
  rep1 : Nat
  rep2 : Nat
  rep3 : Nat
  lc : Nat
  lp : Nat
  pb : Nat
  dictSize : Nat

def Decoder.bit (d : Decoder) (i : Nat) : Except Stop (Nat × Decoder) := do
  let r ← d.rc.normalize
  let p := d.probs.getD i probInit
  let bound := (r.range >>> 11) * p.toUInt32
  if r.code < bound then
    pure (0, { d with rc := { r with range := bound }, probs := d.probs.set! i (p + (2048 - p) / 32) })
  else
    let rc := { r with range := r.range - bound, code := r.code - bound }
    pure (1, { d with rc, probs := d.probs.set! i (p - p / 32) })

def Decoder.direct (d : Decoder) : Except Stop (Nat × Decoder) := do
  let r ← d.rc.normalize
  let range := r.range >>> 1
  let code := r.code - range
  if code >>> 31 == 0 then pure (1, { d with rc := { r with range, code } })
  else pure (0, { d with rc := { r with range } })

def Decoder.tree (d : Decoder) (base n : Nat) : Except Stop (Nat × Decoder) := do
  let (m, d) ← (List.range n).foldlM (fun (acc : Nat × Decoder) _ => do
    let (b, d) ← acc.2.bit (base + acc.1)
    pure (acc.1 * 2 + b, d)) (1, d)
  pure (m - Nat.pow 2 n, d)

def Decoder.reverseTree (d : Decoder) (base n : Nat) : Except Stop (Nat × Decoder) := do
  let (_, v, d) ← (List.range n).foldlM (fun (acc : Nat × Nat × Decoder) i => do
    let (b, d) ← acc.2.2.bit (base + acc.1)
    pure (acc.1 * 2 + b, acc.2.1 + b * Nat.pow 2 i, d)) (1, 0, d)
  pure (v, d)

def Decoder.directBits (d : Decoder) (v n : Nat) : Except Stop (Nat × Decoder) :=
  (List.range n).foldlM (fun (acc : Nat × Decoder) _ => do
    let (b, d) ← acc.2.direct
    pure (acc.1 * 2 + b, d)) (v, d)

/-! Where each group of probabilities starts in the array. -/

def isMatchAt : Nat := 0
def isRepAt : Nat := 192
def isRep0At : Nat := 204
def isRep1At : Nat := 216
def isRep2At : Nat := 228
def isRep0LongAt : Nat := 240
def posSlotAt : Nat := 432
def posSpecialAt : Nat := 688
def alignAt : Nat := 802
def matchLenAt : Nat := 818
def repLenAt : Nat := 1332
def literalAt : Nat := 1846

/-- Decodes a match length with the length coder at `base`: a choice between 8
short, 8 middle and 256 long lengths, the first two per position state. -/
def Decoder.length (d : Decoder) (base posState : Nat) : Except Stop (Nat × Decoder) := do
  let (choice, d) ← d.bit base
  if choice == 0 then
    let (v, d) ← d.tree (base + 2 + posState * 8) 3
    pure (2 + v, d)
  else
    let (choice2, d) ← d.bit (base + 1)
    if choice2 == 0 then
      let (v, d) ← d.tree (base + 130 + posState * 8) 3
      pure (10 + v, d)
    else
      let (v, d) ← d.tree (base + 258) 8
      pure (18 + v, d)

def Decoder.back (d : Decoder) (distance : Nat) : UInt8 :=
  d.out.get! (d.out.size - distance - 1)

def Decoder.reaches (d : Decoder) (distance : Nat) : Bool :=
  distance < min d.out.size d.dictSize

def Decoder.copy (d : Decoder) (len : Nat) : Decoder :=
  { d with out := (List.range len).foldl (fun out _ => out.push (out.get! (out.size - d.rep0 - 1))) d.out }

def Decoder.literal (d : Decoder) : Except Stop Decoder := do
  let total := d.out.size
  let prev := if total == 0 then 0 else (d.back 0).toNat
  let base := literalAt + 0x300 * (((total % Nat.pow 2 d.lp) <<< d.lc) + (prev >>> (8 - d.lc)))
  let (symbol, d) ← if d.state < 7 then d.tree base 8 >>= fun (v, d) => pure (v + 0x100, d)
    else
      let matchByte := (d.back d.rep0).toNat
      let (_, _, symbol, d) ← (List.range 8).foldlM (fun (acc : Nat × Nat × Nat × Decoder) _ => do
        let (mb, offs, symbol, d) := acc
        let mb := mb * 2
        let matchBit := mb &&& offs
        let (b, d) ← d.bit (base + offs + matchBit + symbol)
        pure (mb, (if b == 0 then offs &&& (0x1FF ^^^ matchBit) else offs &&& matchBit), symbol * 2 + b, d))
        (matchByte, 0x100, 1, d)
      pure (symbol, d)
  let state := if d.state < 4 then 0 else if d.state < 10 then d.state - 3 else d.state - 6
  pure { d with out := d.out.push (symbol - 0x100).toUInt8, state }

def Decoder.distance (d : Decoder) (len : Nat) : Except Stop Decoder := do
  let (slot, d) ← d.tree (posSlotAt + 64 * (min (len - 2) 3)) 6
  if slot < 4 then pure { d with rep0 := slot }
  else
    let limit := slot / 2 - 1
    let start := (2 + slot % 2) <<< limit
    if slot < 14 then
      let (v, d) ← d.reverseTree (posSpecialAt + start - slot - 1) limit
      pure { d with rep0 := start + v }
    else
      let (high, d) ← d.directBits (2 + slot % 2) (limit - 4)
      let (low, d) ← d.reverseTree alignAt 4
      let rep0 := high * 16 + low
      if rep0 == 0xFFFFFFFF then
        let r ← d.rc.normalize
        throw (if r.code == 0 then .finished else .corrupt)
      pure { d with rep0 }

def Decoder.step (d : Decoder) : Except Stop Decoder := do
  let posState := d.out.size % Nat.pow 2 d.pb
  let (isMatch, d) ← d.bit (isMatchAt + d.state * 16 + posState)
  if isMatch == 0 then d.literal
  else
    let (isRep, d) ← d.bit (isRepAt + d.state)
    if isRep == 0 then
      let d := { d with state := if d.state < 7 then 7 else 10, rep3 := d.rep2, rep2 := d.rep1, rep1 := d.rep0 }
      let (len, d) ← d.length matchLenAt posState
      let d ← d.distance len
      if !d.reaches d.rep0 then throw .corrupt
      pure (d.copy len)
    else
      if !d.reaches 0 then throw .corrupt
      let (isRep0, d) ← d.bit (isRep0At + d.state)
      if isRep0 == 0 then
        let (long, d) ← d.bit (isRep0LongAt + d.state * 16 + posState)
        if long == 0 then
          let d := { d with state := if d.state < 7 then 9 else 11 }
          return d.copy 1
        let d := { d with state := if d.state < 7 then 8 else 11 }
        let (len, d) ← d.length repLenAt posState
        pure (d.copy len)
      else
        let (isRep1, d) ← d.bit (isRep1At + d.state)
        let d ← if isRep1 == 0 then pure { d with rep0 := d.rep1, rep1 := d.rep0 }
          else
            let (isRep2, d) ← d.bit (isRep2At + d.state)
            if isRep2 == 0 then pure { d with rep0 := d.rep2, rep2 := d.rep1, rep1 := d.rep0 }
            else pure { d with rep0 := d.rep3, rep3 := d.rep2, rep2 := d.rep1, rep1 := d.rep0 }
        let d := { d with state := if d.state < 7 then 8 else 11 }
        let (len, d) ← d.length repLenAt posState
        pure (d.copy len)

/-- Decodes symbols until the input runs short, the end marker, or corrupt data:
gives the output and whether the stream ended, or `none` when it is corrupt. -/
def Decoder.run : Nat → Decoder → Option (ByteArray × Bool)
  | 0, d => some (d.out, false)
  | fuel + 1, d =>
    match d.step with
    | .ok next => next.run fuel
    | .error .short => some (d.out, false)
    | .error .finished => some (d.out, true)
    | .error .corrupt => none

inductive Outcome where
  | decoded (out : ByteArray) (ended : Bool)
  | badOptions
  | corrupt

/-- Decompresses the LZMA data of a zip member. Until the header and properties
are complete nothing is decoded. -/
def decompress (data : ByteArray) : Outcome :=
  let psize := (data.get! 2).toNat + (data.get! 3).toNat * 256
  if data.size ≤ 4 || data.size ≤ 4 + psize then .decoded ByteArray.empty false
  else
    let props := data.get! 4
    if psize != 5 || props.toNat > 224 then .badOptions
    else
      let pb := props.toNat / 45
      let lp := props.toNat % 45 / 9
      let lc := props.toNat % 9
      if lc + lp > 4 then .badOptions
      else
        let dictSize := (List.range 4).foldr (fun i acc => acc * 256 + (data.get! (5 + i)).toNat) 0
        let stream := data.extract 9 data.size
        let init := (List.range 4).foldl (fun acc i => acc * 256 + (stream.get! (1 + i)).toNat) 0
        if stream.size == 0 then .decoded ByteArray.empty false
        else if stream.get! 0 != 0 then .corrupt
        else if stream.size < 5 then .decoded ByteArray.empty false
        else
          let d : Decoder := {
            rc := { data := stream, pos := 5, range := 0xFFFFFFFF, code := init.toUInt32 }
            probs := Array.replicate (literalAt + 0x300 <<< (lc + lp)) probInit
            out := ByteArray.empty, state := 0, rep0 := 0, rep1 := 0, rep2 := 0, rep3 := 0
            lc, lp, pb
            dictSize := (max dictSize 4096 + 15) / 16 * 16 }
          match d.run ((stream.size + 1) * 4096) with
          | some (out, ended) => .decoded out ended
          | none => .corrupt

end PluginPack.Archive.Lzma
