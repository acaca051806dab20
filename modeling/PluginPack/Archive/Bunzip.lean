/-!
Bzip2 decompression.

A stream is `BZh` and a block size digit, then blocks and an end marker, each
behind a six-byte magic number; bits are read from the most significant end of
each byte. A block carries its checksum, the position of the original row of
its sorted rotations, the byte values it uses, the selectors and Huffman code
lengths of its symbol groups, and the symbols: move-to-front indices with runs
of the front value written in bijective base two. Undoing the transform and the
initial run-length coding (four equal bytes and a repeat count) gives the block's
bytes, whose checksum must match. The end marker carries the combined checksum
of all blocks.

Decoding stops without complaint when the input runs short, giving the blocks
completed so far; any inconsistency makes the stream corrupt.
-/

namespace PluginPack.Archive.Bunzip

inductive Stop where
  | short
  | corrupt

structure Bits where
  data : ByteArray
  pos : Nat

def Bits.take (b : Bits) (n : Nat) : Except Stop (Nat × Bits) :=
  if b.pos + n ≤ b.data.size * 8 then
    .ok ((List.range n).foldl (fun acc i =>
      acc * 2 + ((b.data.get! ((b.pos + i) / 8)).toNat >>> (7 - (b.pos + i) % 8)) % 2) 0,
      { b with pos := b.pos + n })
  else .error .short

def Bits.expect (b : Bits) (value : Nat) : Except Stop Bits := do
  let (v, b) ← b.take 8
  if v == value then pure b else throw .corrupt

def crcStep (c : UInt32) (byte : UInt8) : UInt32 :=
  (List.range 8).foldl (fun acc _ =>
    if acc &&& 0x80000000 != 0 then (acc <<< 1) ^^^ 0x04C11DB7 else acc <<< 1)
    (c ^^^ (byte.toUInt32 <<< 24))

def blockCrc (bytes : ByteArray) : UInt32 := bytes.foldl crcStep 0xFFFFFFFF ^^^ 0xFFFFFFFF

/-- The decoding tables of one Huffman code: for each length the largest code
value of that length and the offset of its first symbol, the symbols in code
order, and the shortest length. -/
structure Tables where
  limit : Array Int
  base : Array Int
  perm : Array Nat
  minLen : Nat

def Tables.ofLengths (lens : List Nat) : Tables :=
  let minLen := lens.foldl min 32
  let maxLen := lens.foldl max 0
  let perm := ((List.range (maxLen + 1 - minLen)).flatMap fun k =>
    ((List.range lens.length).filter fun j => lens.getD j 0 == minLen + k)).toArray
  let counts : List Int := (List.range 23).map fun i => ((lens.filter (· + 1 == i)).length : Int)
  let cumulative : Array Int := ((List.range 23).map fun i => (counts.take (i + 1)).foldl (· + ·) 0).toArray
  let (limit, _) := (List.range (maxLen + 1 - minLen)).foldl (fun (acc : Array Int × Int) k =>
    let i := minLen + k
    let vec := acc.2 + (cumulative.getD (i + 1) 0 - cumulative.getD i 0)
    (acc.1.set! i (vec - 1), vec * 2)) (Array.replicate 23 0, 0)
  let base := (List.range (maxLen - minLen)).foldl (fun (acc : Array Int) k =>
    let i := minLen + 1 + k
    acc.set! i ((limit.getD (i - 1) 0 + 1) * 2 - cumulative.getD i 0)) cumulative
  { limit, base, perm, minLen }

/-- Decodes one symbol: starts with the shortest length and lengthens the code
while it exceeds the largest value of its length. -/
def Tables.decode (t : Tables) (b : Bits) : Except Stop (Nat × Bits) := do
  let (zvec, b) ← b.take t.minLen
  let rec lengthen : Nat → Nat → Int → Bits → Except Stop (Nat × Int × Bits)
    | 0, _, _, _ => throw .corrupt
    | fuel + 1, zn, zvec, b =>
      if zn > 20 then throw .corrupt
      else if zvec ≤ t.limit.getD zn 0 then pure (zn, zvec, b)
      else do
        let (bit, b) ← b.take 1
        lengthen fuel (zn + 1) (zvec * 2 + bit) b
  let (zn, zvec, b) ← lengthen 22 t.minLen zvec b
  let index := zvec - t.base.getD zn 0
  if index < 0 || index ≥ 258 then throw .corrupt
  pure (t.perm.getD index.toNat 0, b)

/-- The symbol groups of a block: the selectors, the tables, how many groups have
started, and how many symbols the current group has left. -/
structure Groups where
  selectors : Array Nat
  tables : Array Tables
  started : Nat
  left : Nat
  current : Tables

/-- Decodes the next symbol, starting a new group of fifty symbols when the
current one is used up. -/
def Groups.next (g : Groups) (b : Bits) : Except Stop (Nat × Groups × Bits) := do
  let g ← if g.left == 0 then
      if g.started ≥ g.selectors.size then throw .corrupt
      else
        match g.tables[g.selectors.getD g.started 0]? with
        | some t => pure { g with started := g.started + 1, left := 50, current := t }
        | none => throw .corrupt
    else pure g
  let (sym, b) ← g.current.decode b
  pure (sym, { g with left := g.left - 1 }, b)

structure Column where
  bytes : Array Nat
  mtf : List Nat

/-- Reads a run of RUNA and RUNB symbols starting with `sym`: gives the run
length, the symbol after it, and the rest. -/
def readRun (g : Groups) : Nat → Nat → Nat → Nat → Bits → Except Stop (Nat × Nat × Groups × Bits)
  | 0, _, _, _, _ => throw .corrupt
  | fuel + 1, sym, weight, total, b => do
    if weight ≥ 2 * 1024 * 1024 then throw .corrupt
    let total := total + (sym + 1) * weight
    let (next, g, b) ← g.next b
    if next ≤ 1 then readRun g fuel next (weight * 2) total b
    else pure (total, next, g, b)

/-- Reads the symbols of a block up to its end-of-block symbol `eob`, given the
first symbol. -/
def readSymbols (unseq : Array Nat) (eob limit : Nat) : Nat → Nat → Groups → Column → Bits →
    Except Stop (Column × Bits)
  | 0, _, _, _, _ => throw .corrupt
  | fuel + 1, sym, g, col, b => do
    if sym == eob then pure (col, b)
    else if sym ≤ 1 then
      let (count, next, g, b) ← readRun g (b.data.size * 8 + 1) sym 1 0 b
      if col.bytes.size + count > limit then throw .corrupt
      let value := unseq.getD (col.mtf.headD 0) 0
      readSymbols unseq eob limit fuel next g
        { col with bytes := col.bytes ++ Array.replicate count value } b
    else do
      if col.bytes.size ≥ limit then throw .corrupt
      let k := sym - 1
      let v := col.mtf.getD k 0
      let mtf := v :: (col.mtf.take k ++ col.mtf.drop (k + 1))
      let (next, g, b) ← g.next b
      readSymbols unseq eob limit fuel next g { bytes := col.bytes.push (unseq.getD v 0), mtf } b

/-- Undoes the sorting transform: the bytes in their original order, starting
from the row `origin`. -/
def unsort (column : Array Nat) (origin : Nat) : Array Nat :=
  let counts := column.foldl (fun (acc : Array Nat) c => acc.modify c (· + 1)) (Array.replicate 256 0)
  let starts := (List.range 256).foldl (fun (acc : Array Nat × Nat) c =>
    (acc.1.push acc.2, acc.2 + counts.getD c 0)) (#[], 0) |>.1
  let (next, _) := (List.range column.size).foldl (fun (acc : Array Nat × Array Nat) i =>
    let c := column.getD i 0
    let slot := acc.2.getD c 0
    (acc.1.set! slot i, acc.2.modify c (· + 1))) (Array.replicate column.size 0, starts)
  let (out, _) := (List.range column.size).foldl (fun (acc : Array Nat × Nat) _ =>
    let pos := acc.2
    (acc.1.push (column.getD pos 0), next.getD pos 0)) (#[], next.getD origin 0)
  out

/-- Undoes the initial run-length coding: four equal bytes are followed by a
count of further repeats. Four equal bytes at the very end, without a count,
make the block corrupt. -/
def unrun : List Nat → Except Stop (List UInt8)
  | a :: b :: c :: d :: rest =>
    if a == b && b == c && c == d then
      match rest with
      | n :: more => do pure (List.replicate (n + 4) a.toUInt8 ++ (← unrun more))
      | [] => throw .corrupt
    else do pure (a.toUInt8 :: (← unrun (b :: c :: d :: rest)))
  | rest => .ok (rest.map Nat.toUInt8)

def readFlags (b : Bits) (count : Nat) : Except Stop (List Bool × Bits) := do
  let (v, b) ← b.take count
  pure ((List.range count).map fun i => (v >>> (count - 1 - i)) % 2 == 1, b)

def readSelector (groups : Nat) : Nat → Nat → Bits → Except Stop (Nat × Bits)
  | 0, _, _ => throw .corrupt
  | fuel + 1, j, b => do
    let (bit, b) ← b.take 1
    if bit == 0 then pure (j, b)
    else if j + 1 ≥ groups then throw .corrupt
    else readSelector groups fuel (j + 1) b

/-- Reads the code length of one symbol, starting from `curr`: a one bit followed
by a bit for up or down changes it, a zero bit ends it; it must stay within 1 to 20. -/
def readLength : Nat → Int → Bits → Except Stop (Nat × Bits)
  | 0, _, _ => throw .corrupt
  | fuel + 1, curr, b => do
    if curr < 1 || curr > 20 then throw .corrupt
    let (bit, b) ← b.take 1
    if bit == 0 then pure (curr.toNat, b)
    else
      let (dir, b) ← b.take 1
      readLength fuel (if dir == 0 then curr + 1 else curr - 1) b

def readTable (alphaSize : Nat) (b : Bits) : Except Stop (List Nat × Bits) := do
  let (start, b) ← b.take 5
  let (lens, _, b) ← (List.range alphaSize).foldlM (fun (acc : List Nat × Int × Bits) _ => do
    let (len, b) ← readLength (acc.2.2.data.size * 8 + 2) acc.2.1 acc.2.2
    pure (acc.1 ++ [len], (len : Int), b)) ([], (start : Int), b)
  pure (lens, b)

def unfrontSelectors (groups : Nat) (coded : List Nat) : Array Nat :=
  let (out, _) := coded.foldl (fun (acc : Array Nat × List Nat) v =>
    let x := acc.2.getD v 0
    (acc.1.push x, x :: (acc.2.take v ++ acc.2.drop (v + 1)))) (#[], List.range groups)
  out

/-- Reads a block after its magic number, given the block size in units of
100000 bytes: gives its checksum and its bytes. -/
def readBlock (level : Nat) (b : Bits) : Except Stop (UInt32 × ByteArray × Bits) := do
  let (stored, b) ← b.take 32
  let (_, b) ← b.take 1
  let (origin, b) ← b.take 24
  if origin > 10 + 100000 * level then throw .corrupt
  let (ranges, b) ← readFlags b 16
  let (used, b) ← ranges.foldlM (fun (acc : List Bool × Bits) present => do
    if present then
      let (flags, b) ← readFlags acc.2 16
      pure (acc.1 ++ flags, b)
    else pure (acc.1 ++ List.replicate 16 false, acc.2)) ([], b)
  let unseq := ((List.range 256).filter fun i => used.getD i false).toArray
  if unseq.size == 0 then throw .corrupt
  let alphaSize := unseq.size + 2
  let (groups, b) ← b.take 3
  if groups < 2 || groups > 6 then throw .corrupt
  let (count, b) ← b.take 15
  if count < 1 then throw .corrupt
  let (coded, b) ← (List.range count).foldlM (fun (acc : List Nat × Bits) i => do
    let (j, b) ← readSelector groups (groups + 1) 0 acc.2
    pure (if i < 18002 then acc.1 ++ [j] else acc.1, b)) ([], b)
  let selectors := unfrontSelectors groups coded
  let (tables, b) ← (List.range groups).foldlM (fun (acc : Array Tables × Bits) _ => do
    let (lens, b) ← readTable alphaSize acc.2
    pure (acc.1.push (Tables.ofLengths lens), b)) (#[], b)
  let g : Groups := { selectors, tables, started := 0, left := 0, current := tables.getD 0 default }
  let (first, g, b) ← g.next b
  let limit := 100000 * level
  let (col, b) ← readSymbols unseq (unseq.size + 1) limit (b.data.size * 8 + 2) first g
    { bytes := #[], mtf := List.range 256 } b
  if origin ≥ col.bytes.size then throw .corrupt
  let bytes ← unrun (unsort col.bytes origin).toList
  let out : ByteArray := ⟨bytes.toArray⟩
  if blockCrc out != stored.toUInt32 then throw .corrupt
  pure (stored.toUInt32, out, b)
where
  default : Tables := { limit := #[], base := #[], perm := #[], minLen := 0 }

/-- Reads blocks until the end marker: gives the output and whether the stream
ended. -/
def readBlocks (level : Nat) : Nat → UInt32 → ByteArray → Bits → Except Stop (ByteArray × Bool)
  | 0, _, out, _ => .ok (out, false)
  | fuel + 1, combined, out, b =>
    let attempt : Except Stop (ByteArray × Bool) := do
      let (magic, b) ← b.take 8
      if magic == 0x17 then
        let b ← [0x72, 0x45, 0x38, 0x50, 0x90].foldlM (fun b v => b.expect v) b
        let (stored, _) ← b.take 32
        if stored.toUInt32 != combined then throw .corrupt
        pure (out, true)
      else if magic == 0x31 then
        let b ← [0x41, 0x59, 0x26, 0x53, 0x59].foldlM (fun b v => b.expect v) b
        let (crc, bytes, b) ← readBlock level b
        let combined := ((combined <<< 1) ||| (combined >>> 31)) ^^^ crc
        readBlocks level fuel combined (out ++ bytes) b
      else throw .corrupt
    match attempt with
    | .error .short => .ok (out, false)
    | other => other

/-- Decompresses a bzip2 stream: the bytes of the blocks completed and whether
the stream ended, or `none` when the data is corrupt. -/
def bunzip (data : ByteArray) : Option (ByteArray × Bool) :=
  let b : Bits := ⟨data, 0⟩
  let result : Except Stop (ByteArray × Bool) := do
    let b ← b.expect 0x42
    let b ← b.expect 0x5A
    let b ← b.expect 0x68
    let (digit, b) ← b.take 8
    if digit < 0x31 || digit > 0x39 then throw .corrupt
    readBlocks (digit - 0x30) (data.size + 1) 0 ByteArray.empty b
  match result with
  | .ok r => some r
  | .error .short => some (ByteArray.empty, false)
  | .error .corrupt => none

end PluginPack.Archive.Bunzip
