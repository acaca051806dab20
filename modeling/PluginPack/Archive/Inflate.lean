/-!
Raw deflate decompression.

A deflate stream is a sequence of blocks, each with a final flag and a type:
stored bytes after a length and its complement, or symbols under the fixed
Huffman codes or under codes that the block describes. Bits are read from the
least significant end of each byte.

Decoding stops without complaint when the input runs short, giving the bytes
decoded so far; only complete symbols and complete matches count. Corrupt data
stops it with the reason that names the first fault met: an invalid block type,
stored lengths that do not match, too many length or distance symbols, a code
length code that is over-subscribed or incomplete, a repeat with nothing to
repeat or running past the end, a literal code without end-of-block, literal or
distance codes that are over-subscribed or incomplete (a single code of one bit
excepted), a code that stands for no symbol, or a distance reaching before the
start of the output.
-/

namespace PluginPack.Archive.Inflate

structure Bits where
  data : ByteArray
  pos : Nat

def Bits.bit? (b : Bits) : Option (Nat × Bits) :=
  if b.pos < b.data.size * 8 then
    some (((b.data.get! (b.pos / 8)).toNat >>> (b.pos % 8)) % 2, { b with pos := b.pos + 1 })
  else none

def Bits.take? (b : Bits) (n : Nat) : Option (Nat × Bits) :=
  if b.pos + n ≤ b.data.size * 8 then
    some ((List.range n).foldr (fun i acc =>
      acc * 2 + ((b.data.get! ((b.pos + i) / 8)).toNat >>> ((b.pos + i) % 8)) % 2) 0,
      { b with pos := b.pos + n })
  else none

/-- A canonical Huffman code: how many codes each length has, the symbols in
order of length and value, and the longest length. -/
structure Code where
  counts : Array Nat
  symbols : Array Nat
  maxLen : Nat

def Code.ofLengths (lengths : List Nat) : Code :=
  let indexed := (List.range lengths.length).zip lengths
  let used := indexed.filter (·.2 > 0)
  { counts := (List.range 16).toArray.map fun len => (lengths.filter (· == len)).length
    symbols := ((used.mergeSort fun a b => a.2 ≤ b.2).map (·.1)).toArray
    maxLen := lengths.foldl max 0 }

def Code.room (c : Code) : Int :=
  (List.range 15).foldl (fun left i => left * 2 - (c.counts.getD (i + 1) 0 : Int)) 1

def Code.usable (c : Code) (lengthCode : Bool) : Bool :=
  c.maxLen == 0 || (c.room ≥ 0 && (c.room == 0 || (!lengthCode && c.maxLen == 1)))

inductive Decoded where
  | symbol (s : Nat) (rest : Bits)
  | invalid (rest : Bits)
  | short

/-- Decodes a symbol bit by bit: `code` holds the bits read so far, `first` the
first code of the current length and `index` the number of shorter codes. -/
def Code.decodeFrom (c : Code) : Nat → Nat → Nat → Nat → Nat → Bits → Decoded
  | 0, _, _, _, _, b => .invalid b
  | fuel + 1, len, code, first, index, b =>
    match b.bit? with
    | none => .short
    | some (bit, b) =>
      let code := code + bit
      let count := c.counts.getD len 0
      if code < first + count then .symbol (c.symbols.getD (index + code - first) 0) b
      else if len ≥ c.maxLen then .invalid b
      else c.decodeFrom fuel (len + 1) (code * 2) ((first + count) * 2) (index + count) b

def Code.decode (c : Code) (b : Bits) : Decoded := c.decodeFrom 16 1 0 0 0 b

def lengthBase : Array Nat :=
  #[3, 4, 5, 6, 7, 8, 9, 10, 11, 13, 15, 17, 19, 23, 27, 31, 35, 43, 51, 59, 67, 83, 99, 115,
    131, 163, 195, 227, 258]

def lengthExtra : Array Nat :=
  #[0, 0, 0, 0, 0, 0, 0, 0, 1, 1, 1, 1, 2, 2, 2, 2, 3, 3, 3, 3, 4, 4, 4, 4, 5, 5, 5, 5, 0]

def distanceBase : Array Nat :=
  #[1, 2, 3, 4, 5, 7, 9, 13, 17, 25, 33, 49, 65, 97, 129, 193, 257, 385, 513, 769, 1025, 1537,
    2049, 3073, 4097, 6145, 8193, 12289, 16385, 24577]

def distanceExtra : Array Nat :=
  #[0, 0, 0, 0, 1, 1, 2, 2, 3, 3, 4, 4, 5, 5, 6, 6, 7, 7, 8, 8, 9, 9, 10, 10, 11, 11, 12, 12, 13, 13]

def fixedLiterals : Code :=
  Code.ofLengths ((List.range 288).map fun s =>
    if s < 144 then 8 else if s < 256 then 9 else if s < 280 then 7 else 8)

def fixedDistances : Code := Code.ofLengths (List.replicate 32 5)

def copyMatch (distance : Nat) : Nat → ByteArray → ByteArray
  | 0, out => out
  | n + 1, out => copyMatch distance n (out.push (out.get! (out.size - distance)))

/-- Decodes the symbols of a block up to its end-of-block symbol: gives the bits
after it, or `none` when the input runs short, with the output so far. -/
def readSymbols (lit dist : Code) : Nat → Bits → ByteArray → Except String (Option Bits × ByteArray)
  | 0, _, out => .ok (none, out)
  | fuel + 1, b, out =>
    match lit.decode b with
    | .short => .ok (none, out)
    | .invalid _ => .error "invalid literal/length code"
    | .symbol s b =>
      if s < 256 then readSymbols lit dist fuel b (out.push s.toUInt8)
      else if s == 256 then .ok (some b, out)
      else if s ≥ 286 then .error "invalid literal/length code"
      else
        let i := s - 257
        match b.take? (lengthExtra.getD i 0) with
        | none => .ok (none, out)
        | some (extra, b) =>
          let length := lengthBase.getD i 0 + extra
          match dist.decode b with
          | .short => .ok (none, out)
          | .invalid _ => .error "invalid distance code"
          | .symbol d b =>
            if d ≥ 30 then .error "invalid distance code"
            else
              match b.take? (distanceExtra.getD d 0) with
              | none => .ok (none, out)
              | some (extra, b) =>
                let distance := distanceBase.getD d 0 + extra
                if distance > out.size then .error "invalid distance too far back"
                else readSymbols lit dist fuel b (copyMatch distance length out)

def lengthCodeOrder : List Nat := [16, 17, 18, 0, 8, 7, 9, 6, 10, 5, 11, 4, 12, 3, 13, 2, 14, 1, 15]

/-- Reads `total` code lengths with the code length code, gathering them in
reverse in `acc`; `none` when the input runs short. -/
def readLengths (code : Code) (total : Nat) : Nat → List Nat → Bits →
    Except String (Option (List Nat × Bits))
  | 0, _, _ => .ok none
  | fuel + 1, acc, b =>
    if acc.length ≥ total then .ok (some (acc.reverse, b))
    else
      let (sym, b?) := match code.decode b with
        | .symbol s b => (s, some b)
        | .invalid b => (0, some b)
        | .short => (0, none)
      match b? with
      | none => .ok none
      | some b =>
        if sym < 16 then readLengths code total fuel (sym :: acc) b
        else
          let (extraBits, base) := if sym == 16 then (2, 3) else if sym == 17 then (3, 3) else (7, 11)
          match b.take? extraBits with
          | none => .ok none
          | some (extra, b) =>
            if sym == 16 && acc.isEmpty then .error "invalid bit length repeat"
            else
              let value := if sym == 16 then acc.headD 0 else 0
              let copies := base + extra
              if acc.length + copies > total then .error "invalid bit length repeat"
              else readLengths code total fuel (List.replicate copies value ++ acc) b

def readDynamic (b : Bits) : Except String (Option (Code × Code × Bits)) :=
  match b.take? 14 with
  | none => .ok none
  | some (header, b) =>
    let nlen := header % 32 + 257
    let ndist := header / 32 % 32 + 1
    let ncode := header / 1024 + 4
    if nlen > 286 || ndist > 30 then .error "too many length or distance symbols"
    else
      match b.take? (3 * ncode) with
      | none => .ok none
      | some (packed, b) =>
        let given := (List.range ncode).map fun i => packed >>> (3 * i) % 8
        let lengthsOf := (List.range 19).map fun sym =>
          match lengthCodeOrder.idxOf? sym with
          | some i => given.getD i 0
          | none => 0
        let codeCode := Code.ofLengths lengthsOf
        if !codeCode.usable true then .error "invalid code lengths set"
        else do
          match ← readLengths codeCode (nlen + ndist) (b.data.size * 8 + 1) [] b with
          | none => pure none
          | some (lengths, b) =>
            if lengths.getD 256 0 == 0 then throw "invalid code -- missing end-of-block"
            let lit := Code.ofLengths (lengths.take nlen)
            if !lit.usable false then throw "invalid literal/lengths set"
            let dist := Code.ofLengths (lengths.drop nlen)
            if !dist.usable false then throw "invalid distances set"
            pure (some (lit, dist, b))

/-- Decodes blocks until the final one ends or the input runs short: gives the
output and whether the stream ended. -/
def readBlocks : Nat → Bits → ByteArray → Except String (ByteArray × Bool)
  | 0, _, out => .ok (out, false)
  | fuel + 1, b, out =>
    match b.take? 3 with
    | none => .ok (out, false)
    | some (header, b) =>
      let final := header % 2 == 1
      let next (r : Option Bits × ByteArray) : Except String (ByteArray × Bool) :=
        match r with
        | (some b, out) => if final then .ok (out, true) else readBlocks fuel b out
        | (none, out) => .ok (out, false)
      match header / 2 with
      | 0 =>
        let start := (b.pos + 7) / 8
        if start + 4 > b.data.size then .ok (out, false)
        else
          let len := (b.data.get! start).toNat + (b.data.get! (start + 1)).toNat * 256
          let nlen := (b.data.get! (start + 2)).toNat + (b.data.get! (start + 3)).toNat * 256
          if len != 65535 - nlen then .error "invalid stored block lengths"
          else
            let stored := b.data.extract (start + 4) (start + 4 + len)
            let out := out ++ stored
            if stored.size < len then .ok (out, false)
            else next (some { b with pos := (start + 4 + len) * 8 }, out)
      | 1 => do next (← readSymbols fixedLiterals fixedDistances (b.data.size * 8 + 1) b out)
      | 2 => do
        match ← readDynamic b with
        | none => pure (out, false)
        | some (lit, dist, b) => next (← readSymbols lit dist (b.data.size * 8 + 1) b out)
      | _ => .error "invalid block type"

def inflate (data : ByteArray) : Except String (ByteArray × Bool) :=
  readBlocks (data.size * 8 + 1) ⟨data, 0⟩ ByteArray.empty

end PluginPack.Archive.Inflate
