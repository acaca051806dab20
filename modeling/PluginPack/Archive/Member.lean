import PluginPack.Archive.Directory
import PluginPack.Archive.Crc32
import PluginPack.Archive.Inflate
import PluginPack.Archive.Bunzip
import PluginPack.Archive.Lzma

/-!
Reading the data of a member.

Opening a member checks its local header: the signature, the flags that reading
cannot honour (patched data, strong encryption), a name equal to the one the
directory records, data that stays before the next member, no encryption, and a
known compression method. The data is then read from right after the local
name and extra field, decompressed, cut to the recorded size, and checked
against the recorded checksum. Data that ends before both the compressed size
and the recorded size are reached, without the compressed stream ending, is
truncated.

An entry shows itself as its name, compression method, file mode, external
attributes and sizes; messages about a member asked for by its entry show it so.
-/

namespace PluginPack.Archive

open PluginPack.Text

def compressorName? : Nat → Option String
  | 0 => some "store"
  | 1 => some "shrink"
  | 2 | 3 | 4 | 5 => some "reduce"
  | 6 => some "implode"
  | 7 => some "tokenize"
  | 8 => some "deflate"
  | 9 => some "deflate64"
  | 10 => some "implode"
  | 12 => some "bzip2"
  | 14 => some "lzma"
  | 18 => some "terse"
  | 19 => some "lz77"
  | 97 => some "wavpack"
  | 98 => some "ppmd"
  | _ => none

def fileTypeLetter (mode : Nat) : Char :=
  match mode &&& 0o170000 with
  | 0o100000 => '-'
  | 0o040000 => 'd'
  | 0o120000 => 'l'
  | 0o060000 => 'b'
  | 0o020000 => 'c'
  | 0o010000 => 'p'
  | 0o140000 => 's'
  | _ => '?'

def permissionLetters (mode shift special : Nat) (onExec offExec : Char) : List Char :=
  let bit (k : Nat) := (mode >>> (shift + k)) % 2 == 1
  [if bit 2 then 'r' else '-', if bit 1 then 'w' else '-',
   if mode &&& special != 0 then (if bit 0 then onExec else offExec)
   else if bit 0 then 'x' else '-']

def fileMode (mode : Nat) : String :=
  String.ofList (fileTypeLetter mode :: permissionLetters mode 6 0o4000 's' 'S' ++
    permissionLetters mode 3 0o2000 's' 'S' ++ permissionLetters mode 0 0o1000 't' 'T')

def Entry.describe (e : Entry) : String :=
  let hi := e.externalAttributes >>> 16
  let lo := e.externalAttributes &&& 0xFFFF
  let method := if e.method == 0 then ""
    else " compress_type=" ++ (compressorName? e.method).getD (toString e.method)
  let mode := if hi != 0 then " filemode=" ++ quoted (fileMode hi) else ""
  let attrs := if lo != 0 then " external_attr=0x" ++ String.ofList (Nat.toDigits 16 lo) else ""
  let size := if !e.isDir || e.size != 0 then " file_size=" ++ toString e.size else ""
  let compressed :=
    if (!e.isDir || e.compressedSize != 0) && (e.method != 0 || e.size != e.compressedSize) then
      " compress_size=" ++ toString e.compressedSize
    else ""
  "<ZipInfo filename=" ++ quoted e.name ++ method ++ mode ++ attrs ++ size ++ compressed ++ ">"

def readableMethods : List Nat := [0, 8, 12, 14]

/-- Opens a member: checks its local header and gives where its data starts.
`shown` is how the request names the member, for the message about encryption. -/
def openData (bytes : ByteArray) (e : Entry) (shown : String) : Except Fault Nat := do
  seekTo e.headerOffset
  let h := e.headerOffset.toNat
  if h + 30 > bytes.size then throw (.malformed "Truncated file header")
  if !hasSignature bytes h [0x50, 0x4B, 0x03, 0x04] then
    throw (.malformed "Bad magic number for file header")
  let nameLen := readLE bytes (h + 26) 2
  let extraLen := readLE bytes (h + 28) 2
  let raw := slice bytes (h + 30) nameLen
  if e.flags &&& 0x20 != 0 then throw (.unsupported "compressed patched data (flag bit 5)")
  if e.flags &&& 0x40 != 0 then throw (.unsupported "strong encryption (flag bit 6)")
  let localName ← decodeName raw (readLE bytes (h + 6) 2 &&& 0x800 != 0)
  if localName != e.recorded then
    throw (.malformed ("File name in directory " ++ quoted e.recorded ++ " and header " ++
      quotedBytes raw ++ " differ."))
  let start := min bytes.size (h + 30 + nameLen + extraLen)
  if (start : Int) + e.compressedSize > e.endOffset then
    throw (.malformed ("Overlapped entries: " ++ quoted e.recorded ++ " (possible zip bomb)"))
  if e.flags &&& 1 != 0 then
    throw (.encrypted ("File " ++ shown ++ " is encrypted, password required for extraction"))
  if !readableMethods.contains e.method then
    throw (.unsupported "That compression method is not supported")
  pure start

/-- Decompresses the data of a member by its method: the bytes and whether the
compressed stream ended. -/
def decompress (method : Nat) (raw : ByteArray) : Except Fault (ByteArray × Bool) :=
  match method with
  | 8 =>
    match Inflate.inflate raw with
    | .ok r => .ok r
    | .error m => .error (.inflate ("Error -3 while decompressing data: " ++ m))
  | 12 =>
    match Bunzip.bunzip raw with
    | some r => .ok r
    | none => .error (.io "Invalid data stream")
  | 14 =>
    match Lzma.decompress raw with
    | .decoded out ended => .ok (out, ended)
    | .badOptions => .error (.lzma "Invalid or unsupported options")
    | .corrupt => .error (.lzma "Corrupt input data")
  | _ => .ok (raw, false)

def readData (bytes : ByteArray) (e : Entry) (start : Nat) : Except Fault ByteArray := do
  let raw := slice bytes start e.compressedSize
  if e.compressedSize > 0 && raw.size == 0 then throw .truncated
  let (decoded, ended) ← decompress e.method raw
  if !(ended || raw.size == e.compressedSize || decoded.size ≥ e.size) then throw .truncated
  let out := decoded.extract 0 e.size
  if (crc32 out).toNat != e.crc then throw (.malformed ("Bad CRC-32 for file " ++ quoted e.name))
  pure out

def readEntry (bytes : ByteArray) (e : Entry) (shown : String) : Except Fault ByteArray := do
  readData bytes e (← openData bytes e shown)

def readNamed (bytes : ByteArray) (entries : List Entry) (name : String) :
    Option (Except Fault ByteArray) :=
  (findEntry entries name).map fun e => readEntry bytes e (quoted name)

def readAll (bytes : ByteArray) : Except Fault (List (String × ByteArray)) := do
  let entries ← readDirectory bytes
  entries.mapM fun e => do pure (e.name, ← readEntry bytes e e.describe)

end PluginPack.Archive
