import PluginPack.Archive.Bytes
import PluginPack.Archive.Fault
import PluginPack.Text.Quoted

/-!
The central directory of a zip archive.

The end record is the last 22 bytes when they hold one without a comment, and
otherwise the last end signature within the final 64 KiB and 22 bytes, provided a
whole record follows it. A zip64 locator just before it points to a zip64 end
record, 56 bytes further back, whose directory size and offset replace the end
record's. The directory is read from its recorded offset, shifted by however
many bytes were prepended to the archive: the gap between where the end record
is and where the directory says it should be.

Each directory entry is 46 bytes and a name, an extra field and a comment of the
lengths it gives. The name is UTF-8 when flag bit 11 is set and code page 437
otherwise, and ends at its first NUL. A zip64 extra field gives the sizes and
the header offset that the entry marks as too large for its four bytes. Each
member ends where the next member by header offset begins, or where the
directory begins.
-/

namespace PluginPack.Archive

open PluginPack.Text

/-- Where the end record is, and the size and offset of the directory; `zip64`
tells whether a zip64 record gave them. -/
structure EndRecord where
  location : Nat
  dirSize : Nat
  dirOffset : Nat
  zip64 : Bool

def EndRecord.at (bytes : ByteArray) (location : Nat) : EndRecord :=
  { location, dirSize := readLE bytes (location + 12) 4, dirOffset := readLE bytes (location + 16) 4,
    zip64 := false }

def endSignature : List UInt8 := [0x50, 0x4B, 0x05, 0x06]

def findEnd (bytes : ByteArray) : Option EndRecord :=
  let size := bytes.size
  if size < 22 then none
  else
    let last := size - 22
    if hasSignature bytes last endSignature && readLE bytes (last + 20) 2 == 0 then
      some (EndRecord.at bytes last)
    else
      let start := size - min size (65536 + 22)
      let found := (List.range (size - start)).foldl (fun acc i =>
        if hasSignature bytes (start + i) endSignature then some (start + i) else acc) none
      match found with
      | some i => if i + 22 ≤ size then some (EndRecord.at bytes i) else none
      | none => none

/-- Takes the directory size and offset from a zip64 end record, when a zip64
locator stands right before the end record. -/
def withZip64 (bytes : ByteArray) (r : EndRecord) : Except Fault EndRecord :=
  if r.location < 20 then .ok r
  else
    let locator := r.location - 20
    if !hasSignature bytes locator [0x50, 0x4B, 0x06, 0x07] then .ok r
    else if readLE bytes (locator + 4) 4 != 0 || readLE bytes (locator + 16) 4 > 1 then
      .error (.malformed "zipfiles that span multiple disks are not supported")
    else if r.location < 76 then .error (.malformed "File is not a zip file")
    else
      let record := r.location - 76
      if !hasSignature bytes record [0x50, 0x4B, 0x06, 0x06] then .ok r
      else
        let dirSize := readLE bytes (record + 40) 8
        let dirOffset := readLE bytes (record + 48) 8
        .ok { r with dirSize, dirOffset, zip64 := true }

/-- A member as the central directory records it: its name as recorded and as
used (cut at the first NUL), its flags, compression method, checksum and sizes,
its external attributes, where its local header starts and where its data must
end. -/
structure Entry where
  recorded : String
  name : String
  flags : Nat
  method : Nat
  crc : Nat
  compressedSize : Nat
  size : Nat
  externalAttributes : Nat
  headerOffset : Int
  endOffset : Int
  deriving Repr, Inhabited

def Entry.isDir (e : Entry) : Bool := e.name.endsWith "/"

def decodeName (raw : ByteArray) (utf8 : Bool) : Except Fault String :=
  if utf8 then
    match decodeUtf8Strict raw with
    | .ok s => .ok s
    | .error f => .error (.undecodable f)
  else .ok (decodeCp437 raw)

def zip64Mark : Nat := 0xFFFFFFFF

def zip64Field (data : ByteArray) (pos : Nat) (what : String) : Except Fault Nat :=
  if pos + 8 ≤ data.size then .ok (readLE data pos 8)
  else .error (.malformed ("Corrupt zip64 extra field. " ++ what ++ " not found."))

/-- Applies a zip64 extra field: the size, the compressed size and the header
offset each come from it, in that order, when the entry marks them. -/
def applyZip64 (data : ByteArray) (e : Entry) : Except Fault Entry := do
  let (size, pos) ← if e.size == zip64Mark || e.size == 0xFFFFFFFFFFFFFFFF then do
      pure ((← zip64Field data 0 "File size"), 8)
    else pure (e.size, 0)
  let (compressedSize, pos) ← if e.compressedSize == zip64Mark then do
      pure ((← zip64Field data pos "Compress size"), pos + 8)
    else pure (e.compressedSize, pos)
  let headerOffset ← if e.headerOffset == (zip64Mark : Int) then do
      pure ((← zip64Field data pos "Header offset" : Nat) : Int)
    else pure e.headerOffset
  pure { e with size, compressedSize, headerOffset }

def decodeExtra : Nat → ByteArray → Entry → Except Fault Entry
  | 0, _, e => .ok e
  | fuel + 1, extra, e =>
    if extra.size < 4 then .ok e
    else
      let tp := readLE extra 0 2
      let ln := readLE extra 2 2
      if ln + 4 > extra.size then
        .error (.malformed ("Corrupt extra field " ++ String.ofList (hexDigits 4 tp) ++
          " (size=" ++ toString ln ++ ")"))
      else do
        let e ← if tp == 1 then applyZip64 (slice extra 4 ln) e else pure e
        decodeExtra fuel (extra.extract (ln + 4) extra.size) e

def maxExtractVersion : Nat := 63

/-- Reads the directory entries from `cd`, `total` bytes of them read so far, up
to the recorded size `dirSize`; `shift` moves the header offsets. -/
def readEntries (cd : ByteArray) (dirSize : Nat) (shift : Int) : Nat → Nat → Except Fault (List Entry)
  | 0, _ => .ok []
  | fuel + 1, total =>
    if total ≥ dirSize then .ok []
    else if total + 46 > cd.size then .error (.malformed "Truncated central directory")
    else if !hasSignature cd total [0x50, 0x4B, 0x01, 0x02] then
      .error (.malformed "Bad magic number for central directory")
    else do
      let flags := readLE cd (total + 8) 2
      let nameLen := readLE cd (total + 28) 2
      let extraLen := readLE cd (total + 30) 2
      let commentLen := readLE cd (total + 32) 2
      let recorded ← decodeName (slice cd (total + 46) nameLen) (flags &&& 0x800 != 0)
      let version := (cd.get! (total + 6)).toNat
      if version > maxExtractVersion then
        throw (.unsupported ("zip file version " ++ toString (version / 10) ++ "." ++
          toString (version % 10)))
      let entry : Entry := {
        recorded
        name := String.ofList (recorded.toList.takeWhile (· != '\x00'))
        flags
        method := readLE cd (total + 10) 2
        crc := readLE cd (total + 16) 4
        compressedSize := readLE cd (total + 20) 4
        size := readLE cd (total + 24) 4
        externalAttributes := readLE cd (total + 38) 4
        headerOffset := readLE cd (total + 42) 4
        endOffset := 0 }
      let extra := slice cd (total + 46 + nameLen) extraLen
      let entry ← decodeExtra (extra.size + 1) extra entry
      let entry := { entry with headerOffset := entry.headerOffset + shift }
      let rest ← readEntries cd dirSize shift fuel (total + 46 + nameLen + extraLen + commentLen)
      pure (entry :: rest)

def withEndOffsets (start : Int) (entries : List Entry) : List Entry :=
  let indexed := (List.range entries.length).zip entries
  let byOffset := indexed.mergeSort fun a b => a.2.headerOffset ≥ b.2.headerOffset
  let (ends, _) := byOffset.foldl (fun (acc : List (Nat × Int) × Int) (i, e) =>
    ((i, acc.2) :: acc.1, e.headerOffset)) ([], start)
  indexed.map fun (i, e) => { e with endOffset := (ends.lookup i).getD start }

def readDirectory (bytes : ByteArray) : Except Fault (List Entry) := do
  let r ← match findEnd bytes with
    | some r => withZip64 bytes r
    | none => throw (.malformed "File is not a zip file")
  let shift : Int := (r.location : Int) - r.dirSize - r.dirOffset - (if r.zip64 then 76 else 0)
  let start : Int := r.dirOffset + shift
  if start < 0 then throw (.malformed "Bad offset for central directory")
  seekTo start
  readAtOnce r.dirSize
  let cd := slice bytes start.toNat r.dirSize
  let entries ← readEntries cd r.dirSize shift (cd.size / 46 + 2) 0
  pure (withEndOffsets start entries)

def findEntry (entries : List Entry) (name : String) : Option Entry :=
  entries.foldl (fun acc e => if e.name == name then some e else acc) none

end PluginPack.Archive
