import PluginPack.Metadata.Git.Refs

/-!
The `packed-refs` file of a git repository and the lookup of a ref in it.

The file holds one record per line: an object id, one separator character and a
ref name. A record may be followed by one line starting with `^` (the object the
ref peels to), which belongs to it. An optional first line `# pack-refs with:`
lists traits separated by spaces.

Loading checks the file before any lookup, and a file that fails a check stops
every lookup: the header must be that line and end with a line break, the file
must end with a line break, and its last record must be at least two bytes longer
than an object id. Unless the header lists the trait `sorted`, every record line
must be that long too, and the records are put in order of their names, equal
names keeping their order in the file.

A lookup is a binary search over the bytes of the records by name, trusting the
order: in a file that claims `sorted` but is not, a record can be missed. The
record found must start with a well-formed object id, or the lookup stops
everything as well.
-/

namespace PluginPack.Metadata.Git

def byteAt (buf : ByteArray) (i : Nat) : UInt8 := buf[i]?.getD 0x0A

def nextLineFeed (buf : ByteArray) (i : Nat) : Option Nat :=
  if i < buf.size then
    if byteAt buf i == 0x0A then some i else nextLineFeed buf (i + 1)
  else none
termination_by buf.size - i

def startsRecord (buf : ByteArray) (lo p : Nat) : Bool :=
  p ≤ lo || (byteAt buf (p - 1) == 0x0A && byteAt buf p != byteOf '^')

def startOfRecord (buf : ByteArray) (lo p : Nat) : Nat :=
  if startsRecord buf lo p then p else startOfRecord buf lo (p - 1)
termination_by p - lo
decreasing_by simp only [startsRecord, Bool.or_eq_true, decide_eq_true_eq] at *; omega

def endOfRecord (buf : ByteArray) (p hi : Nat) : Nat :=
  if p + 1 < hi && !(byteAt buf p == 0x0A && byteAt buf (p + 1) != byteOf '^') then
    endOfRecord buf (p + 1) hi
  else p + 1
termination_by hi - p
decreasing_by simp only [Bool.and_eq_true, decide_eq_true_eq] at *; omega

/-- Compares the name that starts at `pos` and runs to the next line feed with a
ref name. -/
def compareName (buf : ByteArray) (pos : Nat) : List UInt8 → Ordering
  | [] => if byteAt buf pos == 0x0A then .eq else .gt
  | b :: rest =>
    let c := byteAt buf pos
    if c == 0x0A then .lt
    else if c != b then compare c b
    else compareName buf (pos + 1) rest

def searchRecords (buf : ByteArray) (hexLength : Nat) (name : List UInt8) :
    Nat → Nat → Nat → Option Nat
  | 0, _, _ => none
  | fuel + 1, lo, hi =>
    if hi ≤ lo then none
    else
      let mid := lo + (hi - lo) / 2
      let start := startOfRecord buf lo mid
      match compareName buf (start + hexLength + 1) name with
      | .lt => searchRecords buf hexLength name fuel (endOfRecord buf mid hi) hi
      | .gt => searchRecords buf hexLength name fuel lo start
      | .eq => some start

/-- The records from `pos` on, each a line and the peeled line after it, if any;
`none` when a record line is shorter than an object id, a separator and one byte. -/
def splitRecords (buf : ByteArray) (hexLength : Nat) (pos : Nat) : Option (List ByteArray) :=
  if pos < buf.size then
    match nextLineFeed buf pos with
    | none => none
    | some eol =>
      if eol - pos < hexLength + 2 then none
      else
        let stop :=
          if eol + 1 < buf.size && byteAt buf (eol + 1) == byteOf '^' then
            ((nextLineFeed buf (eol + 1)).getD (buf.size - 1)) + 1
          else eol + 1
        (splitRecords buf hexLength (max stop (pos + 1))).map fun rest =>
          buf.extract pos stop :: rest
  else some []
termination_by buf.size - pos

def recordName (hexLength : Nat) (r : ByteArray) : List UInt8 :=
  (r.toList.drop (hexLength + 1)).takeWhile (· != 0x0A)

def nameLE (hexLength : Nat) (a b : ByteArray) : Bool :=
  compare (recordName hexLength a) (recordName hexLength b) != .gt

def lastRecordSafe (body : ByteArray) (hexLength : Nat) : Bool :=
  body.size == 0 ||
    (byteAt body (body.size - 1) == 0x0A &&
      body.size - startOfRecord body 0 (body.size - 1) ≥ hexLength + 2)

/-- The records of a `packed-refs` file in lookup order, or `none` when the file
fails a check. -/
def loadPacked (hexLength : Nat) (bytes : ByteArray) : Option ByteArray := do
  let (sorted, start) ← if bytes.size > 0 && byteAt bytes 0 == byteOf '#' then
      match nextLineFeed bytes 0 with
      | none => none
      | some eol =>
        let header := (bytes.extract 0 eol).toList
        let marker := bytesOf "# pack-refs with:"
        if !marker.isPrefixOf header then none
        else
          let traits := splitAt (byteOf ' ') (header.drop marker.length)
          some (traits.contains (bytesOf "sorted"), eol + 1)
    else some (false, 0)
  let body := bytes.extract start bytes.size
  if !lastRecordSafe body hexLength then none
  if sorted then return body
  let records ← splitRecords body hexLength 0
  let ordered := records.mergeSort (nameLE hexLength)
  pure (ordered.foldl (· ++ ·) ByteArray.empty)

inductive Lookup where
  | found (id : String)
  | missing
  | fatal
  deriving DecidableEq, Repr

def lookupPacked (hexLength : Nat) (body : ByteArray) (name : List UInt8) : Lookup :=
  match searchRecords body hexLength name (body.size + 1) 0 body.size with
  | none => .missing
  | some r =>
    let id := (body.extract r (r + hexLength)).toList
    if id.length == hexLength && id.all isHexByte then .found (hexText id) else .fatal

inductive PackedFile where
  | absent
  | unreadable
  | records (body : ByteArray)

def PackedFile.lookup (hexLength : Nat) : PackedFile → List UInt8 → Lookup
  | .absent, _ => .missing
  | .unreadable, _ => .fatal
  | .records body, name => lookupPacked hexLength body name

def PackedFile.ofBytes (hexLength : Nat) (bytes : ByteArray) : PackedFile :=
  match loadPacked hexLength bytes with
  | some body => .records body
  | none => .unreadable

end PluginPack.Metadata.Git
