import PluginPack.Text.Utf8
import PluginPack.Xml.Charsets

/-!
The character encoding of an XML document.

The first four bytes decide first. A byte order mark, `EF BB BF` for UTF-8 or
`FE FF` and `FF FE` for UTF-16 in big and little endian order, is skipped and
fixes the encoding; so do the bytes of `<?` in UTF-16 (`00 3C 00 3F`,
`3C 00 3F 00`) and of `<` in UCS-4 (`00 00 00 3C`, `3C 00 00 00`). An encoding
found this way is kept whatever the XML declaration names; a name that does not
agree with it only raises a warning.

Otherwise the document is read as UTF-8 up to the end of the name in its XML
declaration, and the rest in the encoding named there. Names are compared
without regard to case. ISO-8859-1 maps each byte to the code point of its
value, ASCII refuses bytes above 127, the other single-byte sets use their
tables, and the multi-byte sets that keep ASCII are read for their ASCII bytes
only. A two- or four-byte encoding cannot be named by a document that is not
written in it, and an unknown name is a fatal error.
-/

namespace PluginPack.Xml

open PluginPack.Text

inductive Encoding where
  | utf8
  | utf16 (bigEndian : Bool)
  | ucs4 (bigEndian : Bool)
  | latin1
  | ascii
  | singleByte (upper : List Nat)
  | asciiOnly
  | unreadable
  deriving DecidableEq, Repr

def upperName (name : String) : String :=
  String.ofList (name.toList.map Char.toUpper)

def utf8Names : List String := ["UTF-8", "UTF8"]

def latin1Names : List String :=
  ["ISO-8859-1", "ISO_8859-1", "ISO_8859-1:1987", "ISO-IR-100", "CP819", "IBM819", "LATIN1", "L1",
   "CSISOLATIN1", "ISO8859-1", "ISO-LATIN-1", "ISO LATIN 1"]

def asciiNames : List String :=
  ["ASCII", "US-ASCII", "ISO646-US", "ISO_646.IRV:1991", "ISO-IR-6", "ANSI_X3.4-1968",
   "ANSI_X3.4-1986", "CP367", "IBM367", "US", "CSASCII"]

def asciiKeepingNames : List String :=
  ["EUC-JP", "EUCJP", "SHIFT_JIS", "SHIFT-JIS", "SJIS", "MS_KANJI", "CSSHIFTJIS", "CP932",
   "WINDOWS-31J", "EUC-KR", "EUCKR", "CP949", "UHC", "GB2312", "EUC-CN", "EUCCN", "GBK", "CP936",
   "GB18030", "BIG5", "BIG-5", "BIG-FIVE", "CN-BIG5", "CSBIG5", "BIG5-HKSCS", "CP950", "EUC-TW",
   "EUCTW", "TIS-620", "TIS620", "CP874", "WINDOWS-874", "VISCII", "ARMSCII-8", "GEORGIAN-PS",
   "GEORGIAN-ACADEMY", "KOI8-T", "PT154", "RK1048", "HP-ROMAN8", "NEXTSTEP", "ISO-2022-JP",
   "ISO-2022-KR", "ISO-2022-CN"]

def wideNames : List String :=
  ["UTF-16", "UTF16", "UTF-16BE", "UTF-16LE", "UCS-2", "UCS2", "UCS-2BE", "UCS-2LE",
   "ISO-10646-UCS-2", "CSUNICODE", "UNICODE", "UNICODEBIG", "UNICODELITTLE", "UTF-32", "UTF32",
   "UTF-32BE", "UTF-32LE", "UCS-4", "UCS4", "UCS-4BE", "UCS-4LE", "ISO-10646-UCS-4", "CSUCS4"]

def Encoding.ofName? (name : String) : Option Encoding :=
  let n := upperName name
  if utf8Names.contains n then some .utf8
  else if latin1Names.contains n then some .latin1
  else if asciiNames.contains n then some .ascii
  else if wideNames.contains n then some .unreadable
  else if asciiKeepingNames.contains n then some .asciiOnly
  else (Charset.all.find? (·.names.contains n)).map fun set => .singleByte set.upper

def utf16Units (bigEndian : Bool) : List UInt8 → List Nat
  | a :: b :: rest =>
    (if bigEndian then a.toNat * 256 + b.toNat else b.toNat * 256 + a.toNat) :: utf16Units bigEndian rest
  | _ => []

def utf16Chars : List Nat → Option (List Char)
  | [] => some []
  | u :: rest =>
    if 0xD800 ≤ u && u < 0xDC00 then
      match rest with
      | v :: more =>
        if 0xDC00 ≤ v && v < 0xE000 then
          (utf16Chars more).map (Char.ofNat (0x10000 + (u - 0xD800) * 0x400 + (v - 0xDC00)) :: ·)
        else none
      | [] => none
    else if 0xDC00 ≤ u && u < 0xE000 then none
    else (utf16Chars rest).map (Char.ofNat u :: ·)

/-- Characters of UCS-4 text, four bytes each; `none` for a value that is no
character or an incomplete unit. -/
def ucs4Chars (bigEndian : Bool) : List UInt8 → Option (List Char)
  | [] => some []
  | a :: b :: c :: d :: rest =>
    let v := if bigEndian then ((a.toNat * 256 + b.toNat) * 256 + c.toNat) * 256 + d.toNat
      else ((d.toNat * 256 + c.toNat) * 256 + b.toNat) * 256 + a.toNat
    if v < 0x110000 && !(0xD800 ≤ v && v < 0xE000) then
      (ucs4Chars bigEndian rest).map (Char.ofNat v :: ·)
    else none
  | _ => none

def singleByteChar (upper : List Nat) (b : UInt8) : Option Char :=
  if b < 0x80 then some (Char.ofNat b.toNat)
  else
    match upper[b.toNat - 0x80]? with
    | some 0 | none => none
    | some n => some (Char.ofNat n)

def Encoding.decode (e : Encoding) (bytes : List UInt8) : Option (List Char) :=
  match e with
  | .utf8 => (decodeUtf8? ⟨bytes.toArray⟩).map String.toList
  | .utf16 big => if bytes.length % 2 == 0 then utf16Chars (utf16Units big bytes) else none
  | .ucs4 big => ucs4Chars big bytes
  | .latin1 => some (bytes.map fun b => Char.ofNat b.toNat)
  | .ascii | .asciiOnly =>
    if bytes.all (· < 0x80) then some (bytes.map fun b => Char.ofNat b.toNat) else none
  | .singleByte upper => bytes.mapM (singleByteChar upper)
  | .unreadable => none

/-- An encoding found from the first bytes of a document: the encoding, the
length of its byte order mark, and the names that agree with it, if they are checked. -/
structure Detected where
  encoding : Encoding
  skip : Nat
  agreeing : Option (List String)

def detect (bytes : List UInt8) : Option Detected :=
  match bytes with
  | 0x00 :: 0x00 :: 0x00 :: 0x3C :: _ => some ⟨.ucs4 true, 0, none⟩
  | 0x00 :: 0x3C :: 0x00 :: 0x3F :: _ => some ⟨.utf16 true, 0, some ["UTF-16", "UTF-16BE", "UTF16"]⟩
  | 0x3C :: 0x00 :: 0x00 :: 0x00 :: _ => some ⟨.ucs4 false, 0, none⟩
  | 0x3C :: 0x00 :: 0x3F :: 0x00 :: _ => some ⟨.utf16 false, 0, some ["UTF-16", "UTF-16LE", "UTF16"]⟩
  | 0xEF :: 0xBB :: 0xBF :: _ :: _ => some ⟨.utf8, 3, some utf8Names⟩
  | 0xFE :: 0xFF :: _ :: _ :: _ => some ⟨.utf16 true, 2, some ["UTF-16", "UTF-16BE", "UTF16"]⟩
  | 0xFF :: 0xFE :: _ :: _ :: _ => some ⟨.utf16 false, 2, some ["UTF-16", "UTF-16LE", "UTF16"]⟩
  | _ => none

example : Encoding.ofName? "windows-1252" = some (.singleByte Charset.windows1252.upper) := by
  decide +kernel
example : Encoding.ofName? "utf8" = some .utf8 := by decide +kernel
example : Encoding.ofName? "UTF-16" = some .unreadable := by decide +kernel

end PluginPack.Xml
