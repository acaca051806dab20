import PluginPack.Xml.Error
import PluginPack.Text.Case

/-!
Characters, names, comments and processing instructions of XML.

A name starts with a letter, `_` or `:` (or one of the other name-start
characters of XML) and goes on with name characters, which add digits, `-`, `.`
and a few combining characters. A name without `:` is an NCName; a qualified
name is an NCName, or two NCNames joined by one `:`.

A comment is `<!--`, text without `--`, and `-->`. A processing instruction is
`<?`, a target name, and either `?>` directly or a blank, text and `?>`. The
target `xml` (in any case) is reserved for the XML declaration and refused;
other targets starting with `xml` raise a warning, except `xml-stylesheet` and
`xml-model`, and a target with `:` is an error of namespaces.
-/

namespace PluginPack.Xml

def isXmlChar (c : Char) : Bool :=
  let n := c.toNat
  n == 9 || n == 10 || n == 13 || (0x20 ≤ n && n ≤ 0xD7FF) || (0xE000 ≤ n && n ≤ 0xFFFD) ||
    0x10000 ≤ n

def isNameStart (c : Char) : Bool :=
  let n := c.toNat
  c == ':' || c == '_' || ('a' ≤ c && c ≤ 'z') || ('A' ≤ c && c ≤ 'Z') ||
    (0xC0 ≤ n && n ≤ 0xD6) || (0xD8 ≤ n && n ≤ 0xF6) || (0xF8 ≤ n && n ≤ 0x2FF) ||
    (0x370 ≤ n && n ≤ 0x37D) || (0x37F ≤ n && n ≤ 0x1FFF) || (0x200C ≤ n && n ≤ 0x200D) ||
    (0x2070 ≤ n && n ≤ 0x218F) || (0x2C00 ≤ n && n ≤ 0x2FEF) || (0x3001 ≤ n && n ≤ 0xD7FF) ||
    (0xF900 ≤ n && n ≤ 0xFDCF) || (0xFDF0 ≤ n && n ≤ 0xFFFD) || (0x10000 ≤ n && n ≤ 0xEFFFF)

def isNameChar (c : Char) : Bool :=
  let n := c.toNat
  isNameStart c || c == '-' || c == '.' || ('0' ≤ c && c ≤ '9') || n == 0xB7 ||
    (0x300 ≤ n && n ≤ 0x36F) || (0x203F ≤ n && n ≤ 0x2040)

def readName : List Char → Except XmlError (String × List Char)
  | c :: rest =>
    if isNameStart c then .ok (String.ofList (c :: rest.takeWhile isNameChar), rest.dropWhile isNameChar)
    else refuse "name expected"
  | [] => refuse "name expected"

def readNmtoken (cs : List Char) : Except XmlError (String × List Char) :=
  let token := cs.takeWhile isNameChar
  if token.isEmpty then refuse "name token expected"
  else .ok (String.ofList token, cs.drop token.length)

def isNcName (cs : List Char) : Bool :=
  match cs with
  | c :: rest => isNameStart c && c != ':' && rest.all fun d => isNameChar d && d != ':'
  | [] => false

def isQName (name : String) : Bool :=
  match (name.toList.splitOn ':').map String.ofList with
  | [local_] => isNcName local_.toList
  | [p, local_] => isNcName p.toList && isNcName local_.toList
  | _ => false

def splitAtSeq (stop : List Char) : List Char → Option (List Char × List Char)
  | [] => none
  | cs@(c :: rest) =>
    if stop.isPrefixOf cs then some ([], cs.drop stop.length)
    else (splitAtSeq stop rest).map fun (before, after) => (c :: before, after)

def readComment (cs : List Char) : Except XmlError (String × List Char) :=
  match splitAtSeq "--".toList cs with
  | some (body, '>' :: rest) => .ok (String.ofList body, rest)
  | _ => refuse "malformed comment"

def knownXmlTargets : List String := ["xml-stylesheet", "xml-model"]

/-- Reads a processing instruction after its `<?`: its target, the issues its
target raises, and the rest after `?>`. -/
def readInstruction (cs : List Char) : Except XmlError (String × List Issue × List Char) := do
  let (target, rest) ← readName cs
  let lowered := PluginPack.Text.lower target
  if lowered == "xml" then refuse "reserved processing instruction target"
  let issues :=
    (if lowered.startsWith "xml" && !knownXmlTargets.contains target then [Issue.warning] else []) ++
    (if target.contains ':' then [Issue.error false] else [])
  match rest with
  | '?' :: '>' :: after => .ok (target, issues, after)
  | c :: _ =>
    if c == ' ' || c == '\t' || c == '\n' || c == '\r' then
      match splitAtSeq "?>".toList rest with
      | some (_, after) => .ok (target, issues, after)
      | none => refuse "unterminated processing instruction"
    else refuse "blank expected in processing instruction"
  | [] => refuse "unterminated processing instruction"

end PluginPack.Xml
