import PluginPack.Xml.Error

/-!
The XML declaration at the start of a document.

A document may open with `<?xml` and a blank, followed by, in this order: the
version, `version = "1.n"`; optionally the encoding, `encoding = "name"`, where
the name is a letter followed by letters, digits, `.`, `_` and `-`; optionally
`standalone = "yes"` or `"no"`; and `?>`. Blanks separate the parts and may
surround each `=`; either quote may enclose each value. A version other than
`1.0` that starts with `1.` is read with a warning; any other version, and any
other text, is a fatal error.

```
<?xml version="1.0" encoding="UTF-8"?>     read
<?xml version = '1.1' ?>                   read, with a warning
<?xml version="1.0" foo="bar"?>            refused
<?xml encoding="UTF-8" version="1.0"?>     refused
```
-/

namespace PluginPack.Xml

def isBlankChar (c : Char) : Bool := c == ' ' || c == '\t' || c == '\n' || c == '\r'

structure Declaration where
  version : String
  encoding : Option String := none
  standalone : Option Bool := none
  deriving Repr

def skipBlanks (cs : List Char) : List Char × Bool :=
  let rest := cs.dropWhile isBlankChar
  (rest, rest.length < cs.length)

/-- Reads `keyword`, blanks, `=`, blanks and an opening quote; gives the quote
and the rest after it, or `none` when the keyword is absent. -/
def pseudoAttribute (keyword : String) (cs : List Char) :
    Except XmlError (Option (Char × List Char)) :=
  if keyword.toList.isPrefixOf cs then
    match (skipBlanks (cs.drop keyword.length)).1 with
    | '=' :: rest =>
      match (skipBlanks rest).1 with
      | q :: value =>
        if q == '"' || q == '\'' then .ok (some (q, value)) else refuse "quote expected"
      | [] => refuse "quote expected"
    | _ => refuse "= expected"
  else .ok none

def closingQuote (q : Char) (cs : List Char) : Except XmlError (List Char) :=
  match cs with
  | c :: rest => if c == q then .ok rest else refuse "string not closed"
  | [] => refuse "string not closed"

def versionNumber (cs : List Char) : Option (List Char × List Char) :=
  match cs with
  | d :: '.' :: rest =>
    if '0' ≤ d && d ≤ '9' then
      let digits := rest.takeWhile fun c => '0' ≤ c && c ≤ '9'
      some (d :: '.' :: digits, rest.drop digits.length)
    else none
  | _ => none

def encodingName (cs : List Char) : Option (List Char × List Char) :=
  let isLetter (c : Char) := ('a' ≤ c && c ≤ 'z') || ('A' ≤ c && c ≤ 'Z')
  match cs with
  | c :: rest =>
    if isLetter c then
      let more := rest.takeWhile fun d =>
        isLetter d || ('0' ≤ d && d ≤ '9') || d == '.' || d == '_' || d == '-'
      some (c :: more, rest.drop more.length)
    else none
  | [] => none

def declarationEnd (cs : List Char) : Except XmlError (List Char) :=
  match cs with
  | '?' :: '>' :: rest => .ok rest
  | _ => refuse "XML declaration not finished"

def readStandalone (cs : List Char) : Except XmlError (Option Bool × List Char) := do
  match ← pseudoAttribute "standalone" (skipBlanks cs).1 with
  | none => pure (none, ← declarationEnd (skipBlanks cs).1)
  | some (q, value) =>
    let (flag, rest) ← match value with
      | 'y' :: 'e' :: 's' :: after => pure (true, after)
      | 'n' :: 'o' :: after => pure (false, after)
      | _ => refuse "standalone accepts only 'yes' or 'no'"
    let rest ← closingQuote q rest
    pure (some flag, ← declarationEnd (skipBlanks rest).1)

def readAfterVersion (version : String) (cs : List Char) : Except XmlError (Declaration × List Char) := do
  let (afterBlanks, blank) := skipBlanks cs
  if !blank then
    match cs with
    | '?' :: '>' :: rest => return ({ version }, rest)
    | _ => refuse "blank needed here"
  match ← pseudoAttribute "encoding" afterBlanks with
  | none =>
    let (standalone, rest) ← readStandalone afterBlanks
    pure ({ version, standalone }, rest)
  | some (q, value) =>
    match encodingName value with
    | none => refuse "invalid encoding name"
    | some (name, rest) =>
      let rest ← closingQuote q rest
      let encoding := some (String.ofList name)
      let (_, blankAfter) := skipBlanks rest
      if !blankAfter then
        match rest with
        | '?' :: '>' :: after => return ({ version, encoding }, after)
        | _ => refuse "blank needed here"
      let (standalone, after) ← readStandalone rest
      pure ({ version, encoding, standalone }, after)

/-- Reads the XML declaration at the start of a document's characters, if there
is one; gives it, whether its version raises a warning, and the characters after it. -/
def Declaration.read (cs : List Char) : Except XmlError (Option Declaration × Bool × List Char) :=
  match cs with
  | '<' :: '?' :: 'x' :: 'm' :: 'l' :: c :: rest =>
    if !isBlankChar c then .ok (none, false, cs)
    else do
      let afterBlanks := (skipBlanks rest).1
      match ← pseudoAttribute "version" afterBlanks with
      | none => refuse "version missing"
      | some (q, value) =>
        match versionNumber value with
        | none => refuse "malformed version"
        | some (number, more) =>
          let more ← closingQuote q more
          let version := String.ofList number
          if version == "1.0" || version.startsWith "1." then
            let (decl, after) ← readAfterVersion version more
            pure (some decl, version != "1.0", after)
          else refuse "unsupported version"
  | _ => .ok (none, false, cs)

end PluginPack.Xml
