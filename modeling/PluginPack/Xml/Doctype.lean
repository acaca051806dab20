import PluginPack.Xml.Declaration
import PluginPack.Xml.Uri
import PluginPack.Xml.Value

/-!
The document type declaration and its internal subset.

`<!DOCTYPE name` may name an external subset with `SYSTEM "uri"` or
`PUBLIC "id" "uri"`, which is not read, and may hold an internal subset in
square brackets: markup declarations, parameter entity references, comments,
processing instructions and blanks, up to `]` and `>`.

A general entity is declared with a quoted value, whose character references
are replaced at once, or as external (`SYSTEM` or `PUBLIC`), possibly unparsed
with `NDATA`. A parameter entity (`<!ENTITY % name ...>`) is internal or
external; a reference `%name;` to an internal one reads its text as further
declarations. The first declaration of a name counts. Element declarations
(`EMPTY`, `ANY`, mixed content or a content model of `,` or `|` groups),
attribute-list declarations (types, enumerations, defaults) and notation
declarations are checked for their form. Any other text, a missing blank or a
missing `>` is a fatal error; redeclaring an element, a repeated enumeration
value, a second ID attribute of an element and a default value that does not
fit its type are errors; redeclaring an attribute is a warning.

An entity that no declaration names is fatal to refer to, unless the document
is not standalone and names an external subset or has referred to a parameter
entity; then a reference to it is an error that the document is read with.
-/

namespace PluginPack.Xml

def requireBlanks (what : String) (cs : List Char) : Except XmlError (List Char) :=
  let (rest, blank) := skipBlanks cs
  if blank then .ok rest else refuse ("blank required " ++ what)

/-- Checks that every `&` of an entity value, other than a character reference,
starts a reference `&name;`, and that no `%` occurs. -/
def valueRefsOk : List Char → Bool
  | '&' :: rest =>
    match rest with
    | '#' :: more => valueRefsOk more
    | c :: more => isNameStart c && (more.dropWhile isNameChar).head? == some ';' && valueRefsOk more
    | [] => false
  | '%' :: _ => false
  | _ :: rest => valueRefsOk rest
  | [] => true

def readEntityValue (cs : List Char) : Except XmlError (List Char × List Char) :=
  match cs with
  | q :: rest =>
    if q == '"' || q == '\'' then
      let body := rest.takeWhile (· != q)
      match rest.drop body.length with
      | _ :: after =>
        if valueRefsOk body then do
          pure (← replaceCharRefs (body.length + 1) body, after)
        else refuse "& or % in an entity value that starts no reference"
      | [] => refuse "entity value not finished"
    else refuse "entity value expected"
  | [] => refuse "entity value expected"

def readSystemLiteral (cs : List Char) : Except XmlError (String × List Char) :=
  match cs with
  | q :: rest =>
    if q == '"' || q == '\'' then
      let body := rest.takeWhile (· != q)
      match rest.drop body.length with
      | _ :: after => .ok (String.ofList body, after)
      | [] => refuse "system literal not finished"
    else refuse "system literal expected"
  | [] => refuse "system literal expected"

def isPubidChar (c : Char) : Bool :=
  c == ' ' || c == '\r' || c == '\n' || ('a' ≤ c && c ≤ 'z') || ('A' ≤ c && c ≤ 'Z') ||
    ('0' ≤ c && c ≤ '9') || "-'()+,./:=?;!*#@$_%".toList.contains c

def readPubidLiteral (cs : List Char) : Except XmlError (String × List Char) :=
  match cs with
  | q :: rest =>
    if q == '"' || q == '\'' then
      let body := rest.takeWhile fun c => isPubidChar c && c != q
      match rest.drop body.length with
      | c :: after => if c == q then .ok (String.ofList body, after) else refuse "public identifier not finished"
      | [] => refuse "public identifier not finished"
    else refuse "public identifier expected"
  | [] => refuse "public identifier expected"

/-- Reads an external identifier, if present; gives the system literal, if any.
With `strict`, a public identifier must be followed by a blank and a system
literal; otherwise the system literal may be left out. -/
def readExternalId (strict : Bool) (cs : List Char) :
    Except XmlError (Option (Option String) × List Char) :=
  match cs with
  | 'S' :: 'Y' :: 'S' :: 'T' :: 'E' :: 'M' :: rest => do
    let rest ← requireBlanks "after SYSTEM" rest
    let (uri, after) ← readSystemLiteral rest
    pure (some (some uri), after)
  | 'P' :: 'U' :: 'B' :: 'L' :: 'I' :: 'C' :: rest => do
    let rest ← requireBlanks "after PUBLIC" rest
    let (_, after) ← readPubidLiteral rest
    if strict then
      let more ← requireBlanks "after the public identifier" after
      let (uri, last) ← readSystemLiteral more
      pure (some (some uri), last)
    else
      let (more, blank) := skipBlanks after
      match more with
      | q :: _ =>
        if blank && (q == '"' || q == '\'') then do
          let (uri, last) ← readSystemLiteral more
          pure (some (some uri), last)
        else pure (some none, after)
      | [] => pure (some none, after)
  | _ => .ok (none, cs)

def checkSystemId (uri : String) : Except XmlError (List Issue) :=
  if !Uri.isUriReference uri then .ok [.error false]
  else if uri.contains '#' then refuse "fragment in the system identifier of an entity"
  else .ok []

def skipOccurrence (cs : List Char) : List Char :=
  match cs with
  | '?' :: rest | '*' :: rest | '+' :: rest => rest
  | _ => cs

def maxGroupDepth : Nat := 128

mutual

/-- Reads the rest of a group of a content model after its `(`: particles
separated all by `,` or all by `|`, the closing `)` and an occurrence mark. -/
def readGroup : Nat → Nat → List Char → Except XmlError (List Char)
  | 0, _, _ => refuse "content model too long"
  | fuel + 1, depth, cs =>
    if depth > maxGroupDepth then refuse "content model too deep"
    else do
      let afterFirst ← readParticle fuel depth (skipBlanks cs).1
      readGroupTail fuel depth none (skipBlanks afterFirst).1

def readParticle : Nat → Nat → List Char → Except XmlError (List Char)
  | 0, _, _ => refuse "content model too long"
  | fuel + 1, depth, '(' :: rest => readGroup fuel (depth + 1) rest
  | _ + 1, _, cs => do
    let (_, rest) ← readName cs
    pure (skipOccurrence rest)

/-- Reads the separators and particles of a group up to its `)`; `sep` is the
separator the group uses, once one has been seen. -/
def readGroupTail : Nat → Nat → Option Char → List Char → Except XmlError (List Char)
  | 0, _, _, _ => refuse "content model too long"
  | _ + 1, _, _, ')' :: rest => .ok (skipOccurrence rest)
  | fuel + 1, depth, sep, c :: rest =>
    if (c == ',' || c == '|') && (sep.isNone || sep == some c) then do
      let afterParticle ← readParticle fuel depth (skipBlanks rest).1
      readGroupTail fuel depth (some c) (skipBlanks afterParticle).1
    else refuse "separator or ) expected in a content model"
  | _ + 1, _, _, [] => refuse "content model not finished"

end

/-- Reads the rest of mixed content after `#PCDATA`: either `)` with an optional
`*`, or names after `|` and `)*`. -/
def readMixed : Nat → List Char → Except XmlError (List Char)
  | 0, _ => refuse "content model too long"
  | _ + 1, ')' :: '*' :: rest => .ok rest
  | _ + 1, ')' :: rest => .ok rest
  | fuel + 1, '|' :: rest => do
    let (_, after) ← readName (skipBlanks rest).1
    readMixedNames fuel (skipBlanks after).1
  | _ + 1, _ => refuse "mixed content not finished"
where
  readMixedNames : Nat → List Char → Except XmlError (List Char)
    | 0, _ => refuse "content model too long"
    | _ + 1, ')' :: '*' :: rest => .ok rest
    | fuel + 1, '|' :: rest => do
      let (_, after) ← readName (skipBlanks rest).1
      readMixedNames fuel (skipBlanks after).1
    | _ + 1, _ => refuse "mixed content must end with )*"

def readElementDecl (dtd : Dtd) (cs : List Char) : Except XmlError (Dtd × List Issue × List Char) := do
  let cs ← requireBlanks "after ELEMENT" cs
  let (name, rest) ← readName cs
  let rest ← requireBlanks "after the element name" rest
  let afterModel ← match rest with
    | 'E' :: 'M' :: 'P' :: 'T' :: 'Y' :: more => pure more
    | 'A' :: 'N' :: 'Y' :: more => pure more
    | '(' :: more =>
      let inner := (skipBlanks more).1
      match inner with
      | '#' :: 'P' :: 'C' :: 'D' :: 'A' :: 'T' :: 'A' :: after =>
        readMixed (after.length + 1) (skipBlanks after).1
      | _ => readGroup (more.length + 1) 1 more
    | _ => refuse "EMPTY, ANY or ( expected"
  match (skipBlanks afterModel).1 with
  | '>' :: after =>
    if dtd.elements.contains name then pure (dtd, [.error false], after)
    else pure ({ dtd with elements := name :: dtd.elements }, [], after)
  | _ => refuse "> expected after an element declaration"

inductive AttributeType where
  | cdata | id | idref | idrefs | entity | entities | nmtoken | nmtokens
  | enumeration | notationName
  deriving DecidableEq, Repr

/-- Reads names or name tokens separated by `|` up to `)`, after `(`; gives the
values read, in order, and the rest. -/
def readChoices (token : Bool) : Nat → List String → List Char →
    Except XmlError (List String × List Char)
  | 0, _, _ => refuse "enumeration too long"
  | fuel + 1, acc, cs => do
    let (value, rest) ← if token then readNmtoken (skipBlanks cs).1 else readName (skipBlanks cs).1
    match (skipBlanks rest).1 with
    | '|' :: more => readChoices token fuel (acc ++ [value]) more
    | ')' :: more => pure (acc ++ [value], more)
    | _ => refuse "| or ) expected in an enumeration"

def readAttributeType (cs : List Char) : Except XmlError (AttributeType × Bool × List Char) :=
  let repeats (vs : List String) : Bool := vs.length != vs.eraseDups.length
  match cs with
  | 'C' :: 'D' :: 'A' :: 'T' :: 'A' :: rest => .ok (.cdata, false, rest)
  | 'I' :: 'D' :: 'R' :: 'E' :: 'F' :: 'S' :: rest => .ok (.idrefs, false, rest)
  | 'I' :: 'D' :: 'R' :: 'E' :: 'F' :: rest => .ok (.idref, false, rest)
  | 'I' :: 'D' :: rest => .ok (.id, false, rest)
  | 'E' :: 'N' :: 'T' :: 'I' :: 'T' :: 'Y' :: rest => .ok (.entity, false, rest)
  | 'E' :: 'N' :: 'T' :: 'I' :: 'T' :: 'I' :: 'E' :: 'S' :: rest => .ok (.entities, false, rest)
  | 'N' :: 'M' :: 'T' :: 'O' :: 'K' :: 'E' :: 'N' :: 'S' :: rest => .ok (.nmtokens, false, rest)
  | 'N' :: 'M' :: 'T' :: 'O' :: 'K' :: 'E' :: 'N' :: rest => .ok (.nmtoken, false, rest)
  | 'N' :: 'O' :: 'T' :: 'A' :: 'T' :: 'I' :: 'O' :: 'N' :: rest => do
    let rest ← requireBlanks "after NOTATION" rest
    match rest with
    | '(' :: more => do
      let (names, after) ← readChoices false (more.length + 1) [] more
      pure (.notationName, repeats names, after)
    | _ => refuse "( expected after NOTATION"
  | '(' :: more => do
    let (tokens, after) ← readChoices true (more.length + 1) [] more
    pure (.enumeration, repeats tokens, after)
  | _ => refuse "attribute type expected"

def defaultFits (t : AttributeType) (value : List Char) : Bool :=
  let words := (value.splitOn ' ').filter (!·.isEmpty)
  let isName (w : List Char) := match w with
    | c :: rest => isNameStart c && rest.all isNameChar
    | [] => false
  let isToken (w : List Char) := !w.isEmpty && w.all isNameChar
  match t with
  | .cdata => true
  | .id | .idref | .entity | .notationName => words.length == 1 && words.all isName
  | .idrefs | .entities => !words.isEmpty && words.all isName
  | .nmtoken | .enumeration => words.length == 1 && words.all isToken
  | .nmtokens => !words.isEmpty && words.all isToken

/-- Reads a default declaration: `#REQUIRED`, `#IMPLIED`, or an optional
`#FIXED` and a value. -/
def readDefaultDecl (budget : Nat) (st : Checked) (cs : List Char) :
    Except XmlError (Option (List Char) × Checked × List Char) :=
  match cs with
  | '#' :: 'R' :: 'E' :: 'Q' :: 'U' :: 'I' :: 'R' :: 'E' :: 'D' :: rest => .ok (none, st, rest)
  | '#' :: 'I' :: 'M' :: 'P' :: 'L' :: 'I' :: 'E' :: 'D' :: rest => .ok (none, st, rest)
  | '#' :: 'F' :: 'I' :: 'X' :: 'E' :: 'D' :: rest => do
    let rest ← requireBlanks "after #FIXED" rest
    let (value, st, after) ← readValue budget st rest
    pure (some value, st, after)
  | _ => do
    let (value, st, after) ← readValue budget st cs
    pure (some value, st, after)

def collapseSpaces (value : List Char) : List Char :=
  [' '].intercalate ((value.splitOn ' ').filter (!·.isEmpty))

def isNamespaceAttribute (name : String) : Bool := name == "xmlns" || name.startsWith "xmlns:"

/-- Reads the attribute definitions of an attribute-list declaration up to `>`.
Each definition raises, in order: an error for a repeated enumeration value,
the issues of its default value, an error for a default value that does not
fit the type, and then a warning when the attribute was declared before or an
error when it is a second ID attribute of the element. -/
def readAttributeDefs (budget : Nat) (element : String) : Nat → Checked → List Char →
    Except XmlError (Checked × List Char)
  | 0, _, _ => refuse "attribute-list declaration too long"
  | _ + 1, st, '>' :: rest => .ok (st, rest)
  | fuel + 1, (dtd, issues), cs => do
    let (name, rest) ← readName cs
    let rest ← requireBlanks "after the attribute name" rest
    let (type, repeated, rest) ← readAttributeType rest
    let issues := if repeated then issues ++ [Issue.error false] else issues
    let rest ← requireBlanks "after the attribute type" rest
    let (value, (dtd, issues), rest) ← readDefaultDecl budget (dtd, issues) rest
    let rest ← match rest with
      | '>' :: _ => pure rest
      | _ => requireBlanks "after the attribute default" rest
    let value := if type == .cdata then value else value.map collapseSpaces
    let badDefault := match value with
      | some v => !defaultFits type v
      | none => false
    let issues := if badDefault then issues ++ [Issue.error false] else issues
    if dtd.attributes.contains (element, name) then
      readAttributeDefs budget element fuel (dtd, issues ++ [.warning]) rest
    else
      let secondId := type == .id && dtd.idAttributes.contains element
      let namespaceDefaults := match value with
        | some v =>
          if isNamespaceAttribute name then dtd.namespaceDefaults ++ [(element, name, String.ofList v)]
          else dtd.namespaceDefaults
        | none => dtd.namespaceDefaults
      let dtd := { dtd with
        attributes := (element, name) :: dtd.attributes
        idAttributes := if type == .id then element :: dtd.idAttributes else dtd.idAttributes
        namespaceDefaults }
      readAttributeDefs budget element fuel (dtd, if secondId then issues ++ [Issue.error false] else issues) rest

def readAttlistDecl (budget : Nat) (dtd : Dtd) (cs : List Char) :
    Except XmlError (Dtd × List Issue × List Char) := do
  let cs ← requireBlanks "after ATTLIST" cs
  let (element, rest) ← readName cs
  let ((dtd, issues), after) ← readAttributeDefs budget element (rest.length + 1) (dtd, []) (skipBlanks rest).1
  pure (dtd, issues, after)

def readNotationDecl (cs : List Char) : Except XmlError (List Issue × List Char) := do
  let cs ← requireBlanks "after NOTATION" cs
  let (name, rest) ← readName cs
  let rest ← requireBlanks "after the notation name" rest
  let (_, rest) ← readExternalId false rest
  match (skipBlanks rest).1 with
  | '>' :: after => pure (if name.contains ':' then [.error false] else [], after)
  | _ => refuse "> expected after a notation declaration"

/-- Whether a declaration of one of the five predefined entities gives it the
character it stands for, directly or by a character reference. -/
def predefinedValueOk (c : Char) (content : List Char) : Bool :=
  content == [c] ||
    match content with
    | '&' :: '#' :: rest =>
      match readCharRef rest with
      | .ok (d, []) => d == c
      | _ => false
    | _ => false

def readEntityDecl (dtd : Dtd) (cs : List Char) : Except XmlError (Dtd × List Issue × List Char) := do
  let cs ← requireBlanks "after ENTITY" cs
  let (isParameter, cs) ← match cs with
    | '%' :: rest => do pure (true, ← requireBlanks "after %" rest)
    | _ => pure (false, cs)
  let (name, rest) ← readName cs
  let colonIssues := if name.contains ':' then [Issue.error false] else []
  let rest ← requireBlanks "after the entity name" rest
  let (dtd, issues, rest) ← match rest with
    | q :: _ =>
      if q == '"' || q == '\'' then do
        let (content, after) ← readEntityValue rest
        if isParameter then
          pure ({ dtd with parameter := dtd.parameter ++ [(name, some content)] }, [], after)
        else
          let predefIssues := match predefinedEntity? name with
            | some c => if predefinedValueOk c content then [] else [Issue.warning]
            | none => []
          pure ({ dtd with general := dtd.general ++ [(name, .internal content)] }, predefIssues, after)
      else do
        let (uri, after) ← readExternalId true rest
        let uriIssues ← match uri with
          | some (some u) => checkSystemId u
          | _ => refuse "entity value or external identifier expected"
        if isParameter then
          pure ({ dtd with parameter := dtd.parameter ++ [(name, none)] }, uriIssues, after)
        else
          let after ← match after with
            | '>' :: _ => pure after
            | _ => requireBlanks "before NDATA" after
          match after with
          | 'N' :: 'D' :: 'A' :: 'T' :: 'A' :: more => do
            let more ← requireBlanks "after NDATA" more
            let (_, last) ← readName more
            pure ({ dtd with general := dtd.general ++ [(name, .unparsed)] }, uriIssues, last)
          | _ => pure ({ dtd with general := dtd.general ++ [(name, .external)] }, uriIssues, after)
    | [] => refuse "entity declaration not finished"
  match (skipBlanks rest).1 with
  | '>' :: after => pure (dtd, colonIssues ++ issues, after)
  | _ => refuse "entity declaration not terminated"

/-- Reads markup declarations, parameter entity references and blanks: up to
`]` in the document, or to the end of the text of a parameter entity when
`expanding` names the entities being read. `fuel` bounds the steps. -/
def readDeclarations (budget : Nat) : Nat → List String → Dtd → List Issue → List Char →
    Except XmlError (Dtd × List Issue × List Char)
  | 0, _, _, _, _ => refuse "document type too long"
  | fuel + 1, expanding, dtd, issues, cs =>
    let inEntity := !expanding.isEmpty
    match (skipBlanks cs).1 with
    | [] => if inEntity then .ok (dtd, issues, []) else refuse "internal subset not finished"
    | ']' :: rest =>
      if inEntity then refuse "] in the text of a parameter entity" else .ok (dtd, issues, ']' :: rest)
    | '<' :: '!' :: '-' :: '-' :: rest => do
      let (_, after) ← readComment rest
      readDeclarations budget fuel expanding dtd issues after
    | '<' :: '?' :: rest => do
      let (_, piIssues, after) ← readInstruction rest
      readDeclarations budget fuel expanding dtd (issues ++ piIssues) after
    | '<' :: '!' :: 'E' :: 'L' :: 'E' :: 'M' :: 'E' :: 'N' :: 'T' :: rest => do
      let (dtd, more, after) ← readElementDecl dtd rest
      readDeclarations budget fuel expanding dtd (issues ++ more) after
    | '<' :: '!' :: 'E' :: 'N' :: 'T' :: 'I' :: 'T' :: 'Y' :: rest => do
      let (dtd, more, after) ← readEntityDecl dtd rest
      readDeclarations budget fuel expanding dtd (issues ++ more) after
    | '<' :: '!' :: 'A' :: 'T' :: 'T' :: 'L' :: 'I' :: 'S' :: 'T' :: rest => do
      let (dtd, more, after) ← readAttlistDecl budget dtd rest
      readDeclarations budget fuel expanding dtd (issues ++ more) after
    | '<' :: '!' :: 'N' :: 'O' :: 'T' :: 'A' :: 'T' :: 'I' :: 'O' :: 'N' :: rest => do
      let (more, after) ← readNotationDecl rest
      readDeclarations budget fuel expanding dtd (issues ++ more) after
    | '%' :: rest => do
      let (name, after) ← readName rest
      let after ← match after with
        | ';' :: more => pure more
        | _ => refuse "; expected after a parameter entity reference"
      match dtd.parameter.find? (·.1 == name) with
      | none =>
        if dtd.undeclaredIsFatal then refuse ("parameter entity not declared: " ++ name)
        else readDeclarations budget fuel expanding { dtd with peRefs := true } (issues ++ [.warning]) after
      | some (_, none) => readDeclarations budget fuel expanding dtd issues after
      | some (_, some content) =>
        if expanding.contains name then refuse "parameter entity loop"
        else if expanding.length ≥ maxEntityDepth then refuse "parameter entities nested too deep"
        else do
          let (dtd, issues, _) ←
            readDeclarations budget fuel (name :: expanding) { dtd with peRefs := true } issues content
          readDeclarations budget fuel expanding dtd issues after
    | _ => refuse "markup declaration expected"

/-- Reads a document type declaration after its `<!DOCTYPE`; gives the document
type, the issues raised, and the rest after its `>`. -/
def readDoctype (standalone : Bool) (cs : List Char) : Except XmlError (Dtd × List Issue × List Char) := do
  let (_, rest) ← readName (skipBlanks cs).1
  let (externalId, rest) ← readExternalId true (skipBlanks rest).1
  let dtd : Dtd := { external := externalId.isSome, standalone }
  match (skipBlanks rest).1 with
  | '[' :: subset => do
    let (dtd, issues, after) ← readDeclarations ((cs.length + 1) * 64)
      ((subset.length + 1) * 48) [] dtd [] subset
    match after with
    | ']' :: more =>
      match (skipBlanks more).1 with
      | '>' :: last => pure (dtd, issues, last)
      | _ => refuse "> expected after the internal subset"
    | _ => refuse "internal subset not finished"
  | '>' :: after => pure (dtd, [], after)
  | _ => refuse "document type declaration not finished"

end PluginPack.Xml
