import PluginPack.Xml.Doctype
import PluginPack.Xml.Encoding
import PluginPack.Xml.Node

/-!
Reading an XML document into a tree.

The first bytes and the XML declaration decide the encoding (`detect`,
`Encoding.ofName?`). After the declaration come comments, processing
instructions and blanks, at most one document type declaration, more of the
former, the root element, and once more comments, processing instructions and
blanks; nothing else.

Inside an element, character data and CDATA sections become text, where
character references and references to the five predefined entities become
their characters. A reference to another entity stays a node of its own; the
text of an internal entity is read as content when it is first referred to, so
it must be balanced, refer to no entity that refers back to it, and hold
nothing that content may not hold. End tags must match their start tags, and
an element may have at most 256 ancestors.

Names of elements and attributes should be qualified names, and their prefixes
bound by a namespace declaration (`xmlns:p="uri"`) of the element or of an
ancestor; `xml` is always bound. A namespace name must be a URI reference;
`xml` and `xmlns` are reserved, and an empty name can only undeclare the
default namespace. Two attributes may not share a name, nor a namespace and a
local part.

Fatal errors stop the reading. Other problems are collected as issues and
decide at the end (`acceptsIssues`).
-/

namespace PluginPack.Xml

def xmlNamespace : String := "http://www.w3.org/XML/1998/namespace"

def xmlnsNamespace : String := "http://www.w3.org/2000/xmlns/"

abbrev Scope := List (Option String × String)

def boundNamespace (scope : Scope) (p : Option String) : Option String :=
  (scope.find? (·.1 == p)).map (·.2)

def qualifiedParts (name : String) : Option String × String :=
  match (name.toList.splitOn ':').map String.ofList with
  | [p, l] => if isQName name then (some p, l) else (none, name)
  | _ => (none, name)

/-- What an attribute declares about namespaces: `none` for an ordinary
attribute; for a namespace declaration, the binding it adds, if it may be used,
and the issues it raises. -/
def namespaceDeclaration (name value : String) : Option (Option (Option String × String) × List Issue) :=
  if name == "xmlns" then
    let uriIssues :=
      if value.isEmpty then []
      else if !Uri.isUriReference value then [Issue.error false]
      else if !Uri.hasScheme value then [Issue.warning]
      else []
    if value == xmlNamespace || value == xmlnsNamespace then some (none, uriIssues ++ [.error false])
    else some (some (none, value), uriIssues)
  else
    match qualifiedParts name with
    | (some "xmlns", p) =>
      if p == "xml" then some (none, if value == xmlNamespace then [] else [.error false])
      else if value == xmlNamespace || p == "xmlns" || value == xmlnsNamespace || value.isEmpty then
        some (none, [.error false])
      else some (some (some p, value), if Uri.isUriReference value then [] else [.error false])
    | _ => none

def withNamespaceDefaults (dtd : Dtd) (element : String) (scope decls : Scope) : Scope :=
  (dtd.namespaceDefaults.filter (·.1 == element)).foldl (fun ds (_, attr, value) =>
    let p : Option String := if attr == "xmlns" then none else some (qualifiedParts attr).2
    if ds.any (·.1 == p) || boundNamespace (ds ++ scope) p == some value then ds
    else (p, value) :: ds) decls

/-- The issues of the ordinary attributes of an element once its bindings are
known: an error for each prefix that is not bound, then an error for each
attribute whose namespace and local part repeat those of an earlier one. -/
def attributeIssues (scope : Scope) (attrs : List (String × String)) : List Issue :=
  let ordinary := attrs.filter fun (n, v) => (namespaceDeclaration n v).isNone
  let resolved := ordinary.map fun (n, _) =>
    match qualifiedParts n with
    | (none, l) => ((none : Option String), l, false)
    | (some p, l) =>
      if p == "xml" then (some xmlNamespace, l, false)
      else
        match boundNamespace scope (some p) with
        | some u => (some u, l, false)
        | none => (none, l, true)
  let unbound := (resolved.filter (·.2.2)).map fun _ => Issue.error false
  let (_, repeated) := resolved.foldl (fun (seen, errs) (ns, l, _) =>
    if seen.contains (ns, l) then (seen, errs ++ [Issue.error false]) else ((ns, l) :: seen, errs))
    (([] : List (Option String × String)), ([] : List Issue))
  unbound ++ repeated

def elementIssues (scope : Scope) (name : String) : List Issue :=
  match qualifiedParts name with
  | (some p, _) => if p == "xml" || (boundNamespace scope (some p)).isSome then [] else [.error false]
  | (none, _) => []

/-- What reading the body of a document carries along: the document type, the
issues raised so far, and the internal entities whose text has been read as content. -/
structure Reading where
  dtd : Dtd
  issues : List Issue := []
  contentChecked : List String := []

def Reading.raise (st : Reading) (more : List Issue) : Reading :=
  { st with issues := st.issues ++ more }

/-- Reads the attributes of a start tag up to `>` or `/>`: gives them in order,
whether the tag closes the element, the namespace bindings they add, innermost
first, and the rest. `budget` bounds the checks of entities in values. -/
def readAttributes (budget : Nat) : Nat → Reading → List (String × String) → Scope → List Char →
    Except XmlError (List (String × String) × Bool × Scope × Reading × List Char)
  | 0, _, _, _, _ => refuse "start tag too long"
  | fuel + 1, st, acc, decls, cs =>
    let (afterBlanks, blank) := skipBlanks cs
    match afterBlanks with
    | '>' :: rest => .ok (acc.reverse, false, decls, st, rest)
    | '/' :: '>' :: rest => .ok (acc.reverse, true, decls, st, rest)
    | _ =>
      if !blank then refuse "attributes construct error"
      else do
        let (name, rest) ← readName afterBlanks
        let st := if isQName name then st else st.raise [.error false]
        let rest ← match (skipBlanks rest).1 with
          | '=' :: more => pure (skipBlanks more).1
          | _ => refuse ("value required for attribute " ++ name)
        let (value, (dtd, issues), after) ← readValue budget (st.dtd, st.issues) rest
        let value := String.ofList value
        let st := { st with dtd, issues }
        let st := if name == "xml:space" && value != "default" && value != "preserve" then
          st.raise [.warning] else st
        if acc.any (·.1 == name) then refuse ("attribute redefined: " ++ name)
        else
          let (decls, st) := match namespaceDeclaration name value with
            | some (binding, more) => (binding.toList ++ decls, st.raise more)
            | none => (decls, st)
          readAttributes budget fuel st ((name, value) :: acc) decls after

def addText (s : String) : List Node → List Node
  | .text t :: rest => .text (t ++ s) :: rest
  | acc => .text s :: acc

def maxDepth : Nat := 256

mutual

/-- Reads content up to an end tag, which is left in the rest, or to the end of
the text. `depth` counts the enclosing elements, `scope` holds the namespace
bindings and `expanding` names the entities whose text is being read; the
nodes read so far are gathered in reverse in `acc`. -/
def readContent (budget : Nat) : Nat → Nat → Scope → List String → Reading → List Node → List Char →
    Except XmlError (List Node × Reading × List Char)
  | 0, _, _, _, _, _, _ => refuse "document too long"
  | fuel + 1, depth, scope, expanding, st, acc, cs =>
    match cs with
    | [] => .ok (acc.reverse, st, [])
    | '<' :: '/' :: _ => .ok (acc.reverse, st, cs)
    | '<' :: '!' :: '-' :: '-' :: rest => do
      let (text, after) ← readComment rest
      readContent budget fuel depth scope expanding st (.comment text :: acc) after
    | '<' :: '!' :: '[' :: 'C' :: 'D' :: 'A' :: 'T' :: 'A' :: '[' :: rest =>
      match splitAtSeq "]]>".toList rest with
      | some (body, after) =>
        readContent budget fuel depth scope expanding st (addText (String.ofList body) acc) after
      | none => refuse "CDATA section not finished"
    | '<' :: '?' :: rest => do
      let (target, issues, after) ← readInstruction rest
      readContent budget fuel depth scope expanding (st.raise issues) (.instruction target :: acc) after
    | '<' :: rest => do
      let (node, st, after) ← readElement budget fuel depth scope expanding st rest
      readContent budget fuel depth scope expanding st (node :: acc) after
    | '&' :: '#' :: rest => do
      let (c, after) ← readCharRef rest
      readContent budget fuel depth scope expanding st (addText (String.singleton c) acc) after
    | '&' :: rest => do
      let (name, after) ← readName rest
      let after ← match after with
        | ';' :: more => pure more
        | _ => refuse "; expected after an entity reference"
      match predefinedEntity? name with
      | some c => readContent budget fuel depth scope expanding st (addText (String.singleton c) acc) after
      | none => do
        let st ← readEntityContent budget fuel depth scope expanding st name
        readContent budget fuel depth scope expanding st (.entityRef name :: acc) after
    | _ =>
      let body := cs.takeWhile fun c => c != '<' && c != '&'
      if (splitAtSeq "]]>".toList body).isSome then refuse "]]> in character data"
      else readContent budget fuel depth scope expanding st (addText (String.ofList body) acc) (cs.drop body.length)

def readElement (budget : Nat) : Nat → Nat → Scope → List String → Reading → List Char →
    Except XmlError (Node × Reading × List Char)
  | 0, _, _, _, _, _ => refuse "document too long"
  | fuel + 1, depth, scope, expanding, st, cs =>
    if depth > maxDepth then refuse "excessive depth in document"
    else do
      let (name, rest) ← readName cs
      let st := if isQName name then st else st.raise [.error false]
      let (attrs, empty, decls, st, rest) ← readAttributes budget (rest.length + 1) st [] [] rest
      let inner := withNamespaceDefaults st.dtd name scope decls ++ scope
      let st := st.raise (attributeIssues inner attrs ++ elementIssues inner name)
      if empty then pure (.element name attrs [], st, rest)
      else do
        let (children, st, after) ← readContent budget fuel (depth + 1) inner expanding st [] rest
        match after with
        | '<' :: '/' :: more => do
          let (closing, more) ← readName more
          if closing != name then refuse "opening and ending tag mismatch"
          else
            match (skipBlanks more).1 with
            | '>' :: last => pure (.element name attrs children, st, last)
            | _ => refuse "> expected after an end tag"
        | _ => refuse "premature end of data"

/-- Checks a reference to a general entity in content: the text of an internal
entity is read as content at its first reference. -/
def readEntityContent (budget : Nat) : Nat → Nat → Scope → List String → Reading → String →
    Except XmlError Reading
  | 0, _, _, _, _, _ => refuse "document too long"
  | fuel + 1, depth, scope, expanding, st, name =>
    match st.dtd.entity? name with
    | none =>
      if st.dtd.undeclaredIsFatal then refuse ("entity not declared: " ++ name)
      else .ok (st.raise [.error true])
    | some .unparsed => refuse "reference to an unparsed entity"
    | some .external => .ok st
    | some (.internal content) =>
      if expanding.contains name then refuse "entity refers to itself"
      else if st.contentChecked.contains name then .ok st
      else if expanding.length ≥ maxEntityDepth then refuse "entities nested too deep"
      else do
        let (_, st, rest) ← readContent budget fuel depth scope (name :: expanding) st [] content
        if rest.isEmpty then pure { st with contentChecked := name :: st.contentChecked }
        else refuse "entity text not balanced"

end

def readMisc : Nat → List Issue → List Char → Except XmlError (List Issue × List Char)
  | 0, _, _ => refuse "document too long"
  | fuel + 1, issues, cs =>
    match (skipBlanks cs).1 with
    | '<' :: '!' :: '-' :: '-' :: rest => do
      let (_, after) ← readComment rest
      readMisc fuel issues after
    | '<' :: '?' :: rest => do
      let (_, more, after) ← readInstruction rest
      readMisc fuel (issues ++ more) after
    | rest => .ok (issues, rest)

/-- Reads the characters of a document after its XML declaration, given the
issues raised so far: gives the root element, or refuses the document. -/
def readBody (standalone : Bool) (issues : List Issue) (cs : List Char) : Except XmlError Node := do
  let budget := (cs.length + 1) * 64
  let (issues, rest) ← readMisc (cs.length + 1) issues cs
  let (dtd, issues, rest) ← match rest with
    | '<' :: '!' :: 'D' :: 'O' :: 'C' :: 'T' :: 'Y' :: 'P' :: 'E' :: more => do
      let (dtd, more, after) ← readDoctype standalone more
      let (issues, after) ← readMisc (after.length + 1) (issues ++ more) after
      pure (dtd, issues, after)
    | _ => pure ({ standalone }, issues, rest)
  match rest with
  | '<' :: more => do
    let (root, st, after) ← readElement budget budget 0 [] [] { dtd, issues } more
    let (issues, after) ← readMisc (after.length + 1) st.issues after
    if !after.isEmpty then refuse "extra content at the end of the document"
    else if acceptsIssues issues then pure root
    else refuse "document has errors"
  | [] => refuse "document is empty"
  | _ => refuse "start tag expected"

def normalizeLineEnds (acc : List Char) : List Char → List Char
  | '\r' :: '\n' :: rest => normalizeLineEnds ('\n' :: acc) rest
  | '\r' :: rest => normalizeLineEnds ('\n' :: acc) rest
  | c :: rest => normalizeLineEnds (c :: acc) rest
  | [] => acc.reverse

/-- Decodes a document's bytes and reads its XML declaration: gives the
declaration, the warnings it raises, and the characters after it. -/
def openDocument (bytes : List UInt8) : Except XmlError (Option Declaration × List Issue × List Char) :=
  match detect bytes with
  | some found =>
    match found.encoding.decode (bytes.drop found.skip) with
    | none => refuse "input does not fit its encoding"
    | some cs => do
      let (decl, versionWarning, rest) ← Declaration.read cs
      let mismatch := match decl.bind (·.encoding), found.agreeing with
        | some name, some names => !names.contains (upperName name)
        | _, _ => false
      pure (decl, (if versionWarning then [Issue.warning] else []) ++ (if mismatch then [.warning] else []),
        rest)
  | none => do
    let view := bytes.map fun b => Char.ofNat b.toNat
    let (decl, versionWarning, rest) ← Declaration.read view
    let encoding ← match decl.bind (·.encoding) with
      | none => pure Encoding.utf8
      | some name =>
        match Encoding.ofName? name with
        | some e => pure e
        | none => refuse ("unsupported encoding " ++ name)
    match encoding.decode (bytes.drop (view.length - rest.length)) with
    | some cs => pure (decl, if versionWarning then [.warning] else [], cs)
    | none => refuse "input does not fit its encoding"

def parseDocument (bytes : ByteArray) : Except XmlError Node := do
  let (decl, issues, cs) ← openDocument bytes.data.toList
  if !cs.all isXmlChar then refuse "character not allowed in XML"
  else readBody (decl.bind (·.standalone) == some true) issues (normalizeLineEnds [] cs)

end PluginPack.Xml
