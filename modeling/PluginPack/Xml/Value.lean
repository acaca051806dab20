import PluginPack.Xml.Dtd

/-!
Attribute values, in start tags and as defaults that the document type declares.

A value stands between two equal quotes and holds no `<`. Tabs, line feeds and
carriage returns become spaces; character references and references to the
predefined entities become their characters; a reference to a declared entity
stays as written. Such an entity must be internal and its text must hold no
`<`; the entities its text refers to, at any depth, must satisfy the same, and
no entity may be reached from itself. The text of each entity is checked once.
A reference to an undeclared entity is fatal or an error as the document type
decides (`Dtd.undeclaredIsFatal`).
-/

namespace PluginPack.Xml

abbrev Checked := Dtd × List Issue

mutual

/-- Checks the references in the text of an internal entity that an attribute
value refers to; `expanding` names the entities whose text is being checked. -/
def checkValueText : Nat → List String → Checked → List Char → Except XmlError Checked
  | 0, _, _, _ => refuse "entity text too long"
  | fuel + 1, expanding, st, cs =>
    match cs with
    | [] => .ok st
    | '&' :: '#' :: rest => do
      let (_, after) ← readCharRef rest
      checkValueText fuel expanding st after
    | '&' :: rest => do
      let (name, after) ← readName rest
      match after with
      | ';' :: more => do
        let st ← checkValueEntity fuel expanding st name
        checkValueText fuel expanding st more
      | _ => refuse "; expected after an entity reference"
    | _ :: rest => checkValueText fuel expanding st rest

def checkValueEntity : Nat → List String → Checked → String → Except XmlError Checked
  | 0, _, _, _ => refuse "entity text too long"
  | fuel + 1, expanding, (dtd, issues), name =>
    if (predefinedEntity? name).isSome then .ok (dtd, issues)
    else
      match dtd.entity? name with
      | none =>
        if dtd.undeclaredIsFatal then refuse ("entity not declared: " ++ name)
        else .ok (dtd, issues ++ [.error true])
      | some .external => refuse "attribute value refers to an external entity"
      | some .unparsed => refuse "attribute value refers to an unparsed entity"
      | some (.internal content) =>
        if content.contains '<' then refuse "< in an entity that an attribute value refers to"
        else if expanding.contains name then refuse "entity refers to itself"
        else if dtd.valueChecked.contains name then .ok (dtd, issues)
        else if expanding.length ≥ maxEntityDepth then refuse "entities nested too deep"
        else do
          let (dtd, issues) ← checkValueText fuel (name :: expanding) (dtd, issues) content
          pure ({ dtd with valueChecked := name :: dtd.valueChecked }, issues)

end

def isValueBlank (c : Char) : Bool := c == '\t' || c == '\n' || c == '\r'

/-- Reads the rest of a value after its opening quote `q`, gathering its
characters in reverse in `acc`; `budget` bounds the checks of entities and
`fuel` the characters read. Gives the value and the rest after the closing quote. -/
def readValueBody (budget : Nat) (q : Char) : Nat → Checked → List Char → List Char →
    Except XmlError (List Char × Checked × List Char)
  | 0, _, _, _ => refuse "attribute value too long"
  | _ + 1, _, _, [] => refuse "attribute value not finished"
  | fuel + 1, st, acc, c :: rest =>
    if c == q then .ok (acc.reverse, st, rest)
    else if c == '<' then refuse "< in an attribute value"
    else if c == '&' then
      match rest with
      | '#' :: more => do
        let (d, after) ← readCharRef more
        readValueBody budget q fuel st (d :: acc) after
      | _ => do
        let (name, after) ← readName rest
        match after with
        | ';' :: more =>
          match predefinedEntity? name with
          | some d => readValueBody budget q fuel st (d :: acc) more
          | none => do
            let st ← checkValueEntity budget [] st name
            let kept := if (st.1.entity? name).isSome then (('&' :: name.toList) ++ [';']).reverse ++ acc
              else acc
            readValueBody budget q fuel st kept more
        | _ => refuse "; expected after an entity reference"
    else if isValueBlank c then readValueBody budget q fuel st (' ' :: acc) rest
    else readValueBody budget q fuel st (c :: acc) rest

def readValue (budget : Nat) (st : Checked) (cs : List Char) :
    Except XmlError (List Char × Checked × List Char) :=
  match cs with
  | q :: rest =>
    if q == '"' || q == '\'' then readValueBody budget q (rest.length + 1) st [] rest
    else refuse "attribute value must be quoted"
  | [] => refuse "attribute value expected"

end PluginPack.Xml
