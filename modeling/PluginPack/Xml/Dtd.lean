import PluginPack.Xml.Name

/-!
What a document type declares: general and parameter entities, elements and
attributes, and the character references that entity values and documents use.

A character reference is `&#` and decimal digits, or `&#x` and hexadecimal
digits, then `;`; it must name a character that XML allows, which excludes
NUL. The five predefined entities `lt`, `gt`, `amp`, `apos` and `quot` are known
to every document. A reference to an entity that no declaration names is fatal
unless the document is not standalone and either names an external subset or
has referred to a parameter entity: the undeclared entity may then be declared
where the reader does not look.
-/

namespace PluginPack.Xml

inductive EntityValue where
  | internal (content : List Char)
  | external
  | unparsed
  deriving Repr

/-- What a document type declares and what reading it has shown: the entities,
elements and attributes declared, whether an external subset is named, whether
a parameter entity has been referred to, and whether the document declares
itself standalone. -/
structure Dtd where
  general : List (String × EntityValue) := []
  parameter : List (String × Option (List Char)) := []
  elements : List String := []
  attributes : List (String × String) := []
  idAttributes : List String := []
  external : Bool := false
  peRefs : Bool := false
  standalone : Bool := false
  /-- Default values that the declarations give to namespace declarations, by
  element and attribute. -/
  namespaceDefaults : List (String × String × String) := []
  valueChecked : List String := []

def Dtd.entity? (d : Dtd) (name : String) : Option EntityValue :=
  (d.general.find? (·.1 == name)).map (·.2)

def Dtd.undeclaredIsFatal (d : Dtd) : Bool := d.standalone || (!d.external && !d.peRefs)

def predefinedEntity? (name : String) : Option Char :=
  match name with
  | "lt" => some '<'
  | "gt" => some '>'
  | "amp" => some '&'
  | "apos" => some '\''
  | "quot" => some '"'
  | _ => none

def digitsValue (base : Nat) (cs : List Char) : Option Nat :=
  if cs.isEmpty then none
  else cs.foldlM (fun acc c =>
    let d := if '0' ≤ c && c ≤ '9' then some (c.toNat - '0'.toNat)
      else if base == 16 && 'a' ≤ c && c ≤ 'f' then some (c.toNat - 'a'.toNat + 10)
      else if base == 16 && 'A' ≤ c && c ≤ 'F' then some (c.toNat - 'A'.toNat + 10)
      else none
    d.map (acc * base + ·)) 0

/-- Reads a character reference after its `&#`: decimal digits, or `x` and
hexadecimal digits, then `;`, naming a character that XML allows. -/
def readCharRef (cs : List Char) : Except XmlError (Char × List Char) :=
  let (base, digits) := match cs with
    | 'x' :: rest => (16, rest)
    | _ => (10, cs)
  let ds := digits.takeWhile (· != ';')
  match digits.drop ds.length, digitsValue base ds with
  | ';' :: after, some n =>
    if n < 0x110000 && n != 0 && isXmlChar (Char.ofNat n) then .ok (Char.ofNat n, after)
    else refuse "invalid character reference"
  | _, _ => refuse "malformed character reference"

def replaceCharRefs : Nat → List Char → Except XmlError (List Char)
  | 0, _ => refuse "text too long"
  | _ + 1, [] => .ok []
  | fuel + 1, '&' :: '#' :: rest => do
    let (c, after) ← readCharRef rest
    pure (c :: (← replaceCharRefs fuel after))
  | fuel + 1, c :: rest => do pure (c :: (← replaceCharRefs fuel rest))

def maxEntityDepth : Nat := 40

end PluginPack.Xml
