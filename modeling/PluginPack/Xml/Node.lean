/-!
XML documents as trees.

An element has a qualified name, its attributes and its children. Text stands in
text nodes, where character data and CDATA sections merge; a reference to an
entity that the document declares but that is not expanded stays a node of its
own. Queries look at names without their namespace prefix.
-/

namespace PluginPack.Xml

inductive Node where
  | element (name : String) (attributes : List (String × String)) (children : List Node)
  | text (content : String)
  | comment (content : String)
  | instruction (target : String)
  | entityRef (name : String)
  deriving Repr, Inhabited

def localPart (name : String) : String :=
  match (name.toList.splitOn ':').map String.ofList with
  | [_, afterPrefix] => afterPrefix
  | _ => name

namespace Node

def localName : Node → String
  | .element name _ _ => localPart name
  | _ => ""

def children : Node → List Node
  | .element _ _ cs => cs
  | _ => []

def isElement : Node → Bool
  | .element .. => true
  | _ => false

def childrenNamed (n : Node) (wanted : String) : List Node :=
  n.children.filter fun c => c.isElement && c.localName == wanted

def childElements (n : Node) : List Node :=
  n.children.filter Node.isElement

def leadingTextOf : List Node → String
  | .text s :: rest => s ++ leadingTextOf rest
  | _ => ""

def leadingText (n : Node) : String := leadingTextOf n.children

end Node

end PluginPack.Xml
