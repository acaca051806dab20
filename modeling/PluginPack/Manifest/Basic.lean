import PluginPack.Data.OrderedMap
import PluginPack.Text.Blank

/-!
The main section of a manifest: named attributes, one per line.

Reading stops at the first blank line after some attribute; a line that starts
with a space continues the attribute above it. Writing puts `Manifest-Version`
first, ends lines with CR LF, and wraps each line at 72 bytes of UTF-8: the first
piece takes as many characters as fit in 72 bytes, and every further piece, after
its leading space, as many as fit in 71.
-/

namespace PluginPack.Manifest

open PluginPack.Text

abbrev Attributes := OrderedMap String String

def lineLimit : Nat := 72

def splitAtFirst (sep : Char) (s : String) : Option (String × String) :=
  let cs := s.toList
  if cs.contains sep then
    some (String.ofList (cs.takeWhile (· != sep)), String.ofList ((cs.dropWhile (· != sep)).drop 1))
  else none

def readLines : List String → Attributes → Option String → Attributes
  | [], attrs, _ => attrs
  | raw :: rest, attrs, last =>
    if (trim raw).isEmpty then
      if attrs.size > 0 then attrs else readLines rest attrs last
    else
      match last, raw.toList with
      | some key, ' ' :: more =>
        readLines rest (attrs.insert key ((attrs.get? key).getD "" ++ String.ofList more)) last
      | _, _ =>
        match splitAtFirst ':' raw with
        | none => readLines rest attrs last
        | some (key, value) =>
          let key := trim key
          let value := match value.toList with
            | ' ' :: more => String.ofList more
            | _ => value
          readLines rest (attrs.insert key value) (some key)

def parse (text : String) : Attributes :=
  readLines (lines text) {} none

def wrapChars : List Char → List Char → Nat → Nat → List (List Char)
  | [], current, _, _ => [current.reverse]
  | c :: rest, current, bytes, limit =>
    if bytes + c.utf8Size > limit then
      current.reverse :: wrapChars rest [c] c.utf8Size (lineLimit - 1)
    else wrapChars rest (c :: current) (bytes + c.utf8Size) limit

def wrap (line : String) : List String :=
  if line.utf8ByteSize ≤ lineLimit then [line]
  else
    match wrapChars line.toList [] 0 lineLimit with
    | [] => []
    | first :: more => String.ofList first :: more.map fun piece => String.ofList (' ' :: piece)

def format (attrs : Attributes) : String :=
  let version := (attrs.get? "Manifest-Version").getD "1.0"
  let rest := (attrs.erase "Manifest-Version").toList
  let physical := (("Manifest-Version", version) :: rest).flatMap fun (k, v) => wrap (k ++ ": " ++ v)
  String.intercalate "\r\n" physical ++ "\r\n\r\n"

end PluginPack.Manifest
