import PluginPack.Json.Value
import PluginPack.Text.Percent

/-!
Writing JSON values as compact text, and rewriting the strings inside them.

Strings escape the quote, the backslash and every control character; all other
characters are written as they are. Object members keep their order.
-/

namespace PluginPack.Json

def escapeChar (c : Char) : List Char :=
  if c == '"' then ['\\', '"']
  else if c == '\\' then ['\\', '\\']
  else if c == '\n' then ['\\', 'n']
  else if c == '\r' then ['\\', 'r']
  else if c == '\t' then ['\\', 't']
  else if c.toNat < 0x20 then
    ['\\', 'u', '0', '0', Text.upperHexDigit (c.toNat / 16), Text.upperHexDigit (c.toNat % 16)]
  else [c]

def quote (s : String) : String := "\"" ++ String.ofList (s.toList.flatMap escapeChar) ++ "\""

def quotePoints (ps : List Nat) : String :=
  "\"" ++ String.ofList (ps.flatMap fun p =>
    if Text.isSurrogate p then ['\\', 'u'] ++ Text.hexDigits 4 p else escapeChar (Char.ofNat p)) ++ "\""

mutual

def Value.render : Value → String
  | .null => "null"
  | .bool b => if b then "true" else "false"
  | .int n => toString n
  | .float t => t
  | .str s => quote s
  | .text t => quotePoints t.points
  | .arr items => "[" ++ renderItems items ++ "]"
  | .obj members => "\x7b" ++ renderMembers members ++ "\x7d"

def renderItems : List Value → String
  | [] => ""
  | [v] => v.render
  | v :: rest => v.render ++ "," ++ renderItems rest

def renderMembers : List (String × Value) → String
  | [] => ""
  | [(k, v)] => quote k ++ ":" ++ v.render
  | (k, v) :: rest => quote k ++ ":" ++ v.render ++ "," ++ renderMembers rest

end

mutual

def Value.mapStrings (f : String → String) : Value → Value
  | .str s => .str (f s)
  | .text t => .text (t.mapRuns f)
  | .arr items => .arr (mapItems f items)
  | .obj members => .obj (mapMembers f members)
  | v => v

def mapItems (f : String → String) : List Value → List Value
  | [] => []
  | v :: rest => v.mapStrings f :: mapItems f rest

def mapMembers (f : String → String) : List (String × Value) → List (String × Value)
  | [] => []
  | (k, v) :: rest => (f k, v.mapStrings f) :: mapMembers f rest

end

mutual

def Value.weight : Value → Nat
  | .arr items => itemsWeight items + 1
  | .obj members => membersWeight members + 1
  | _ => 1

def itemsWeight : List Value → Nat
  | [] => 0
  | v :: rest => v.weight + itemsWeight rest

def membersWeight : List (String × Value) → Nat
  | [] => 0
  | (_, v) :: rest => v.weight + membersWeight rest

end

def Value.ofCodePoints (t : Text.CodePoints) : Value :=
  match t.toString? with
  | some s => .str s
  | none => .text t

def Value.ofPointPairs (ps : List (Text.CodePoints × Text.CodePoints)) : Value :=
  .arr (ps.map fun (k, v) => .arr [Value.ofCodePoints k, Value.ofCodePoints v])

def Value.ofOption (o : Option String) : Value :=
  match o with
  | some s => .str s
  | none => .null

def Value.ofStrings (xs : List String) : Value := .arr (xs.map .str)

def Value.ofPairs (ps : List (String × String)) : Value :=
  .arr (ps.map fun (k, v) => .arr [.str k, .str v])

end PluginPack.Json
