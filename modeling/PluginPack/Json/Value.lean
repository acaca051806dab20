import PluginPack.Text.CodePoints

/-!
JSON values.

Objects keep their members in the order of first appearance; a repeated name
takes its last value. Numbers are integers or other numerals, the latter kept as
written. A string that holds surrogate code points on their own is kept as its
code points.
-/

namespace PluginPack.Json

inductive Value where
  | null
  | bool (b : Bool)
  | int (n : Int)
  | float (text : String)
  | str (s : String)
  | text (t : Text.CodePoints)
  | arr (items : List Value)
  | obj (members : List (String × Value))
  deriving Repr, Inhabited

namespace Value

def get? (v : Value) (name : String) : Option Value :=
  match v with
  | .obj ms => (ms.find? (·.1 == name)).map (·.2)
  | _ => none

def has (v : Value) (name : String) : Bool := (v.get? name).isSome

def asString? : Value → Option String
  | .str s => some s
  | _ => none

def asArray? : Value → Option (List Value)
  | .arr xs => some xs
  | _ => none

def asObject? : Value → Option (List (String × Value))
  | .obj ms => some ms
  | _ => none

def asInt? : Value → Option Int
  | .int n => some n
  | _ => none

def asBool? : Value → Option Bool
  | .bool b => some b
  | _ => none

def isNull : Value → Bool
  | .null => true
  | _ => false

end Value

end PluginPack.Json
