/-!
Property placeholders `${name}` in project values.

A placeholder is `${`, at least one character other than `}`, and `}`. Expansion
replaces every placeholder whose property has a non-empty value and leaves the
others as written. It runs in rounds, so that values may refer to further
properties, and stops after a round that changed nothing or after five rounds.
-/

namespace PluginPack.Project

inductive ScanState where
  | plain
  | dollar
  | name (chars : List Char)

def unreplaced (nameReversed : List Char) : List Char :=
  '$' :: '{' :: nameReversed.reverse ++ ['}']

/-- One round of expansion from a scan state: the text produced and whether some
placeholder was replaced. -/
def expandFrom (lookup : String → Option String) : ScanState → List Char → List Char × Bool
  | .plain, [] => ([], false)
  | .dollar, [] => (['$'], false)
  | .name cs, [] => ('$' :: '{' :: cs.reverse, false)
  | .plain, c :: rest =>
    if c == '$' then expandFrom lookup .dollar rest
    else let (out, changed) := expandFrom lookup .plain rest; (c :: out, changed)
  | .dollar, c :: rest =>
    if c == '{' then expandFrom lookup (.name []) rest
    else if c == '$' then let (out, changed) := expandFrom lookup .dollar rest; ('$' :: out, changed)
    else let (out, changed) := expandFrom lookup .plain rest; ('$' :: c :: out, changed)
  | .name cs, c :: rest =>
    if c == '}' then
      let (out, changed) := expandFrom lookup .plain rest
      match cs with
      | [] => ('$' :: '{' :: '}' :: out, changed)
      | _ =>
        match lookup (String.ofList cs.reverse) with
        | some v => if v.isEmpty then (unreplaced cs ++ out, changed) else (v.toList ++ out, true)
        | none => (unreplaced cs ++ out, changed)
    else expandFrom lookup (.name (c :: cs)) rest

def expandRounds (lookup : String → Option String) : Nat → List Char → List Char
  | 0, cs => cs
  | n + 1, cs =>
    let (out, changed) := expandFrom lookup .plain cs
    if changed then expandRounds lookup n out else out

def expandPlaceholders (props : List (String × String)) (value : String) : String :=
  let lookup := fun k => (props.find? (·.1 == k)).map (·.2)
  String.ofList (expandRounds lookup 5 value.toList)

def hasPlaceholder (value : String) : Bool :=
  (expandFrom (fun _ => some "x") .plain value.toList).2

end PluginPack.Project
