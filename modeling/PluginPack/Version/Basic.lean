/-!
Items of a version number.

A version number is read as a list of items. An item is a number, a qualifier
word, or a nested list that opens where the text has a hyphen or changes between
digits and letters. Well-known qualifiers have a rank:

    alpha < beta < milestone < rc = cr < snapshot < "" = ga = final = release < sp

and every other word ranks after all of them, by its characters. An item is
*null* when it is the number zero, the release word, or an empty list; trailing
null items carry no meaning and the normal form drops them.
-/

namespace PluginPack.Version

inductive Item where
  | number (value : Nat)
  | word (text : String)
  | sub (items : List Item)
  deriving Repr, Inhabited

inductive Rank where
  | known (index : Nat)
  | unknown (text : String)
  deriving DecidableEq, Repr

def knownQualifiers : List String :=
  ["alpha", "beta", "milestone", "rc", "snapshot", "", "sp"]

def releaseRank : Rank := .known 5

def Rank.ofWord (w : String) : Rank :=
  match knownQualifiers.idxOf? w with
  | some i => .known i
  | none => .unknown w

def Rank.compare : Rank → Rank → Ordering
  | .known i, .known j => Ord.compare i j
  | .known _, .unknown _ => .lt
  | .unknown _, .known _ => .gt
  | .unknown a, .unknown b => Ord.compare a b

/-- The word that a qualifier stands for: `a`, `b` and `m` directly before a digit
abbreviate alpha, beta and milestone; ga, final and release mean a plain release,
and cr means rc. -/
def canonicalWord (text : String) (beforeDigit : Bool) : String :=
  let expanded :=
    if beforeDigit then
      match text with
      | "a" => "alpha"
      | "b" => "beta"
      | "m" => "milestone"
      | other => other
    else text
  match expanded with
  | "ga" | "final" | "release" => ""
  | "cr" => "rc"
  | other => other

def Item.isNull : Item → Bool
  | .number n => n == 0
  | .word w => Rank.ofWord w == releaseRank
  | .sub items => items.isEmpty

def Item.isSub : Item → Bool
  | .sub _ => true
  | _ => false

def trimReversed : List Item → List Item
  | [] => []
  | x :: rest =>
    if x.isNull then trimReversed rest
    else if x.isSub then x :: trimReversed rest
    else x :: rest

def trimItems (items : List Item) : List Item :=
  (trimReversed items.reverse).reverse

def nestLevels : List (List Item) → List Item
  | [] => []
  | [level] => trimItems level
  | level :: rest => trimItems (level ++ [.sub (nestLevels rest)])

end PluginPack.Version
