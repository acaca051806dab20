import PluginPack.Version.Basic

/-!
The order of version items.

Items are compared pairwise; a missing item behaves as padding, against which
null items are equal, numbers above zero are greater, and words are compared with
the release word. Across kinds a number is greater than a word and than a nested
list, and a nested list is greater than a word: so `1.1 > 1-1 > 1-sp`.
-/

namespace PluginPack.Version

mutual

def Item.compareTo : Item → Option Item → Ordering
  | .number a, none => if a = 0 then .eq else .gt
  | .number a, some (.number b) => Ord.compare a b
  | .number _, some _ => .gt
  | .word w, none => (Rank.ofWord w).compare releaseRank
  | .word _, some (.number _) => .lt
  | .word v, some (.word w) => (Rank.ofWord v).compare (Rank.ofWord w)
  | .word _, some (.sub _) => .lt
  | .sub [], none => .eq
  | .sub (x :: _), none => x.compareTo none
  | .sub _, some (.number _) => .lt
  | .sub _, some (.word _) => .gt
  | .sub xs, some (.sub ys) => compareItems xs ys
termination_by item other => sizeOf item + sizeOf other

def compareItems : List Item → List Item → Ordering
  | [], [] => .eq
  | [], y :: ys =>
    match (y.compareTo none).swap with
    | .eq => compareItems [] ys
    | r => r
  | x :: xs, [] =>
    match x.compareTo none with
    | .eq => compareItems xs []
    | r => r
  | x :: xs, y :: ys =>
    match x.compareTo (some y) with
    | .eq => compareItems xs ys
    | r => r
termination_by xs ys => sizeOf xs + sizeOf ys

end

end PluginPack.Version
