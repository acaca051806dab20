import PluginPack.Text.Quoted

/-!
Text as a sequence of code points.

A `String` holds Unicode scalar values only, but text built from `\u` escapes may
hold a surrogate code point (U+D800 to U+DFFF) on its own. Such text can be kept,
compared and shown, but not encoded as UTF-8: encoding fails at the first run of
consecutive surrogates, which the failure reports by position.
-/

namespace PluginPack.Text

structure CodePoints where
  points : List Nat
  deriving DecidableEq, Repr, Inhabited

def isSurrogate (n : Nat) : Bool := 0xD800 ≤ n && n < 0xE000

namespace CodePoints

def ofString (s : String) : CodePoints := ⟨s.toList.map Char.toNat⟩

def charsOf (ps : List Nat) : String := String.ofList (ps.map Char.ofNat)

def toString? (t : CodePoints) : Option String :=
  if t.points.any isSurrogate then none else some (charsOf t.points)

def sameKind (p q : Nat) : Bool := isSurrogate q == isSurrogate p

def runs : List Nat → List (String ⊕ List Nat)
  | [] => []
  | p :: rest =>
    let run := p :: rest.takeWhile (sameKind p)
    (if isSurrogate p then Sum.inr run else Sum.inl (charsOf run)) :: runs (rest.dropWhile (sameKind p))
termination_by ps => ps.length
decreasing_by
  simp only [List.length_cons]
  have := (List.dropWhile_suffix (sameKind p) (l := rest)).length_le
  omega

def mapRuns (f : String → String) (t : CodePoints) : CodePoints :=
  ⟨(runs t.points).flatMap fun
    | .inl s => (f s).toList.map Char.toNat
    | .inr ps => ps⟩

def startsWith (t : CodePoints) (prefix_ : String) : Bool :=
  (ofString prefix_).points.isPrefixOf t.points

instance : Append CodePoints := ⟨fun a b => ⟨a.points ++ b.points⟩⟩

def quotedPoint (quote : Char) (p : Nat) : List Char :=
  if isSurrogate p then ['\\', 'u'] ++ hexDigits 4 p else quotedChar quote (Char.ofNat p)

def quotedUpTo (limit : Nat) (t : CodePoints) : String :=
  let quote := if t.points.contains '\''.toNat && !t.points.contains '"'.toNat then '"' else '\''
  String.ofList ((quote :: t.points.flatMap (quotedPoint quote) ++ [quote]).take limit)

end CodePoints

/-- The first run of surrogates that stops text from being encoded as UTF-8:
where it starts and ends (exclusive), and its first code point. -/
structure EncodeFault where
  start : Nat
  stop : Nat
  first : Nat
  deriving DecidableEq, Repr

def EncodeFault.message (f : EncodeFault) : String :=
  if f.stop == f.start + 1 then
    "'utf-8' codec can't encode character '\\u" ++ String.ofList (hexDigits 4 f.first) ++
      "' in position " ++ toString f.start ++ ": surrogates not allowed"
  else
    "'utf-8' codec can't encode characters in position " ++ toString f.start ++ "-" ++
      toString (f.stop - 1) ++ ": surrogates not allowed"

def CodePoints.encode (t : CodePoints) : Except EncodeFault String :=
  match t.points.findIdx? isSurrogate with
  | none => .ok (CodePoints.charsOf t.points)
  | some start =>
    let run := (t.points.drop start).takeWhile isSurrogate
    .error ⟨start, start + run.length, run.headD 0⟩

example : (match (CodePoints.mk [0x61, 0xD800]).encode with | .error f => f.message | .ok _ => "") =
    "'utf-8' codec can't encode character '\\ud800' in position 1: surrogates not allowed" := by
  decide +kernel

end PluginPack.Text
