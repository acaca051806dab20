import PluginPack.Text.Case
import PluginPack.Text.Digit
import PluginPack.Text.Quoted
import PluginPack.Version.Order

/-!
Reading a version number from its text.

The text is lowered first. It is cut into runs of digits and runs of other
characters: a dot ends a run, a hyphen ends a run and opens a nested level, and a
change between digits and other characters opens a nested level as well. An empty
run before a dot or hyphen counts as the number zero. A run of digits must be a
decimal numeral: digits such as superscripts cannot be read, which is an error,
and so is a numeral that starts with more than 4300 decimal digits.
-/

namespace PluginPack.Version

open PluginPack.Text

inductive VersionError where
  | notDecimal (digits : String)
  | tooManyDigits (count : Nat)
  deriving DecidableEq, Repr

def digitLimit : Nat := 4300

def VersionError.message : VersionError → String
  | .notDecimal digits => "invalid literal for int() with base 10: " ++ quotedUpTo 200 digits
  | .tooManyDigits count =>
    "Exceeds the limit (" ++ toString digitLimit ++ " digits) for integer string conversion: value has " ++
      toString count ++ " digits; use sys.set_int_max_str_digits() to increase the limit"

structure VersionNumber where
  text : String
  items : List Item
  deriving Inhabited

structure Scan where
  levels : List (List Item) := []
  level : List Item := []
  run : List Char := []
  digits : Bool := false

def runItem (isNumber : Bool) (run : List Char) (beforeDigit : Bool) :
    Except VersionError Item :=
  if isNumber then
    -- the length is checked on the leading decimal digits, before the rest is looked at
    let leading := (run.takeWhile fun c => (decimalValue? c).isSome).length
    if leading > digitLimit then .error (.tooManyDigits leading)
    else match decimalNumeral? (String.ofList run) with
      | some n => .ok (.number n)
      | none => .error (.notDecimal (String.ofList run))
  else .ok (.word (canonicalWord (String.ofList run) beforeDigit))

def Scan.closeRun (s : Scan) : Except VersionError Item :=
  if s.run.isEmpty then .ok (.number 0) else runItem s.digits s.run false

def Scan.step (s : Scan) (c : Char) : Except VersionError Scan :=
  if c == '.' then do
    let item ← s.closeRun
    pure { s with level := s.level ++ [item], run := [] }
  else if c == '-' then do
    let item ← s.closeRun
    pure { s with levels := s.levels ++ [s.level ++ [item]], level := [], run := [] }
  else if isDigit c then
    if !s.digits && !s.run.isEmpty then do
      let item ← runItem false s.run true
      pure { levels := s.levels ++ [s.level ++ [item]], level := [], run := [c], digits := true }
    else pure { s with run := s.run ++ [c], digits := true }
  else
    if s.digits && !s.run.isEmpty then do
      let item ← runItem true s.run false
      pure { levels := s.levels ++ [s.level ++ [item]], level := [], run := [c], digits := false }
    else pure { s with run := s.run ++ [c], digits := false }

def Scan.finish (s : Scan) : Except VersionError (List (List Item)) := do
  if s.run.isEmpty then pure (s.levels ++ [s.level])
  else
    let item ← runItem s.digits s.run false
    pure (s.levels ++ [s.level ++ [item]])

def VersionNumber.parse (text : String) : Except VersionError VersionNumber := do
  let scan ← (lower text).toList.foldlM Scan.step {}
  let levels ← scan.finish
  pure { text, items := nestLevels levels }

def VersionNumber.compare (v w : VersionNumber) : Ordering :=
  compareItems v.items w.items

def compareVersionTexts (a b : String) : Except VersionError Ordering := do
  let v ← VersionNumber.parse a
  let w ← VersionNumber.parse b
  pure ((v.compare w).then (Ord.compare a b))

end PluginPack.Version
