import PluginPack.Data.OrderedMap
import PluginPack.Text.Blank
import PluginPack.Text.Digit
import PluginPack.Text.Quoted
import PluginPack.Text.CodePoints
import PluginPack.Time.Stamp

/-!
Properties text: `key=value` lines.

A key ends at the first unescaped `=`, `:`, space or tab; blanks and one `=` or
`:` separate it from the value. A line whose number of trailing backslashes is
odd continues on the next line, whose leading blanks are dropped. Lines starting
with `#` or `!` are comments. Backslash escapes stand for tab, line feed, carriage
return, form feed, a code point given by four hexadecimal digits after `\u`, or
else the escaped character itself. Keys and values are code points, since a `\u`
escape may give a surrogate on its own.

Writing escapes the backslash, `=`, `:`, `#`, `!`, tab, line feed and carriage
return; in a key every space is escaped, in a value only a leading one.
-/

namespace PluginPack.Properties

open PluginPack.Text

inductive PropertiesError where
  | badHex (text : CodePoints)
  | noSuchCharacter
  deriving DecidableEq, Repr

def PropertiesError.message : PropertiesError → String
  | .badHex text => "invalid literal for int() with base 16: " ++ text.quotedUpTo 200
  | .noSuchCharacter => "chr() arg not in range(0x110000)"

def hexValue? (c : Char) : Option Nat :=
  if 'a' ≤ c && c ≤ 'f' then some (c.toNat - 'a'.toNat + 10)
  else if 'A' ≤ c && c ≤ 'F' then some (c.toNat - 'A'.toNat + 10)
  else decimalValue? c

def hexRun? : List Char → Option Nat
  | [] => none
  | cs =>
    let groups := cs.splitOn '_'
    if groups.any List.isEmpty then none
    else cs.filter (· != '_') |>.foldlM (fun n c => (hexValue? c).map (n * 16 + ·)) 0

/-- Reads a hexadecimal number literal: blanks around it, an optional sign, an
optional `0x` prefix (which an underscore may follow), then the digits. -/
def readHex? (text : String) : Option Int :=
  let cs := (trim text).toList
  let (negative, cs) := match cs with
    | '-' :: rest => (true, rest)
    | '+' :: rest => (false, rest)
    | _ => (false, cs)
  let digits := match cs with
    | '0' :: x :: '_' :: rest => if x == 'x' || x == 'X' then rest else cs
    | '0' :: x :: rest => if x == 'x' || x == 'X' then rest else cs
    | _ => cs
  (hexRun? digits).map fun n => if negative then -(n : Int) else n

def escapedCodePoint (four : List Nat) : Except PropertiesError Nat :=
  match readHex? (CodePoints.charsOf four) with
  | none => .error (.badHex ⟨four⟩)
  | some n => if n < 0 then .error .noSuchCharacter else .ok n.toNat

def unescapeLetter (p : Nat) : Nat :=
  if p == 't'.toNat then '\t'.toNat
  else if p == 'n'.toNat then '\n'.toNat
  else if p == 'r'.toNat then '\r'.toNat
  else if p == 'f'.toNat then 0x0c
  else p

/-- Resolves the backslash escapes of a text given as code points; `0x5C` is the backslash and
`0x75` the letter `u`. -/
def unescapePoints : List Nat → Except PropertiesError (List Nat)
  | [] => .ok []
  | 0x5C :: 0x75 :: a :: b :: c :: d :: rest => do
    let p ← escapedCodePoint [a, b, c, d]
    pure (p :: (← unescapePoints rest))
  | 0x5C :: n :: rest => do pure (unescapeLetter n :: (← unescapePoints rest))
  | p :: rest => do pure (p :: (← unescapePoints rest))

def unescape (t : CodePoints) : Except PropertiesError CodePoints :=
  (unescapePoints t.points).map CodePoints.mk

def isSpaceOrTab (c : Char) : Bool := c == ' ' || c == '\t'

def splitKey : List Nat → List Nat × List Nat
  | [] => ([], [])
  | 0x5C :: c :: rest => let (k, r) := splitKey rest; (0x5C :: c :: k, r)
  | c :: rest =>
    if c == '='.toNat || c == ':'.toNat || isSpaceOrTab (Char.ofNat c) then ([], c :: rest)
    else let (k, r) := splitKey rest; (c :: k, r)

/-- Splits a logical line into its unescaped key and value. -/
def splitEntry (line : CodePoints) : Except PropertiesError (CodePoints × CodePoints) := do
  let (key, rest) := splitKey line.points
  let rest := rest.dropWhile (isSpaceOrTab <| Char.ofNat ·)
  let rest := match rest with
    | 0x3D :: more | 0x3A :: more => more.dropWhile (isSpaceOrTab <| Char.ofNat ·)
    | _ => rest
  pure (← unescape ⟨key⟩, ← unescape ⟨rest⟩)

def trailingBackslashes (line : String) : Nat :=
  (line.toList.reverse.takeWhile (· == '\\')).length

def readLines : List String → String → OrderedMap CodePoints CodePoints →
    Except PropertiesError (OrderedMap CodePoints CodePoints)
  | [], logical, entries =>
    if logical.isEmpty then .ok entries
    else do
      let (k, v) ← splitEntry (.ofString logical)
      pure (entries.insert k v)
  | raw :: rest, logical, entries =>
    let line := if logical.isEmpty then trimStart raw
      else String.ofList (raw.toList.dropWhile isSpaceOrTab)
    if logical.isEmpty && (line.isEmpty || line.front == '#' || line.front == '!') then
      readLines rest logical entries
    else if trailingBackslashes line % 2 == 1 then
      readLines rest (logical ++ String.ofList line.toList.dropLast) entries
    else do
      let (k, v) ← splitEntry (.ofString (logical ++ line))
      readLines rest "" (entries.insert k v)

def parse (text : String) : Except PropertiesError (OrderedMap CodePoints CodePoints) :=
  readLines (lines text) "" {}

def escapeChar (c : Char) : List Char :=
  match c with
  | '\\' => ['\\', '\\']
  | '=' => ['\\', '=']
  | ':' => ['\\', ':']
  | '#' => ['\\', '#']
  | '!' => ['\\', '!']
  | '\t' => ['\\', 't']
  | '\n' => ['\\', 'n']
  | '\r' => ['\\', 'r']
  | other => [other]

def escapePoint (p : Nat) : List Nat :=
  if isSurrogate p then [p] else (escapeChar (Char.ofNat p)).map Char.toNat

def escapeKeyPoint (p : Nat) : List Nat :=
  if p == ' '.toNat then ['\\'.toNat, p] else escapePoint p

def escapeKey (text : CodePoints) : CodePoints :=
  ⟨text.points.flatMap escapeKeyPoint⟩

def escapeValue (text : CodePoints) : CodePoints :=
  match text.points.flatMap escapePoint with
  | 0x20 :: rest => ⟨'\\'.toNat :: 0x20 :: rest⟩
  | ps => ⟨ps⟩

def format (entries : List (CodePoints × CodePoints)) (comment : Option String) (now : Time.Stamp) :
    CodePoints :=
  let header := (comment.map fun c => ["#" ++ c]).getD [] ++ ["#" ++ now.longForm]
  let body := entries.map fun (k, v) => escapeKey k ++ CodePoints.ofString "=" ++ escapeValue v
  ⟨(header.map CodePoints.ofString ++ body).flatMap (fun (line : CodePoints) => line.points ++ ['\n'.toNat])⟩

end PluginPack.Properties
