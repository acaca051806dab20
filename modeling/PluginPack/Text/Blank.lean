/-!
Blank characters and line breaks of Unicode text.

A *blank* is a character of the Unicode white-space class together with the four
information separators `\x1c` to `\x1f`. A *line break* is one of line feed,
carriage return (alone or before a line feed), vertical tab, form feed, the
separators `\x1c` to `\x1e`, next line, and the line and paragraph separators.
-/

namespace PluginPack.Text

def isBlank (c : Char) : Bool :=
  let n := c.toNat
  (9 ≤ n && n ≤ 13) || (28 ≤ n && n ≤ 32) || n == 0x85 || n == 0xA0 || n == 0x1680 ||
    (0x2000 ≤ n && n ≤ 0x200A) || n == 0x2028 || n == 0x2029 || n == 0x202F ||
    n == 0x205F || n == 0x3000

def isLineBreak (c : Char) : Bool :=
  let n := c.toNat
  (10 ≤ n && n ≤ 13) || (28 ≤ n && n ≤ 30) || n == 0x85 || n == 0x2028 || n == 0x2029

def trimStart (s : String) : String :=
  String.ofList (s.toList.dropWhile isBlank)

def trimEnd (s : String) : String :=
  String.ofList (s.toList.reverse.dropWhile isBlank).reverse

def trim (s : String) : String :=
  trimEnd (trimStart s)

def trimChars (drop : Char → Bool) (s : String) : String :=
  String.ofList ((s.toList.dropWhile drop).reverse.dropWhile drop).reverse

def linesOf : List Char → List Char → List String
  | [], current => if current.isEmpty then [] else [String.ofList current.reverse]
  | '\r' :: '\n' :: rest, current => String.ofList current.reverse :: linesOf rest []
  | c :: rest, current =>
    if isLineBreak c then String.ofList current.reverse :: linesOf rest []
    else linesOf rest (c :: current)

def lines (s : String) : List String :=
  linesOf s.toList []

def words (s : String) : List String :=
  (s.toList.splitOnP isBlank).filterMap fun w => if w.isEmpty then none else some (String.ofList w)

example : lines "a\r\nb\rc\n" = ["a", "b", "c"] := by decide
example : lines "\n\n" = ["", ""] := by decide
example : trim " \x0b a b 　" = "a b" := by decide

end PluginPack.Text
