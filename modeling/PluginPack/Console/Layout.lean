import PluginPack.Console.Cells
import PluginPack.Text.Blank

/-!
Laying text out in console cells.

Text is wrapped at a width by words: a word is a run of non-blank
characters with the blanks that follow it (the first word also keeps the blanks
before it). A word goes on the current line when it fits there without its
trailing blanks, and otherwise starts a new line; a line that ends where the
text is broken loses its trailing blanks. Line breaks in the text are kept. A word longer than a whole line is either cut into pieces of the line's
width, as printed lines do, or left whole on a line that is then cut short with
an ellipsis, as table cells do.

```
wrapText 5 "aaaaaaa bb"          ⟶   ["aaaaa", "aa bb"]
wrapTextCropped 5 "aaaaaaa bb"   ⟶   ["aaaa…", "bb"]
```
-/

namespace PluginPack.Console

def widthOf (cs : List Char) : Nat := cs.foldl (fun w c => w + charWidth c) 0

def textWidth (s : String) : Nat := widthOf s.toList

/-- The words of a line: runs of non-blank characters with the blanks after them;
leading blanks go with the first word. -/
def wordsOf (cs : List Char) : List (List Char) :=
  let lead := cs.takeWhile Text.isBlank
  let rest := cs.dropWhile Text.isBlank
  match splitWords rest with
  | [] => if lead.isEmpty then [] else [lead]
  | w :: ws => (lead ++ w) :: ws
where
  splitWords (cs : List Char) : List (List Char) :=
    match cs with
    | [] => []
    | c :: more =>
      let word := c :: (more.takeWhile (!Text.isBlank ·))
      let afterWord := more.dropWhile (!Text.isBlank ·)
      let blanks := afterWord.takeWhile Text.isBlank
      let next := afterWord.dropWhile Text.isBlank
      have : next.length < (c :: more).length := by
        have h1 : next.length ≤ afterWord.length := (List.dropWhile_suffix _).length_le
        have h2 : afterWord.length ≤ more.length := (List.dropWhile_suffix _).length_le
        simp only [List.length_cons]
        omega
      (word ++ blanks) :: splitWords next
  termination_by cs.length
  decreasing_by exact this

def chop (width : Nat) (cs : List Char) : List (List Char) :=
  go cs [] 0
where
  go : List Char → List Char → Nat → List (List Char)
    | [], acc, _ => if acc.isEmpty then [] else [acc.reverse]
    | c :: rest, acc, used =>
      if used + charWidth c > width && !acc.isEmpty then acc.reverse :: go rest [c] (charWidth c)
      else go rest (c :: acc) (used + charWidth c)

def dropTrailingBlanks (cs : List Char) : List Char := (cs.reverse.dropWhile Text.isBlank).reverse

def wrapLine (width : Nat) (line : String) : List String :=
  let finish (lines : List (List Char)) := lines.map fun l => String.ofList l
  let step (state : List (List Char) × List Char × Nat) (word : List Char) :=
    let (done, current, used) := state
    let wordWidth := widthOf (dropTrailingBlanks word)
    if used + wordWidth ≤ width then (done, current ++ word, used + widthOf word)
    else if wordWidth > width then
      let pieces := chop width word
      let firstDone := if current.isEmpty then done else done ++ [current]
      match pieces.getLast? with
      | some last => (firstDone ++ pieces.dropLast, last, widthOf last)
      | none => (firstDone, [], 0)
    else if current.isEmpty then (done, word, widthOf word)
    else (done ++ [current], word, widthOf word)
  let (done, current, _) := (wordsOf line.toList).foldl step ([], [], 0)
  finish (done.map dropTrailingBlanks ++ [current])

def wrapText (width : Nat) (text : String) : List String :=
  (text.splitOn "\n").flatMap (wrapLine width)

/-- Characters brought to exactly `total` cells: padded with blanks when
narrower; when wider, the start whose width is `total`, found by halving the
candidates, with a blank for a two-cell character that would stand across the
edge. -/
def setCellSize (total : Nat) (cs : List Char) : List Char :=
  let size := widthOf cs
  if total == 0 then []
  else if size == total then cs
  else if size < total then cs ++ List.replicate (total - size) ' '
  else search 0 cs.length (cs.length + 1)
where
  search (start stop : Nat) : Nat → List Char
    | 0 => cs.take start
    | fuel + 1 =>
      let pos := (start + stop) / 2
      let before := cs.take (pos + 1)
      let used := widthOf before
      if used == total + 1 && (before.getLast?.map charWidth) == some 2 then before.dropLast ++ [' ']
      else if used == total then before
      else if used > total then search start pos fuel
      else search pos stop fuel

def ellipsize (width : Nat) (line : List Char) : List Char :=
  let excess := line.length - width
  let trailing := (line.reverse.takeWhile Text.isBlank).length
  let line := line.take (line.length - min trailing excess)
  if widthOf line > width then setCellSize (width - 1) line ++ ['…'] else line

/-- The lines one line of text wraps into at a width when words are never cut:
a word longer than the width stands on a line of its own, and a line that is
too wide ends in an ellipsis. -/
def wrapLineCropped (width : Nat) (line : String) : List String :=
  let step (state : List (List Char) × List Char × Nat) (word : List Char) :=
    let (done, current, used) := state
    let wordWidth := widthOf (dropTrailingBlanks word)
    if used + wordWidth ≤ width then (done, current ++ word, used + widthOf word)
    else if current.isEmpty then (done, word, widthOf word)
    else (done ++ [current], word, widthOf word)
  let (done, current, _) := (wordsOf line.toList).foldl step ([], [], 0)
  (done ++ [current]).map fun l => String.ofList (ellipsize width l)

def wrapTextCropped (width : Nat) (text : String) : List String :=
  (text.splitOn "\n").flatMap (wrapLineCropped width)

def centre (width : Nat) (s : String) : String :=
  let w := textWidth s
  if w ≥ width then s
  else
    let left := (width - w) / 2
    String.ofList (List.replicate left ' ') ++ s ++ String.ofList (List.replicate (width - w - left) ' ')

def padTo (width : Nat) (s : String) : String :=
  s ++ String.ofList (List.replicate (width - textWidth s) ' ')

end PluginPack.Console
