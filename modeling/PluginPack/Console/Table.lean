import PluginPack.Console.Layout

/-!
Tables drawn with box characters: a heavy frame around the header row, a light
one around the body, one blank of padding on each side of a cell, and an
optional title centred above the frame.

Each column is as wide as its widest cell, and at most as wide as the console.
A table wider than the console has its widest columns narrowed first, down to
the width of the next widest ones, and then all columns evenly; cells then wrap
inside their columns by words, and a word too long for its column is cut short
with an ellipsis.

```
 Title
┏━━━━━━┳━━━━━━━┓
┃ Name ┃ Value ┃
┡━━━━━━╇━━━━━━━┩
│ a    │ 1     │
└──────┴───────┘
```
-/

namespace PluginPack.Console

structure Table where
  title : Option String := none
  headers : List String
  rows : List (List String)
  deriving Repr, Inhabited

def roundHalfEven (num den : Nat) : Nat :=
  let q := num / den
  let r := num % den
  if 2 * r < den then q
  else if 2 * r > den then q + 1
  else if q % 2 == 0 then q else q + 1

/-- Takes `total` cells away from the values in proportion to their ratios, each
at most its maximum. -/
def ratioReduce (total : Nat) (ratios maximums values : List Nat) : List Nat :=
  let ratios := (ratios.zip maximums).map fun (r, m) => if m == 0 then 0 else r
  let step (state : Nat × Nat × List Nat) (x : Nat × Nat × Nat) :=
    let (remaining, totalRatio, out) := state
    let (ratio, maximum, value) := x
    if ratio > 0 && totalRatio > 0 then
      let distributed := min maximum (roundHalfEven (ratio * remaining) totalRatio)
      (remaining - distributed, totalRatio - ratio, out ++ [value - distributed])
    else (remaining, totalRatio, out ++ [value])
  let totalRatio := ratios.foldl (· + ·) 0
  if totalRatio == 0 then values
  else ((ratios.zip (maximums.zip values)).foldl step (total, totalRatio, [])).2.2

/-- Narrows the widest columns towards the next widest until the widths fit,
at most once per column width. -/
def collapseWidths (maxWidth : Nat) : Nat → List Nat → List Nat
  | 0, widths => widths
  | fuel + 1, widths =>
    let total := widths.foldl (· + ·) 0
    if total == 0 || total ≤ maxWidth then widths
    else
      let excess := total - maxWidth
      let widest := widths.foldl max 0
      let second := widths.foldl (fun m w => if w != widest then max m w else m) 0
      let difference := widest - second
      if difference == 0 then widths
      else
        let ratios := widths.map fun w => if w == widest then 1 else 0
        collapseWidths maxWidth fuel
          (ratioReduce excess ratios (widths.map fun _ => min excess difference) widths)

/-- The widths of the columns, padding included, for a table that may be at most
`maxWidth` cells wide. -/
def Table.columnWidths (t : Table) (maxWidth : Nat) : List Nat :=
  let natural := (List.range t.headers.length).map fun i =>
    let cells := (t.headers.getD i "") :: t.rows.map fun r => r.getD i ""
    cells.foldl (fun w c => max w (((c.splitOn "\n").map textWidth).foldl max 0)) 0 + 2
  let budget := maxWidth - (t.headers.length + 1)
  let natural := natural.map (min budget)
  let total := natural.foldl (· + ·) 0
  if total ≤ budget then natural
  else
    let collapsed := collapseWidths budget (natural.length + 1) natural
    let total := collapsed.foldl (· + ·) 0
    if total ≤ budget then collapsed
    else ratioReduce (total - budget) (collapsed.map fun _ => 1) collapsed collapsed

def rowLines (widths : List Nat) (cells : List String) (left middle right : String) : List String :=
  let wrapped := (widths.zip cells).map fun (w, c) => wrapTextCropped (w - 2) c
  let height := wrapped.foldl (fun h ls => max h ls.length) 1
  (List.range height).map fun i =>
    left ++ middle.intercalate ((widths.zip wrapped).map fun (w, ls) => " " ++ padTo (w - 2) (ls.getD i "") ++ " ")
      ++ right

def ruleLine (widths : List Nat) (left rule cross right : Char) : String :=
  String.ofList (left :: ((widths.map fun w => List.replicate w rule).intersperse [cross]).flatten ++ [right])

def Table.render (t : Table) (maxWidth : Nat) : List String :=
  let widths := t.columnWidths maxWidth
  let tableWidth := widths.foldl (· + ·) 0 + widths.length + 1
  let title := match t.title with
    | some s => (wrapText tableWidth s).map (centre tableWidth)
    | none => []
  title ++
    [ruleLine widths '┏' '━' '┳' '┓'] ++
    rowLines widths t.headers "┃" "┃" "┃" ++
    [ruleLine widths '┡' '━' '╇' '┩'] ++
    t.rows.flatMap (fun r => rowLines widths r "│" "│" "│") ++
    [ruleLine widths '└' '─' '┴' '┘']

end PluginPack.Console
