import PluginPack.Console.Layout

/-!
Log records as the console shows them: the level name in a column of eight
cells, a blank, and the message in the rest of the line. Long messages wrap
inside their column, cutting words that are too long for it, and every further
line of a message starts below the message column.

```
INFO     Generating home/plugins/demo.hpl
WARNING  Skipping core validation for g:a:jar:1 since it has no archive
```
-/

namespace PluginPack.Console

def levelWidth : Nat := 8

def logLines (width : Nat) (level message : String) : List String :=
  let column := width - (levelWidth + 1)
  let indent := String.ofList (List.replicate (levelWidth + 1) ' ')
  match wrapText column message with
  | [] => [padTo levelWidth level]
  | first :: rest => (padTo levelWidth level ++ " " ++ first) :: rest.map (indent ++ ·)

end PluginPack.Console
