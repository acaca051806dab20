import PluginPack.Console.Layout

/-!
Outlines: labelled trees drawn with guide lines.

The root's label stands alone on the first line. Every other node starts with
the guides of its ancestors (`│   ` below an ancestor with later siblings,
four blanks below a last one) and its own branch, `├── `, or `└── ` for a last
child. A label that wraps continues under its branch with the guide below it.

```
root
├── a
│   └── b
└── c
```
-/

namespace PluginPack.Console

inductive Outline where
  | node (label : String) (children : List Outline)
  deriving Repr, Inhabited

mutual

/-- The lines of a node whose ancestors' guides are `guides`, as a child that is
last among its siblings or not, on a console `width` cells wide. -/
def Outline.childLines (width : Nat) (guides : String) (last : Bool) : Outline → List String
  | .node label children =>
    let branch := if last then "└── " else "├── "
    let below := if last then "    " else "│   "
    let labelLines := wrapText (width - textWidth guides - 4) label
    let own := match labelLines with
      | [] => [guides ++ branch]
      | first :: rest => (guides ++ branch ++ first) :: rest.map fun l => guides ++ below ++ l
    own ++ Outline.forestLines width (guides ++ below) children

def Outline.forestLines (width : Nat) (guides : String) : List Outline → List String
  | [] => []
  | [t] => Outline.childLines width guides true t
  | t :: ts => Outline.childLines width guides false t ++ Outline.forestLines width guides ts

end

def Outline.render (width : Nat) : Outline → List String
  | .node label children => wrapText width label ++ Outline.forestLines width "" children

end PluginPack.Console
