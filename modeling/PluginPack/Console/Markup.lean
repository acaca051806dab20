import PluginPack.Console.Emoji
import PluginPack.Console.Literal
import PluginPack.Console.Style
import PluginPack.Text.Blank
import PluginPack.Text.Case

/-!
Console markup: text with style tags in square brackets and emoji codes
between colons, as the console writes it without colour.

A tag is `[` followed by a lower-case letter, `#`, `/` or `@`, then anything up
to the next `]` without another `[`: `[bold]`, `[/bold]`, `[green]`. Tags vanish
from the written text. A backslash before a tag writes the tag as text, and pairs
of backslashes before a tag stand for one backslash each; `\[` elsewhere is a
plain `[`. A closing tag must close an open tag of its name (`[/]` closes the last
one), or the markup is refused.

An emoji code is `:name:` with no blank inside; a known name becomes its emoji,
any other text stays as it is.

```
"[green]Wrote[/green] x.hpl"   ⟶   "Wrote x.hpl"
"a \\[b]"                      ⟶   "a [b]"
"ids g:a:1"                    ⟶   "ids g🅰1"
```
-/

namespace PluginPack.Console

/-- The emoji of a code's inside, if its name is known. An inside that ends in
`-emoji` or `-text` names the emoji before that suffix, followed by the variation
selector that asks for the emoji or the text form. -/
def emojiOf (inside : String) : Option String :=
  let cs := inside.toList
  let named (suffix : String) (selector : String) : Option String :=
    (emojiNamed? (Text.lower (String.ofList (cs.take (cs.length - suffix.length))))).map (· ++ selector)
  if inside.endsWith "-emoji" then named "-emoji" "\uFE0F"
  else if inside.endsWith "-text" then named "-text" "\uFE0E"
  else emojiNamed? (Text.lower inside)

/-- Replaces every `:name:` code of a known emoji, scanning left to right; a code
that names no emoji is kept with both its colons, and its closing colon opens no
further code. -/
def replaceEmoji (cs : List Char) : List Char :=
  go none cs
where
  /-- Scans on from a state: outside a code, or inside one with the characters
  read since its opening colon, last first (none of them blank or a colon). -/
  go : Option (List Char) → List Char → List Char
    | none, [] => []
    | some acc, [] => ':' :: acc.reverse
    | none, c :: rest => if c == ':' then go (some []) rest else c :: go none rest
    | some acc, c :: rest =>
      if c == ':' then
        match emojiOf (String.ofList acc.reverse) with
        | some e => e.toList ++ go none rest
        | none => ':' :: acc.reverse ++ ':' :: go none rest
      else if Text.isBlank c then ':' :: acc.reverse ++ c :: go none rest
      else go (some (c :: acc)) rest

def plainText (cs : List Char) : List Char :=
  let rec unescape : List Char → List Char
    | '\\' :: '[' :: rest => '[' :: unescape rest
    | c :: rest => c :: unescape rest
    | [] => []
  replaceEmoji (unescape cs)

def startsTag (c : Char) : Bool := ('a' ≤ c && c ≤ 'z') || c == '#' || c == '/' || c == '@'

def tagAhead : List Char → List Char → Option (List Char × List Char)
  | _, [] => none
  | acc, c :: rest =>
    if c == ']' then some (acc.reverse, rest)
    else if c == '[' then none
    else tagAhead (c :: acc) rest

/-- A piece of markup: plain text, or a tag's inside with the position of its
opening bracket in the markup. -/
inductive Piece where
  | text (cs : List Char)
  | tag (inside : String) (position : Nat)
  deriving Repr

theorem tagAhead_shorter : ∀ (acc cs inside next : List Char), tagAhead acc cs = some (inside, next) →
    next.length < cs.length
  | _, [], _, _, h => by simp [tagAhead] at h
  | acc, c :: rest, inside, next, h => by
    simp only [tagAhead] at h
    split at h
    · simp only [Option.some.injEq, Prod.mk.injEq] at h
      obtain ⟨-, rfl⟩ := h
      simp
    · split at h
      · simp at h
      · have := tagAhead_shorter (c :: acc) rest inside next h
        simp only [List.length_cons]
        omega

/-- Splits markup of `total` characters into plain text and tags, with the
backslash rules; `pending` is the plain text seen so far, in reverse. -/
def piecesFrom (total : Nat) (pending : List Char) : List Char → List Piece
  | [] => if pending.isEmpty then [] else [.text pending.reverse]
  | c :: rest =>
    if c == '\\' || c == '[' then
      let n := ((c :: rest).takeWhile (· == '\\')).length
      match hd : (c :: rest).drop n with
      | '[' :: t :: body =>
        if startsTag t then
          match h : tagAhead [] (t :: body) with
          | some (inside, next) =>
            have : next.length < rest.length + 1 := by
              have h1 := tagAhead_shorter [] (t :: body) inside next h
              have h2 : ((c :: rest).drop n).length = (c :: rest).length - n := List.length_drop
              rw [hd] at h2
              simp only [List.length_cons] at h1 h2 ⊢
              omega
            let lead := if pending.isEmpty then [] else [Piece.text pending.reverse]
            let slashes := if n / 2 > 0 then [Piece.text (List.replicate (n / 2) '\\')] else []
            if n % 2 == 1 then
              lead ++ slashes ++ Piece.text ('[' :: inside ++ [']']) :: piecesFrom total [] next
            else
              let position := total - (body.length + 2)
              lead ++ slashes ++ Piece.tag (String.ofList inside) position :: piecesFrom total [] next
          | none => piecesFrom total (c :: pending) rest
        else piecesFrom total (c :: pending) rest
      | _ => piecesFrom total (c :: pending) rest
    else piecesFrom total (c :: pending) rest
termination_by cs => cs.length
decreasing_by
  all_goals first
    | exact this
    | exact Nat.lt_succ_self _

def pieces (cs : List Char) : List Piece := piecesFrom cs.length [] cs

inductive MarkupFault where
  /-- A closing tag closes no open tag, or a handler tag's parameters are no
  literal value. -/
  | refused (message : String)
  | badNumber (component : String)
  deriving Repr

def MarkupFault.kind : MarkupFault → String
  | .refused _ => "MarkupError"
  | .badNumber _ => "ValueError"

def splitTag (inside : String) : String × Option String :=
  match inside.splitOn "=" with
  | [name] => (name, none)
  | name :: rest => (name, some ("=".intercalate rest))
  | [] => (inside, none)

def tagName (name : String) : Except MarkupFault String :=
  match canonical name with
  | .ok n => pure n
  | .error c => throw (.badNumber c)

structure OpenTag where
  name : String
  parameters : Option String

/-- Checks the parameters of a handler tag when it is closed: they must be a
literal value, possibly after a handler name. -/
def OpenTag.check (t : OpenTag) : Except MarkupFault Unit :=
  match t.parameters with
  | some p =>
    if t.name.startsWith "@" && !p.isEmpty && !Literal.isLiteral (Literal.ofParameters p) then
      throw (.refused ("error parsing " ++ p))
    else pure ()
  | none => pure ()

def popNamed (name : String) : List OpenTag → Option (OpenTag × List OpenTag)
  | [] => none
  | t :: rest =>
    if t.name == name then some (t, rest)
    else (popNamed name rest).map fun (found, others) => (found, t :: others)

def render (markup : String) : Except MarkupFault String := do
  let mut out : List Char := []
  let mut open_ : List OpenTag := []
  for p in pieces markup.toList do
    match p with
    | .text cs => out := out ++ plainText cs
    | .tag inside position =>
      let (name, parameters) := splitTag inside
      if name.startsWith "/" then
        let styleName := Text.trim (String.ofList (name.toList.drop 1))
        if styleName.isEmpty then
          match open_ with
          | t :: rest =>
            t.check
            open_ := rest
          | [] => throw (.refused ("closing tag '[/]' at position " ++ toString position ++
              " has nothing to close"))
        else
          match popNamed (← tagName styleName) open_ with
          | some (t, rest) =>
            t.check
            open_ := rest
          | none =>
            throw (.refused ("closing tag '[" ++ inside ++ "]' at position " ++ toString position ++
              " doesn't match any open tag"))
      else open_ := { name := ← tagName name, parameters } :: open_
  pure (String.ofList out)

end PluginPack.Console
