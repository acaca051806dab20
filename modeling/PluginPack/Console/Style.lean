import PluginPack.Text.Blank
import PluginPack.Text.Case
import PluginPack.Text.Digit

/-!
Style definitions of console markup and their canonical spelling.

A style definition is a list of words separated by blanks, read without regard
to case. A word is an attribute (`bold` or `b`, `italic` or `i`, ...), a colour,
`on` before a background colour, `not` before an attribute that is switched
off, or `link` before an address. A colour is `default`, one of the named
colours, `#` and six hexadecimal digits, `color(n)` for n up to 255, or
`rgb(r,g,b)` with three decimal components up to 255.

The canonical spelling lists the attributes in a fixed order, each as `name` or
`not name`, then the colour, then `on` and the background colour, then `link`
and the address, and is `none` for the empty style. Two definitions of one style
have one spelling, which is how a closing tag finds the tag it closes:

```
canonical "red  Bold"         ⟶   "bold red"
canonical "on blue red"       ⟶   "red on blue"
canonical "b not b"           ⟶   "not bold"
```

A definition that is not a style keeps its own text, trimmed and in lower case.
An `rgb(...)` component with no digit in it cannot be read as a number at all,
and that failure is not one of the definition but of the number.
-/

namespace PluginPack.Console

def attributeOrder : List String :=
  ["bold", "dim", "italic", "underline", "blink", "blink2", "reverse", "conceal", "strike",
   "underline2", "frame", "encircle", "overline"]

def attributeOf? (word : String) : Option String :=
  match word with
  | "b" => some "bold"
  | "d" => some "dim"
  | "i" => some "italic"
  | "u" => some "underline"
  | "r" => some "reverse"
  | "c" => some "conceal"
  | "s" => some "strike"
  | "uu" => some "underline2"
  | "o" => some "overline"
  | w => if attributeOrder.contains w then some w else none

def colorNames : List String :=
  ["black", "red", "green", "yellow", "blue", "magenta", "cyan", "white", "bright_black",
   "bright_red", "bright_green", "bright_yellow", "bright_blue", "bright_magenta", "bright_cyan",
   "bright_white", "grey0", "gray0", "navy_blue", "dark_blue", "blue3", "blue1", "dark_green",
   "deep_sky_blue4", "dodger_blue3", "dodger_blue2", "green4", "spring_green4", "turquoise4",
   "deep_sky_blue3", "dodger_blue1", "green3", "spring_green3", "dark_cyan", "light_sea_green",
   "deep_sky_blue2", "deep_sky_blue1", "spring_green2", "cyan3", "dark_turquoise", "turquoise2",
   "green1", "spring_green1", "medium_spring_green", "cyan2", "cyan1", "dark_red", "deep_pink4",
   "purple4", "purple3", "blue_violet", "orange4", "grey37", "gray37", "medium_purple4",
   "slate_blue3", "royal_blue1", "chartreuse4", "dark_sea_green4", "pale_turquoise4", "steel_blue",
   "steel_blue3", "cornflower_blue", "chartreuse3", "cadet_blue", "sky_blue3", "steel_blue1",
   "pale_green3", "sea_green3", "aquamarine3", "medium_turquoise", "chartreuse2", "sea_green2",
   "sea_green1", "aquamarine1", "dark_slate_gray2", "dark_magenta", "dark_violet", "purple",
   "light_pink4", "plum4", "medium_purple3", "slate_blue1", "yellow4", "wheat4", "grey53",
   "gray53", "light_slate_grey", "light_slate_gray", "medium_purple", "light_slate_blue",
   "dark_olive_green3", "dark_sea_green", "light_sky_blue3", "sky_blue2", "dark_sea_green3",
   "dark_slate_gray3", "sky_blue1", "chartreuse1", "light_green", "pale_green1",
   "dark_slate_gray1", "red3", "medium_violet_red", "magenta3", "dark_orange3", "indian_red",
   "hot_pink3", "medium_orchid3", "medium_orchid", "medium_purple2", "dark_goldenrod",
   "light_salmon3", "rosy_brown", "grey63", "gray63", "medium_purple1", "gold3", "dark_khaki",
   "navajo_white3", "grey69", "gray69", "light_steel_blue3", "light_steel_blue", "yellow3",
   "dark_sea_green2", "light_cyan3", "light_sky_blue1", "green_yellow", "dark_olive_green2",
   "dark_sea_green1", "pale_turquoise1", "deep_pink3", "magenta2", "hot_pink2", "orchid",
   "medium_orchid1", "orange3", "light_pink3", "pink3", "plum3", "violet", "light_goldenrod3",
   "tan", "misty_rose3", "thistle3", "plum2", "khaki3", "light_goldenrod2", "light_yellow3",
   "grey84", "gray84", "light_steel_blue1", "yellow2", "dark_olive_green1", "honeydew2",
   "light_cyan1", "red1", "deep_pink2", "deep_pink1", "magenta1", "orange_red1", "indian_red1",
   "hot_pink", "dark_orange", "salmon1", "light_coral", "pale_violet_red1", "orchid2", "orchid1",
   "orange1", "sandy_brown", "light_salmon1", "light_pink1", "pink1", "plum1", "gold1",
   "navajo_white1", "misty_rose1", "thistle1", "yellow1", "light_goldenrod1", "khaki1", "wheat1",
   "cornsilk1", "grey100", "gray100", "grey3", "gray3", "grey7", "gray7", "grey11", "gray11",
   "grey15", "gray15", "grey19", "gray19", "grey23", "gray23", "grey27", "gray27", "grey30",
   "gray30", "grey35", "gray35", "grey39", "gray39", "grey42", "gray42", "grey46", "gray46",
   "grey50", "gray50", "grey54", "gray54", "grey58", "gray58", "grey62", "gray62", "grey66",
   "gray66", "grey70", "gray70", "grey74", "gray74", "grey78", "gray78", "grey82", "gray82",
   "grey85", "gray85", "grey89", "gray89", "grey93", "gray93"]

inductive StyleFault where
  | unknownWord
  | emptyComponent (component : String)
  deriving DecidableEq, Repr

def isHexColor (cs : List Char) : Bool :=
  cs.length == 6 && cs.all fun c => ('0' ≤ c && c ≤ '9') || ('a' ≤ c && c ≤ 'f')

def indexedColor? (cs : List Char) : Option Nat :=
  if 1 ≤ cs.length && cs.length ≤ 3 && cs.all fun c => '0' ≤ c && c ≤ '9' then
    some (cs.foldl (fun n c => n * 10 + (c.toNat - 48)) 0)
  else none

/-- Checks the components between the brackets of `rgb(...)`, which are decimal
digits of any script, blanks and commas: three components, each a number, none
above 255. -/
def rgbFault? (inside : List Char) : Option StyleFault :=
  let parts := (String.ofList inside).splitOn ","
  if parts.length != 3 then some .unknownWord
  else
    match parts.find? (fun p => (Text.decimalNumeral? (Text.trim p)).isNone) with
    | some p => some (.emptyComponent p)
    | none =>
      if parts.all fun p => ((Text.decimalNumeral? (Text.trim p)).getD 0) ≤ 255 then none
      else some .unknownWord

def colorFault? (word : String) : Option StyleFault :=
  if word == "default" || colorNames.contains word then none
  else
    match word.toList with
    | '#' :: hex => if isHexColor hex then none else some .unknownWord
    | 'c' :: 'o' :: 'l' :: 'o' :: 'r' :: '(' :: rest =>
      if rest.getLast? == some ')' then
        match indexedColor? rest.dropLast with
        | some n => if n ≤ 255 then none else some .unknownWord
        | none => some .unknownWord
      else some .unknownWord
    | 'r' :: 'g' :: 'b' :: '(' :: rest =>
      let inside := rest.dropLast
      if rest.getLast? == some ')' && !inside.isEmpty &&
          inside.all (fun c => c == ',' || Text.isBlank c || (Text.decimalValue? c).isSome) then
        rgbFault? inside
      else some .unknownWord
    | _ => some .unknownWord

/-- A style as its definition sets it: attributes switched on or off, colours
and link, each kept by the last word that sets it. -/
structure Style where
  attributes : List (String × Bool) := []
  color : Option String := none
  background : Option String := none
  link : Option String := none
  deriving Repr

def Style.set (s : Style) (name : String) (on : Bool) : Style :=
  { s with attributes := (name, on) :: s.attributes.filter (·.1 != name) }

def Style.readWords (s : Style) : List String → Except StyleFault Style
  | [] => pure s
  | original :: rest =>
    let word := Text.lower original
    if word == "on" then
      match rest with
      | [] => throw .unknownWord
      | bg :: more =>
        match colorFault? (Text.lower bg) with
        | some f => throw f
        | none => Style.readWords { s with background := some (Text.lower bg) } more
    else if word == "not" then
      match rest with
      | [] => throw .unknownWord
      | w :: more =>
        match attributeOf? w with
        | some a => Style.readWords (s.set a false) more
        | none => throw .unknownWord
    else if word == "link" then
      match rest with
      | [] => throw .unknownWord
      | url :: more => Style.readWords { s with link := some url } more
    else
      match attributeOf? word with
      | some a => Style.readWords (s.set a true) rest
      | none =>
        match colorFault? word with
        | some f => throw f
        | none => Style.readWords { s with color := some word } rest

def Style.spelling (s : Style) : String :=
  let attributes := attributeOrder.filterMap fun a =>
    (s.attributes.lookup a).map fun on => if on then a else "not " ++ a
  let color := s.color.toList
  let background := match s.background with
    | some b => ["on", b]
    | none => []
  let link := match s.link with
    | some l => ["link", l]
    | none => []
  match attributes ++ color ++ background ++ link with
  | [] => "none"
  | words => " ".intercalate words

def Style.read (definition : String) : Except StyleFault Style :=
  if definition.isEmpty || Text.trim definition == "none" then pure {}
  else Style.readWords {} (Text.words definition)

def canonical (definition : String) : Except String String :=
  match Style.read definition with
  | .ok s => pure s.spelling
  | .error .unknownWord => pure (Text.lower (Text.trim definition))
  | .error (.emptyComponent c) => throw c

example : (canonical "red  Bold").toOption = some "bold red" := by decide +kernel
example : (canonical "on blue red").toOption = some "red on blue" := by decide +kernel
example : (canonical "b not b").toOption = some "not bold" := by decide +kernel
example : (canonical "@Click").toOption = some "@click" := by decide +kernel

end PluginPack.Console
