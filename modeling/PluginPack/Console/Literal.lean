import PluginPack.Text.Blank
import PluginPack.Text.Word

/-!
Literal values in the parameters of handler tags.

A handler tag `[@name=parameters]` of console markup carries its parameters as
a literal value: a number, a text or byte string, one of the constants `True`,
`False`, `None` and `...`, or a tuple, list, set or dictionary of such values.
A number may carry a sign, and a real number may be joined to an imaginary one
by `+` or `-`; no other operator is part of a literal. The elements of a set and
the keys of a dictionary must be fixed values: constants, numbers and tuples of
fixed values, but no list, set or dictionary.

The text is read in two stages. The scanner splits it into tokens: numbers with
single underscores between digits, strings with their prefix letters and
escapes, names, brackets and punctuation; it skips blanks, comments and line
breaks inside brackets, and joins a line ended by a backslash to the next one,
which must exist. The reader then
follows the grammar of literals over the tokens and checks the rules above.

```
isLiteral "(1, 'x')"      ⟶   true
isLiteral "1+2j"          ⟶   true
isLiteral "{[1]: 2}"      ⟶   false
isLiteral "("             ⟶   false
```

The parameters of a handler tag may start with a handler name of word
characters and dots, followed by the literal in brackets; a name alone stands
for the empty tuple.
-/

namespace PluginPack.Console.Literal

inductive Token where
  | number (imaginary : Bool)
  | string (bytes : Bool)
  | name (text : String)
  | punct (c : Char)
  | ellipsis
  | newline
  deriving DecidableEq, Repr

def isNameStart (c : Char) : Bool := c.isAlpha || c == '_'

def isNameChar (c : Char) : Bool := c.isAlphanum || c == '_'

def continuesName (c : Char) : Bool := isNameChar c || c.toNat ≥ 128

def isHex (c : Char) : Bool :=
  c.isDigit || ('a' ≤ c && c ≤ 'f') || ('A' ≤ c && c ≤ 'F')

/-- Reads digits of a class in which a single underscore may stand between two
digits; gives the number of digits read and the rest, or `none` when an
underscore is not followed by a digit. -/
def digitTail (isDigit : Char → Bool) : List Char → Option (Nat × List Char)
  | [] => some (0, [])
  | c :: rest =>
    if isDigit c then (digitTail isDigit rest).map fun (n, r) => (n + 1, r)
    else if c == '_' then
      match rest with
      | d :: more =>
        if isDigit d then (digitTail isDigit more).map fun (n, r) => (n + 1, r) else none
      | [] => none
    else some (0, c :: rest)

def endOfNumber (rest : List Char) : Option (List Char) :=
  match rest with
  | c :: _ => if continuesName c then none else some rest
  | [] => some rest

def decimalDigitLimit : Nat := 4300

def exponentRest (cs : List Char) : Option (Bool × List Char) :=
  let digits := match cs with
    | '+' :: d :: more | '-' :: d :: more => if d.isDigit then some more else none
    | d :: more => if d.isDigit then some more else none
    | [] => none
  digits.bind fun more => (digitTail Char.isDigit more).bind fun (_, rest) =>
    match rest with
    | 'j' :: after | 'J' :: after => (endOfNumber after).map (true, ·)
    | _ => (endOfNumber rest).map (false, ·)

def fractionRest (cs : List Char) : Option (Bool × List Char) :=
  let afterDigits := match cs with
    | d :: more => if d.isDigit then (digitTail Char.isDigit more).map Prod.snd else some cs
    | [] => some cs
  afterDigits.bind fun rest =>
    match rest with
    | 'e' :: after | 'E' :: after => exponentRest after
    | 'j' :: after | 'J' :: after => (endOfNumber after).map (true, ·)
    | _ => (endOfNumber rest).map (false, ·)

/-- The rest after the integer part of a decimal number: a point, an exponent or
`j` may follow; `leadingZero` marks an integer part of a zero followed by more
digits, which must not stand alone, and `digits` counts its digits. -/
def integerRest (leadingZero : Bool) (digits : Nat) (rest : List Char) :
    Option (Bool × List Char) :=
  match rest with
  | '.' :: after => fractionRest after
  | 'e' :: after | 'E' :: after => exponentRest after
  | 'j' :: after | 'J' :: after => (endOfNumber after).map (true, ·)
  | _ =>
    if leadingZero || digits > decimalDigitLimit then none
    else (endOfNumber rest).map (false, ·)

def skipZeros : List Char → Option (List Char)
  | '_' :: d :: more =>
    if d == '0' then skipZeros more else if d.isDigit then some (d :: more) else none
  | ['_'] => none
  | '0' :: more => skipZeros more
  | rest => some rest

def basedRest (isDigit : Char → Bool) (cs : List Char) : Option (List Char) :=
  let start := match cs with
    | '_' :: d :: more => if isDigit d then some more else none
    | d :: more => if isDigit d then some more else none
    | [] => none
  start.bind fun more => (digitTail isDigit more).bind fun (_, rest) => endOfNumber rest

/-- Reads a number at the front of some text that starts with a digit or with a
point before a digit; gives whether it is imaginary and the rest. -/
def scanNumber (cs : List Char) : Option (Bool × List Char) :=
  match cs with
  | '0' :: x :: rest =>
    if x == 'x' || x == 'X' then (basedRest isHex rest).map (false, ·)
    else if x == 'o' || x == 'O' then (basedRest (fun c => '0' ≤ c && c ≤ '7') rest).map (false, ·)
    else if x == 'b' || x == 'B' then (basedRest (fun c => c == '0' || c == '1') rest).map (false, ·)
    else
      (skipZeros (x :: rest)).bind fun after =>
        match after with
        | d :: more =>
          if d.isDigit then (digitTail Char.isDigit more).bind fun (_, r) => integerRest true 0 r
          else integerRest false 0 after
        | [] => integerRest false 0 after
  | '.' :: rest => fractionRest rest
  | _ :: rest => (digitTail Char.isDigit rest).bind fun (n, r) => integerRest false (n + 1) r
  | [] => none

/-- Reads the body of a string literal after its opening quotes, up to `size`
closing quotes; `seen` counts the quotes just read and `acc` holds the body read
so far, last first. A backslash takes the next character with it, and a line
break ends a string of single quotes too early. -/
def stringBody (quote : Char) (size : Nat) : Nat → List Char → List Char →
    Option (List Char × List Char)
  | _, _, [] => none
  | seen, acc, c :: rest =>
    if c == quote then
      if seen + 1 == size then some ((acc.drop seen).reverse, rest)
      else stringBody quote size (seen + 1) (c :: acc) rest
    else if size == 1 && c == '\n' then none
    else if c == '\\' then
      match rest with
      | d :: more => stringBody quote size 0 (d :: c :: acc) more
      | [] => none
    else stringBody quote size 0 (c :: acc) rest

def hexAhead (n : Nat) (cs : List Char) : Bool :=
  cs.length ≥ n && (cs.take n).all isHex

def hexValue (cs : List Char) : Nat :=
  cs.foldl (fun n c =>
    n * 16 + (if c.isDigit then c.toNat - 48 else if c ≤ 'F' then c.toNat - 55 else c.toNat - 87)) 0

def isNameLetter (c : Char) : Bool := c.isAlphanum || c == ' ' || c == '-'

/-- Whether the escapes of a text string's body can be read: `\x` takes two
hexadecimal digits, `\u` four, `\U` eight naming a code point, and `\N` a
character name in braces. -/
def textEscapesValid : List Char → Bool
  | '\\' :: c :: rest =>
    (if c == 'x' then hexAhead 2 rest
     else if c == 'u' then hexAhead 4 rest
     else if c == 'U' then hexAhead 8 rest && hexValue (rest.take 8) ≤ 0x10FFFF
     else if c == 'N' then
       match rest with
       | '{' :: name =>
         let inside := name.takeWhile (· != '}')
         !inside.isEmpty && inside.length < name.length && inside.all isNameLetter
       | _ => false
     else true) && textEscapesValid rest
  | _ :: rest => textEscapesValid rest
  | [] => true

def bytesEscapesValid : List Char → Bool
  | '\\' :: c :: rest => (c != 'x' || hexAhead 2 rest) && bytesEscapesValid rest
  | _ :: rest => bytesEscapesValid rest
  | [] => true

/-- The kind of string a prefix starts, as whether it is raw, of bytes and
formatted; `none` when the letters are no prefix. -/
def prefixKind? (letters : List Char) : Option (Bool × Bool × Bool) :=
  match String.ofList (letters.map Char.toLower) with
  | "" => some (false, false, false)
  | "u" => some (false, false, false)
  | "r" => some (true, false, false)
  | "b" => some (false, true, false)
  | "br" | "rb" => some (true, true, false)
  | "f" => some (false, false, true)
  | "fr" | "rf" => some (true, false, true)
  | _ => none

/-- Reads a string literal of a given prefix at a quote; gives whether it is of
bytes and the rest. Formatted strings are never literal values. -/
def scanString (letters : List Char) (cs : List Char) : Option (Bool × List Char) :=
  (prefixKind? letters).bind fun (raw, bytes, formatted) =>
    match cs with
    | q :: rest =>
      let (size, body) := match rest with
        | a :: b :: more => if a == q && b == q then (3, more) else (1, rest)
        | _ => (1, rest)
      (stringBody q size 0 [] body).bind fun (content, after) =>
        let valid :=
          if bytes then content.all (·.toNat < 128) && (raw || bytesEscapesValid content)
          else raw || textEscapesValid content
        if formatted || !valid then none else some (bytes, after)
    | [] => none

def maxDepth : Nat := 200

def endLine (acc : List Token) : List Token :=
  match acc with
  | t :: _ => if t == .newline then acc else .newline :: acc
  | [] => acc

/-- Reads the blanks that start a line, and the backslashes that join the next
line to them; gives whether they indent the line and what follows. `joined`
records whether the blanks before a backslash already indented the line, since
those decide. A form feed sets the count of blanks back to zero. -/
def indentation : Bool → Bool → List Char → Option (Bool × List Char)
  | joined, _, ' ' :: rest => indentation joined true rest
  | joined, _, '\t' :: rest => indentation joined true rest
  | joined, _, '\x0c' :: rest => indentation joined false rest
  | joined, indented, '\\' :: '\n' :: rest =>
    if rest.isEmpty then none else indentation (joined || indented) indented rest
  | joined, indented, rest => some (joined || indented, rest)

def indentOk (cs : List Char) : Bool :=
  match indentation false false cs with
  | some (_, '#' :: _) | some (_, '\n' :: _) => true
  | some (indented, _) => !indented
  | none => false

/-- Splits literal text into tokens, with `depth` brackets open and the tokens
read so far in `acc`, last first; `fuel` bounds the steps, each of which reads
at least one character. -/
def scan : Nat → Nat → List Char → List Token → Option (List Token)
  | 0, _, _, _ => none
  | _ + 1, _, [], acc => some acc.reverse
  | fuel + 1, depth, c :: rest, acc =>
    if c == ' ' || c == '\t' || c == '\x0c' then scan fuel depth rest acc
    else if c == '\n' then
      if depth == 0 then
        if indentOk rest then scan fuel depth rest (endLine acc) else none
      else scan fuel depth rest acc
    else if c == '#' then scan fuel depth (rest.dropWhile (· != '\n')) acc
    else if c == '\\' then
      match rest with
      | '\n' :: more => if more.isEmpty then none else scan fuel depth more acc
      | _ => none
    else if c == '(' || c == '[' || c == '{' then
      if depth ≥ maxDepth then none else scan fuel (depth + 1) rest (.punct c :: acc)
    else if c == ')' || c == ']' || c == '}' then
      if depth == 0 then none else scan fuel (depth - 1) rest (.punct c :: acc)
    else if c == ',' || c == ':' || c == '+' || c == '-' then scan fuel depth rest (.punct c :: acc)
    else if c == '.' then
      match rest with
      | '.' :: '.' :: more => scan fuel depth more (.ellipsis :: acc)
      | d :: _ =>
        if d.isDigit then
          match scanNumber (c :: rest) with
          | some (imaginary, more) => scan fuel depth more (.number imaginary :: acc)
          | none => none
        else none
      | [] => none
    else if c.isDigit then
      match scanNumber (c :: rest) with
      | some (imaginary, more) => scan fuel depth more (.number imaginary :: acc)
      | none => none
    else if c == '"' || c == '\'' then
      match scanString [] (c :: rest) with
      | some (bytes, more) => scan fuel depth more (.string bytes :: acc)
      | none => none
    else if isNameStart c then
      let letters := c :: rest.takeWhile isNameChar
      let after := rest.dropWhile isNameChar
      match after with
      | q :: _ =>
        if (q == '"' || q == '\'') && (prefixKind? letters).isSome then
          match scanString letters after with
          | some (bytes, more) => scan fuel depth more (.string bytes :: acc)
          | none => none
        else if q.toNat ≥ 128 then none
        else scan fuel depth after (.name (String.ofList letters) :: acc)
      | [] => scan fuel depth after (.name (String.ofList letters) :: acc)
    else none

/-- What a piece of literal text evaluates to, as far as the rules of literals
look at it. -/
inductive Shape where
  | number (imaginary : Bool)
  | signed (imaginary : Bool)
  | complexSum
  | constant
  | collection (fixed : Bool)
  deriving DecidableEq, Repr

def Shape.fixed : Shape → Bool
  | .collection f => f
  | _ => true

def closing (close : Option Char) (ts : List Token) : Option (List Token) :=
  match close, ts with
  | none, [] => some []
  | some c, .punct d :: rest => if c == d then some rest else none
  | _, _ => none

def stringRun (bytes : Bool) : List Token → Option (List Token)
  | .string b :: rest => if b == bytes then stringRun bytes rest else none
  | rest => some rest

mutual

def readSum : Nat → List Token → Option (Shape × List Token)
  | 0, _ => none
  | fuel + 1, ts =>
    (readFactor fuel ts).bind fun (left, rest) => readSumTail fuel left rest

def readSumTail : Nat → Shape → List Token → Option (Shape × List Token)
  | 0, _, _ => none
  | fuel + 1, left, .punct c :: rest =>
    if c == '+' || c == '-' then
      (readFactor fuel rest).bind fun (right, more) =>
        let realLeft := left == .number false || left == .signed false
        if realLeft && right == .number true then readSumTail fuel .complexSum more else none
    else some (left, .punct c :: rest)
  | _ + 1, left, ts => some (left, ts)

def readFactor : Nat → List Token → Option (Shape × List Token)
  | 0, _ => none
  | fuel + 1, .punct c :: rest =>
    if c == '+' || c == '-' then
      (readFactor fuel rest).bind fun (inner, more) =>
        match inner with
        | .number imaginary => some (.signed imaginary, more)
        | _ => none
    else readAtom fuel (.punct c :: rest)
  | fuel + 1, ts => readAtom fuel ts

def readAtom : Nat → List Token → Option (Shape × List Token)
  | 0, _ => none
  | _ + 1, .number imaginary :: rest => some (.number imaginary, rest)
  | _ + 1, .string bytes :: rest => (stringRun bytes rest).map (.constant, ·)
  | _ + 1, .ellipsis :: rest => some (.constant, rest)
  | _ + 1, .name n :: rest =>
    if n == "True" || n == "False" || n == "None" then some (.constant, rest)
    else if n == "set" then
      match rest with
      | .punct '(' :: .punct ')' :: more => some (.collection false, more)
      | _ => none
    else none
  | fuel + 1, .punct '(' :: rest =>
    match rest with
    | .punct ')' :: more => some (.collection true, more)
    | _ =>
      (readSum fuel rest).bind fun (first, more) =>
        match more with
        | .punct ')' :: after => some (first, after)
        | .punct ',' :: after =>
          (readItems fuel (some ')') [first] after).map fun (items, r) =>
            (.collection (items.all Shape.fixed), r)
        | _ => none
  | fuel + 1, .punct '[' :: rest =>
    (readItems fuel (some ']') [] rest).map fun (_, r) => (.collection false, r)
  | fuel + 1, .punct '{' :: rest =>
    match rest with
    | .punct '}' :: more => some (.collection false, more)
    | _ =>
      (readSum fuel rest).bind fun (first, more) =>
        match more with
        | .punct ':' :: after =>
          (readSum fuel after).bind fun (_, r) =>
            if !first.fixed then none
            else
              match r with
              | .punct '}' :: done => some (.collection false, done)
              | .punct ',' :: next =>
                (readEntries fuel next).map fun r' => (.collection false, r')
              | _ => none
        | _ =>
          (readItems fuel (some '}') [] rest).bind fun (items, r) =>
            if items.all Shape.fixed then some (.collection false, r) else none
  | _ + 1, _ => none

/-- Reads items separated by commas up to a closing bracket (or the end when
`close` is `none`), after the items `acc`; a comma may follow the last item. -/
def readItems : Nat → Option Char → List Shape → List Token → Option (List Shape × List Token)
  | 0, _, _, _ => none
  | fuel + 1, close, acc, ts =>
    match closing close ts with
    | some rest => some (acc.reverse, rest)
    | none =>
      (readSum fuel ts).bind fun (item, rest) =>
        match closing close rest with
        | some after => some ((item :: acc).reverse, after)
        | none =>
          match rest with
          | .punct ',' :: more => readItems fuel close (item :: acc) more
          | _ => none

def readEntries : Nat → List Token → Option (List Token)
  | 0, _ => none
  | _ + 1, .punct '}' :: rest => some rest
  | fuel + 1, ts =>
    (readSum fuel ts).bind fun (key, rest) =>
      match rest with
      | .punct ':' :: after =>
        (readSum fuel after).bind fun (_, r) =>
          if !key.fixed then none
          else
            match r with
            | .punct '}' :: done => some done
            | .punct ',' :: next => readEntries fuel next
            | _ => none
      | _ => none

end

/-- Whether tokens form one literal value: an expression, or several separated
by commas (a tuple), followed by nothing but line ends. -/
def readsAsValue (ts : List Token) : Bool :=
  let body := (ts.reverse.dropWhile (· == .newline)).reverse
  let fuel := 4 * body.length + 4
  match readSum fuel body with
  | some (_, []) => true
  | some (_, .punct ',' :: more) => (readItems fuel none [] more).isSome
  | _ => false

def unifyBreaks : List Char → List Char
  | '\r' :: '\n' :: rest => '\n' :: unifyBreaks rest
  | '\r' :: rest => '\n' :: unifyBreaks rest
  | c :: rest => c :: unifyBreaks rest
  | [] => []

def isLiteral (text : String) : Bool :=
  let cs := unifyBreaks (text.toList.dropWhile fun c => c == ' ' || c == '\t')
  !cs.contains '\x00' && indentOk cs &&
    match scan (cs.length + 1) 0 cs [] with
    | some ts => readsAsValue ts
    | none => false

/-- The literal that a handler tag's parameters stand for: after a handler name
of word characters and dots comes either nothing (the empty tuple) or the
literal in round brackets on one line; parameters of any other form are read
whole. -/
def ofParameters (parameters : String) : String :=
  let cs := (Text.trim parameters).toList
  let rest := cs.dropWhile fun c => Text.isWordChar c || c == '.'
  match rest with
  | [] => "()"
  | '(' :: more =>
    if more.getLast? == some ')' && !more.dropLast.contains '\n' then String.ofList rest
    else String.ofList cs
  | _ => String.ofList cs

example : isLiteral "(1, 'x')" = true := by decide +kernel
example : isLiteral "1+2j" = true := by decide +kernel
example : isLiteral "{[1]: 2}" = false := by decide +kernel
example : isLiteral "(" = false := by decide +kernel
example : ofParameters "f(1, 'x')" = "(1, 'x')" := by decide +kernel

end PluginPack.Console.Literal
