import PluginPack.Json.Value

/-!
Reading JSON text.

The grammar is standard JSON, with `NaN`, `Infinity` and `-Infinity` read as
numerals. Strings may not hold raw control characters; `\u` escapes join
surrogate pairs. Blanks are space, tab, line feed and carriage return, and
nothing but blanks may follow the value.
-/

namespace PluginPack.Json

def isBlank (c : Char) : Bool := c == ' ' || c == '\t' || c == '\n' || c == '\r'

structure JsonError where
  reason : String
  deriving Repr

def stop (reason : String) : Except JsonError α := .error ⟨reason⟩

def hex4 (cs : List Char) : Option Nat :=
  if cs.length != 4 then none
  else cs.foldlM (fun acc c =>
    if '0' ≤ c && c ≤ '9' then some (acc * 16 + (c.toNat - '0'.toNat))
    else if 'a' ≤ c && c ≤ 'f' then some (acc * 16 + (c.toNat - 'a'.toNat + 10))
    else if 'A' ≤ c && c ≤ 'F' then some (acc * 16 + (c.toNat - 'A'.toNat + 10))
    else none) 0

/-- Reads the rest of a string after its opening quote; `acc` holds the
characters read, reversed. -/
def readString (acc : List Char) : List Char → Except JsonError (String × List Char)
  | [] => stop "unterminated string"
  | '"' :: rest => .ok (String.ofList acc.reverse, rest)
  | '\\' :: 'u' :: a :: b :: c :: d :: rest =>
    match hex4 [a, b, c, d] with
    | none => stop "invalid \\u escape"
    | some hi =>
      if 0xD800 ≤ hi && hi < 0xDC00 then
        match _hr : rest with
        | '\\' :: 'u' :: e :: f :: g :: h :: more =>
          match hex4 [e, f, g, h] with
          | some lo =>
            if 0xDC00 ≤ lo && lo < 0xE000 then
              readString (Char.ofNat (0x10000 + (hi - 0xD800) * 0x400 + (lo - 0xDC00)) :: acc) more
            else readString (Char.ofNat 0xFFFD :: acc) rest
          | none => readString (Char.ofNat 0xFFFD :: acc) rest
        | _ => readString (Char.ofNat 0xFFFD :: acc) rest
      else if 0xDC00 ≤ hi && hi < 0xE000 then readString (Char.ofNat 0xFFFD :: acc) rest
      else readString (Char.ofNat hi :: acc) rest
  | '\\' :: c :: rest =>
    match c with
    | '"' => readString ('"' :: acc) rest
    | '\\' => readString ('\\' :: acc) rest
    | '/' => readString ('/' :: acc) rest
    | 'b' => readString ('\x08' :: acc) rest
    | 'f' => readString ('\x0c' :: acc) rest
    | 'n' => readString ('\n' :: acc) rest
    | 'r' => readString ('\r' :: acc) rest
    | 't' => readString ('\t' :: acc) rest
    | _ => stop "invalid escape"
  | c :: rest =>
    if c.toNat < 0x20 then stop "invalid control character" else readString (c :: acc) rest
termination_by cs => cs.length
decreasing_by all_goals (simp_all; try omega)

def readNumber (cs : List Char) : Except JsonError (Value × List Char) :=
  let (neg, body) := match cs with
    | '-' :: rest => (true, rest)
    | _ => (false, cs)
  let intPart := body.takeWhile Char.isDigit
  let rest := body.dropWhile Char.isDigit
  if intPart.isEmpty then stop "number expected"
  else if intPart.length > 1 && intPart.head? == some '0' then
    -- a leading zero ends the number
    let n : Int := 0
    .ok (.int (if neg then -n else n), body.drop 1)
  else
    let (frac, rest) := match rest with
      | '.' :: more =>
        let ds := more.takeWhile Char.isDigit
        if ds.isEmpty then ([], rest) else ('.' :: ds, more.dropWhile Char.isDigit)
      | _ => ([], rest)
    let (exp, rest) := match rest with
      | e :: more =>
        if e == 'e' || e == 'E' then
          let (sign, more') := match more with
            | '+' :: m => (['+'], m)
            | '-' :: m => (['-'], m)
            | _ => ([], more)
          let ds := more'.takeWhile Char.isDigit
          if ds.isEmpty then ([], rest) else (e :: sign ++ ds, more'.dropWhile Char.isDigit)
        else ([], rest)
      | [] => ([], rest)
    if frac.isEmpty && exp.isEmpty then
      let n : Int := intPart.foldl (fun acc c => acc * 10 + (c.toNat - '0'.toNat)) 0
      .ok (.int (if neg then -n else n), rest)
    else
      .ok (.float (String.ofList ((if neg then ['-'] else []) ++ intPart ++ frac ++ exp)), rest)

def putMember (ms : List (String × Value)) (k : String) (v : Value) : List (String × Value) :=
  if ms.any (·.1 == k) then ms.map fun (k', v') => if k' == k then (k', v) else (k', v')
  else ms ++ [(k, v)]

mutual

/-- Reads a value after blanks. Every value takes at least one character, so the
length of the text bounds the depth and `fuel` never runs out first. -/
def readValue (fuel : Nat) (cs : List Char) : Except JsonError (Value × List Char) :=
  match fuel with
  | 0 => stop "too deeply nested"
  | fuel + 1 =>
    match cs.dropWhile isBlank with
    | '{' :: rest => readMembers fuel [] true rest
    | '[' :: rest => readItems fuel [] true rest
    | '"' :: rest => do
      let (s, after) ← readString [] rest
      pure (.str s, after)
    | 'n' :: 'u' :: 'l' :: 'l' :: rest => .ok (.null, rest)
    | 't' :: 'r' :: 'u' :: 'e' :: rest => .ok (.bool true, rest)
    | 'f' :: 'a' :: 'l' :: 's' :: 'e' :: rest => .ok (.bool false, rest)
    | 'N' :: 'a' :: 'N' :: rest => .ok (.float "NaN", rest)
    | 'I' :: 'n' :: 'f' :: 'i' :: 'n' :: 'i' :: 't' :: 'y' :: rest => .ok (.float "Infinity", rest)
    | '-' :: 'I' :: 'n' :: 'f' :: 'i' :: 'n' :: 'i' :: 't' :: 'y' :: rest =>
      .ok (.float "-Infinity", rest)
    | other => readNumber other

def readMembers (fuel : Nat) (acc : List (String × Value)) (first : Bool) (cs : List Char) :
    Except JsonError (Value × List Char) :=
  match fuel with
  | 0 => stop "too deeply nested"
  | fuel + 1 =>
    match cs.dropWhile isBlank with
    | '}' :: rest => if first then .ok (.obj acc, rest) else stop "member expected"
    | '"' :: rest => do
      let (k, after) ← readString [] rest
      match after.dropWhile isBlank with
      | ':' :: more => do
        let (v, after) ← readValue fuel more
        let acc := putMember acc k v
        match after.dropWhile isBlank with
        | ',' :: more => readMembers fuel acc false more
        | '}' :: more => .ok (.obj acc, more)
        | _ => stop "comma or closing brace expected"
      | _ => stop ": expected"
    | _ => stop "member name expected"

def readItems (fuel : Nat) (acc : List Value) (first : Bool) (cs : List Char) :
    Except JsonError (Value × List Char) :=
  match fuel with
  | 0 => stop "too deeply nested"
  | fuel + 1 =>
    match cs.dropWhile isBlank with
    | ']' :: rest => if first then .ok (.arr acc.reverse, rest) else stop "value expected"
    | _ => do
      let (v, after) ← readValue fuel cs
      match after.dropWhile isBlank with
      | ',' :: more => readItems fuel (v :: acc) false more
      | ']' :: more => .ok (.arr (v :: acc).reverse, more)
      | _ => stop ", or ] expected"

end

def parse (text : String) : Except JsonError Value := do
  let cs := text.toList
  let (v, rest) ← readValue (2 * cs.length + 2) cs
  if (rest.dropWhile isBlank).isEmpty then pure v else stop "extra data"

end PluginPack.Json
