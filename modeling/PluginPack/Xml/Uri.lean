/-!
URI references, the form that namespace names must take.

A URI reference is either absolute, a scheme and `:` followed by a hierarchical
part, or relative; either may end in a query after `?` and a fragment after `#`.
The hierarchical part is an authority after `//` followed by segments that each
start with `/`, or a path. An authority is optional user information ending in
`@`, a host in square brackets or made of unreserved characters, escapes and
sub-delimiters, and an optional port of at least one digit. Path segments are
made of unreserved characters, escapes `%` and two hexadecimal digits,
sub-delimiters, `:` and `@`; the first segment of a relative path holds no `:`.
Only ASCII characters occur in a URI reference.

```
isUriReference "http://maven.apache.org/POM/4.0.0"   ⟶   true
isUriReference "urn:x"                               ⟶   true
isUriReference "a b"                                 ⟶   false
isUriReference "http://h:/x"                         ⟶   false
```
-/

namespace PluginPack.Xml.Uri

def isAlpha (c : Char) : Bool := ('a' ≤ c && c ≤ 'z') || ('A' ≤ c && c ≤ 'Z')

def isDigit (c : Char) : Bool := '0' ≤ c && c ≤ '9'

def isHex (c : Char) : Bool := isDigit c || ('a' ≤ c && c ≤ 'f') || ('A' ≤ c && c ≤ 'F')

def isUnreserved (c : Char) : Bool :=
  isAlpha c || isDigit c || c == '-' || c == '.' || c == '_' || c == '~'

def isSubDelim (c : Char) : Bool :=
  c == '!' || c == '$' || c == '&' || c == '\'' || c == '(' || c == ')' || c == '*' ||
    c == '+' || c == ',' || c == ';' || c == '='

def isPathChar (c : Char) : Bool := isUnreserved c || isSubDelim c || c == ':' || c == '@'

/-- The rest after the longest run of path characters and escapes, none of them
`forbid`; `extra` admits further characters. -/
def pathRun (forbid : Option Char) (extra : Char → Bool) : List Char → List Char
  | '%' :: a :: b :: rest =>
    if isHex a && isHex b then pathRun forbid extra rest else '%' :: a :: b :: rest
  | c :: rest =>
    if (isPathChar c || extra c) && some c != forbid then pathRun forbid extra rest
    else c :: rest
  | [] => []

def slashSegments (cs : List Char) : List Char :=
  match cs with
  | '/' :: rest => pathRun none (· == '/') rest
  | _ => cs

def infoRun : List Char → List Char
  | '%' :: a :: b :: rest => if isHex a && isHex b then infoRun rest else '%' :: a :: b :: rest
  | c :: rest => if isUnreserved c || isSubDelim c || c == ':' then infoRun rest else c :: rest
  | [] => []

def hostRun : List Char → List Char
  | '%' :: a :: b :: rest => if isHex a && isHex b then hostRun rest else '%' :: a :: b :: rest
  | c :: rest => if isUnreserved c || isSubDelim c then hostRun rest else c :: rest
  | [] => []

/-- Reads a host: an address in square brackets or a registered name, which may
be empty. -/
def host (cs : List Char) : Option (List Char) :=
  match cs with
  | '[' :: rest =>
    match rest.dropWhile (· != ']') with
    | _ :: after => some after
    | [] => none
  | _ => some (hostRun cs)

/-- Reads an authority: user information and `@` if present, a host, and a port
of at least one digit after `:`. -/
def authority (cs : List Char) : Option (List Char) :=
  let start := match infoRun cs with
    | '@' :: after => after
    | _ => cs
  (host start).bind fun rest =>
    match rest with
    | ':' :: port =>
      let digits := port.takeWhile isDigit
      if digits.isEmpty || digits.length > 10 ||
          digits.foldl (fun n c => n * 10 + (c.toNat - 48)) 0 > 2147483647 then none
      else some (port.drop digits.length)
    | _ => some rest

def queryRun (fragment : Bool) (cs : List Char) : List Char :=
  pathRun none (fun c => c == '/' || c == '?' || (fragment && (c == '[' || c == ']'))) cs

def endsWell (cs : List Char) : Bool :=
  let afterQuery := match cs with
    | '?' :: rest => queryRun false rest
    | _ => cs
  let afterFragment := match afterQuery with
    | '#' :: rest => queryRun true rest
    | _ => afterQuery
  afterFragment.isEmpty

def hierPart (cs : List Char) : Option (List Char) :=
  match cs with
  | '/' :: '/' :: rest => (authority rest).map slashSegments
  | _ => some (pathRun none (· == '/') cs)

/-- Whether text is an absolute URI: a scheme of a letter followed by letters,
digits, `+`, `-` and `.`, then `:` and a hierarchical part. -/
def isAbsolute (cs : List Char) : Bool :=
  match cs with
  | c :: rest =>
    isAlpha c &&
      match rest.dropWhile (fun d => isAlpha d || isDigit d || d == '+' || d == '-' || d == '.') with
      | ':' :: after =>
        match hierPart after with
        | some more => endsWell more
        | none => false
      | _ => false
  | [] => false

def isRelative (cs : List Char) : Bool :=
  let path := match cs with
    | '/' :: '/' :: rest => (authority rest).map slashSegments
    | '/' :: _ => some (pathRun none (· == '/') cs)
    | _ => some (slashSegments (pathRun (some ':') (fun _ => false) cs))
  match path with
  | some more => endsWell more
  | none => false

def isUriReference (s : String) : Bool :=
  isAbsolute s.toList || isRelative s.toList

def hasScheme (s : String) : Bool := isAbsolute s.toList

example : isUriReference "http://maven.apache.org/POM/4.0.0" = true := by decide +kernel
example : isUriReference "urn:x" = true := by decide +kernel
example : isUriReference "a b" = false := by decide +kernel
example : isUriReference "http://h:/x" = false := by decide +kernel

end PluginPack.Xml.Uri
