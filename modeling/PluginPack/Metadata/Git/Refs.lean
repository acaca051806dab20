/-!
Ref names and loose ref files of a git repository.

Ref names and ref files are bytes: a name is whatever bytes a file gives, and
only some of them are acceptable. A ref name is a `/`-separated list of
components. Each component is non-empty, does not start with `.`, does not end
with `.lock`, and has no `..`, no `@{`, no control character, no space and none
of `~ ^ : ? * [ \`. The whole name does not end with `.` and is not the single
character `@`. Bytes from 0x80 up are acceptable anywhere.

A loose ref file, its blanks at the end dropped and read up to its first NUL,
holds either `ref:` and the name of another ref, or an object id of the
repository's hash length followed by its end or a blank.

```
isValidName (bytesOf "refs/heads/main")   ⟶   true
isValidName (bytesOf "refs/heads/a..b")   ⟶   false
isValidName (bytesOf "refs/heads/x.lock") ⟶   false
```
-/

namespace PluginPack.Metadata.Git

def isGitSpace (c : Char) : Bool := c == ' ' || c == '\t' || c == '\n' || c == '\r'

def isHexDigit (c : Char) : Bool :=
  ('0' ≤ c && c ≤ '9') || ('a' ≤ c && c ≤ 'f') || ('A' ≤ c && c ≤ 'F')

def byteOf (c : Char) : UInt8 := c.toNat.toUInt8

def bytesOf (s : String) : List UInt8 := s.toUTF8.toList

def isSpaceByte (b : UInt8) : Bool := b == 0x20 || b == 0x09 || b == 0x0A || b == 0x0D

def isHexByte (b : UInt8) : Bool := isHexDigit (Char.ofNat b.toNat)

def hexText (bs : List UInt8) : String := String.ofList (bs.map fun b => (Char.ofNat b.toNat).toLower)

def cString (bs : List UInt8) : List UInt8 := bs.takeWhile (· != 0)

def trimEnd (bs : List UInt8) : List UInt8 := (bs.reverse.dropWhile isSpaceByte).reverse

def isForbiddenInName (b : UInt8) : Bool :=
  b < 0x20 || b == 0x7F || (bytesOf " ~^:?*[\\").contains b

def hasPair {α : Type} [BEq α] (a b : α) : List α → Bool
  | x :: y :: rest => (x == a && y == b) || hasPair a b (y :: rest)
  | _ => false

def splitAt {α : Type} [BEq α] (sep : α) : List α → List (List α)
  | [] => [[]]
  | c :: rest =>
    if c == sep then [] :: splitAt sep rest
    else
      match splitAt sep rest with
      | part :: more => (c :: part) :: more
      | [] => [[c]]

def isValidComponent (bs : List UInt8) : Bool :=
  !bs.isEmpty && bs.head? != some (byteOf '.') && !((bytesOf ".lock").isSuffixOf bs) &&
    !bs.any isForbiddenInName && !(hasPair (byteOf '.') (byteOf '.') bs) &&
    !(hasPair (byteOf '@') (byteOf '\x7b') bs)

def isValidName (name : List UInt8) : Bool :=
  name != [byteOf '@'] && name.getLast? != some (byteOf '.') &&
    (splitAt (byteOf '/') name).all isValidComponent

example : isValidName (bytesOf "refs/heads/main") = true := by decide +kernel
example : isValidName (bytesOf "refs/heads/a..b") = false := by decide +kernel
example : isValidName (bytesOf "refs/heads/x.lock") = false := by decide +kernel
example : isValidName (bytesOf "refs/heads//x") = false := by decide +kernel

def startsWithObjectId (hexLength : Nat) (bs : List UInt8) : Bool :=
  bs.length ≥ hexLength && (bs.take hexLength).all isHexByte

inductive RefContent where
  | symbolic (target : List UInt8)
  | object (id : String)
  | broken
  deriving DecidableEq, Repr

def RefContent.read (hexLength : Nat) (bytes : List UInt8) : RefContent :=
  let bs := cString (trimEnd bytes)
  if (bytesOf "ref:").isPrefixOf bs then .symbolic ((bs.drop 4).dropWhile isSpaceByte)
  else if startsWithObjectId hexLength bs &&
      (match bs.drop hexLength with
        | [] => true
        | b :: _ => isSpaceByte b) then
    .object (hexText (bs.take hexLength))
  else .broken

example : RefContent.read 4 (bytesOf "ref: refs/heads/x\n") = .symbolic (bytesOf "refs/heads/x") := by
  decide +kernel
example : RefContent.read 4 (bytesOf "ABCD junk\n") = .object "abcd" := by decide +kernel

def headIsValid (bytes : List UInt8) : Bool :=
  let bs := bytes.take 255
  let symbolic := (bytesOf "ref:").isPrefixOf bs &&
    (bytesOf "refs/").isPrefixOf ((bs.drop 4).dropWhile isSpaceByte)
  symbolic || startsWithObjectId 40 bs || startsWithObjectId 64 bs

end PluginPack.Metadata.Git
