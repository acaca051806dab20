import PluginPack.Text.Utf8

/-!
What can go wrong while reading a zip archive.

Each fault has the name of its kind and a message. Malformed archives and failed
reads of the underlying file are the failures that packaging expects of an
archive and turns into its own errors; the others (unsupported features,
encryption, data that ends early, names that are not UTF-8, corrupt deflated or
LZMA data, offsets and sizes too large to seek to or read) escape as they are.
-/

namespace PluginPack.Archive

inductive Fault where
  | malformed (message : String)
  | unsupported (message : String)
  | encrypted (message : String)
  | truncated
  | undecodable (fault : Text.Utf8Fault)
  | inflate (message : String)
  | lzma (message : String)
  | io (message : String)
  | offsetTooLarge
  | readTooLarge (overflow : Bool) (message : String)
  deriving DecidableEq, Repr

def Fault.kind : Fault → String
  | .malformed _ => "BadZipFile"
  | .unsupported _ => "NotImplementedError"
  | .encrypted _ => "RuntimeError"
  | .truncated => "EOFError"
  | .undecodable _ => "UnicodeDecodeError"
  | .inflate _ => "error"
  | .lzma _ => "LZMAError"
  | .io _ => "OSError"
  | .offsetTooLarge => "ValueError"
  | .readTooLarge overflow _ => if overflow then "OverflowError" else "MemoryError"

def Fault.message : Fault → String
  | .malformed m | .unsupported m | .encrypted m | .inflate m | .lzma m | .io m => m
  | .truncated => ""
  | .offsetTooLarge => "cannot fit 'int' into an offset-sized integer"
  | .readTooLarge _ m => m
  | .undecodable f => f.message

def Fault.isExpected : Fault → Bool
  | .malformed _ | .io _ => true
  | _ => false

def invalidSeek : Fault := .io "[Errno 22] Invalid argument"

def maxFileOffset : Nat := Nat.pow 2 44 - 4096

def offsetRange : Nat := Nat.pow 2 63

def seekTo (offset : Int) : Except Fault Unit :=
  if offset < -(offsetRange : Int) || offset ≥ (offsetRange : Int) then .error .offsetTooLarge
  else if offset < 0 then .error invalidSeek
  else if offset > maxFileOffset then .error invalidSeek
  else .ok ()

def memoryLimit : Nat := 33738981376

def readAtOnce (n : Nat) : Except Fault Unit :=
  if n ≥ offsetRange then .error (.readTooLarge true "cannot fit 'int' into an index-sized integer")
  else if n > offsetRange - 1 - 33 then .error (.readTooLarge true "byte string is too large")
  else if n > memoryLimit then .error (.readTooLarge false "")
  else .ok ()

end PluginPack.Archive
