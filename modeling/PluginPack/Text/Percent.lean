/-!
Percent-encoding of text for URIs.

Every character outside a kept set is written as the UTF-8 bytes of its
encoding, each as `%` and two upper-case hexadecimal digits. File URIs keep the
unreserved characters (letters and digits of ASCII, `_`, `.`, `-`, `~`) and `/`.
-/

namespace PluginPack.Text

def upperHexDigit (n : Nat) : Char :=
  if n < 10 then Char.ofNat ('0'.toNat + n) else Char.ofNat ('A'.toNat + n - 10)

def percentByte (b : UInt8) : List Char :=
  ['%', upperHexDigit (b.toNat / 16), upperHexDigit (b.toNat % 16)]

def percentEncode (keep : Char → Bool) (s : String) : String :=
  String.ofList (s.toList.flatMap fun c =>
    if keep c then [c] else (String.singleton c).toUTF8.toList.flatMap percentByte)

def isUriPathChar (c : Char) : Bool :=
  (c.toNat < 128 && c.isAlphanum) || c == '_' || c == '.' || c == '-' || c == '~' || c == '/'

def fileUri (path : String) : String := "file://" ++ percentEncode isUriPathChar path

example : fileUri "/w/sub dir/é.class" = "file:///w/sub%20dir/%C3%A9.class" := by decide +kernel

end PluginPack.Text
