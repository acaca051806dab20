import PluginPack.Archive.Bytes
import PluginPack.Archive.Crc32

/-!
Writing zip archives of stored members.

Each member is a local header, its name and its bytes; the central directory
repeats the headers with the offsets of the local ones, and the end record gives
the number of members and where the directory is. Names that are not plain ASCII
are flagged as UTF-8.
-/

namespace PluginPack.Archive

def memberDate : Nat := ((2001 - 1980) <<< 9) ||| (1 <<< 5) ||| 1

def write (entries : List (String × ByteArray)) : ByteArray :=
  let step := fun (acc : List UInt8 × List UInt8) (e : String × ByteArray) =>
    let (body, central) := acc
    let (name, data) := e
    let nameBytes := name.toUTF8.toList
    let flags := if name.toList.all (·.toNat < 128) then 0 else 0x800
    let crc := (crc32 data).toNat
    let common := writeLE flags 2 ++ writeLE 0 2 ++ writeLE 0 2 ++ writeLE memberDate 2 ++
      writeLE crc 4 ++ writeLE data.size 4 ++ writeLE data.size 4 ++ writeLE nameBytes.length 2
    let header := [0x50, 0x4B, 0x03, 0x04] ++ writeLE 20 2 ++ common ++ writeLE 0 2 ++ nameBytes ++ data.toList
    let entry := [0x50, 0x4B, 0x01, 0x02] ++ writeLE 20 2 ++ writeLE 20 2 ++ common ++
      writeLE 0 2 ++ writeLE 0 2 ++ writeLE 0 2 ++ writeLE 0 2 ++ writeLE 0 4 ++
      writeLE body.length 4 ++ nameBytes
    (body ++ header, central ++ entry)
  let (body, central) := entries.foldl step ([], [])
  let endRecord := [0x50, 0x4B, 0x05, 0x06] ++ writeLE 0 2 ++ writeLE 0 2 ++
    writeLE entries.length 2 ++ writeLE entries.length 2 ++ writeLE central.length 4 ++
    writeLE body.length 4 ++ writeLE 0 2
  ⟨(body ++ central ++ endRecord).toArray⟩

end PluginPack.Archive
