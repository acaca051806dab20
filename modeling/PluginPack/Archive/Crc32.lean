/-!
The CRC-32 checksum of zip archives: the reflected polynomial `0xEDB88320`,
starting from all ones and inverted at the end.
-/

namespace PluginPack.Archive

def crcBit (c : UInt32) : UInt32 :=
  if c &&& 1 == 1 then (0xEDB88320 : UInt32) ^^^ (c >>> 1) else c >>> 1

def crcByte (c : UInt32) (b : UInt8) : UInt32 :=
  (List.range 8).foldl (fun acc _ => crcBit acc) (c ^^^ b.toUInt32)

def crc32 (bytes : ByteArray) : UInt32 :=
  bytes.foldl crcByte 0xFFFFFFFF ^^^ 0xFFFFFFFF

end PluginPack.Archive
