import ClassRename.Bytes

namespace ClassRename.Checksum

-- The generator polynomial with its bits in reverse order.
def polynomial : UInt32 := 0xEDB88320

def shiftBit (value : UInt32) : UInt32 :=
  if value &&& 1 = 1 then (value >>> 1) ^^^ polynomial else value >>> 1

def feed (value : UInt32) (byte : UInt8) : UInt32 :=
  Nat.repeat shiftBit 8 (value ^^^ byte.toUInt32)

def crc32 (bytes : Bytes) : UInt32 := ~~~ bytes.foldl feed 0xFFFFFFFF

end ClassRename.Checksum
