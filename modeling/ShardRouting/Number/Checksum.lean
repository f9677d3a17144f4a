/-! The 32-bit cyclic redundancy check with the reflected polynomial 0xEDB88320, as ZIP and Ethernet use it. -/

namespace ShardRouting
namespace Number

/-- Shifts one bit out of the register; a set bit brings the polynomial in. -/
def crcBit (crc : UInt32) : UInt32 :=
  if crc &&& 1 = 1 then (crc >>> 1) ^^^ 0xEDB88320 else crc >>> 1

def crcByte (crc : UInt32) (byte : UInt8) : UInt32 :=
  Nat.repeat crcBit 8 (crc ^^^ byte.toUInt32)

/-- The checksum of some bytes. -/
def crc32 (bytes : List UInt8) : UInt32 := bytes.foldl crcByte 0xFFFFFFFF ^^^ 0xFFFFFFFF

end Number
end ShardRouting
