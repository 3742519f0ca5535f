/-!
# Checksums

The 64-bit FNV-1a checksum of bytes.
-/

namespace ShaderFilm.Device

/-- The checksum of no bytes. -/
def checksumStart : UInt64 := 0xcbf29ce484222325

/-- The checksum with one more byte. -/
def checksumStep (sum : UInt64) (b : UInt8) : UInt64 := (sum ^^^ b.toUInt64) * 0x100000001b3

/-- The checksum of bytes. -/
def checksum (bytes : List UInt8) : UInt64 := bytes.foldl checksumStep checksumStart

end ShaderFilm.Device
