/-!
# Fingerprints of byte strings

The 64-bit FNV-1a fingerprint takes in one byte at a time: the byte is added to the
low end without carry, and the result is multiplied by a fixed odd number modulo
2^64.
-/

set_option autoImplicit false

namespace PrintPlanner.Fingerprint

/-- The fingerprint of no bytes. -/
def start : UInt64 := 0xcbf29ce484222325

/-- The multiplier. -/
def factor : UInt64 := 0x100000001b3

/-- The fingerprint after one more byte. -/
def step (state : UInt64) (byte : UInt8) : UInt64 := (state ^^^ byte.toUInt64) * factor

/-- The fingerprint of a byte string. -/
def ofBytes (bytes : List UInt8) : UInt64 := bytes.foldl step start

/-- The four bytes of a word, the lowest first. -/
def bytes32 (word : UInt32) : List UInt8 :=
  [word.toUInt8, (word >>> 8).toUInt8, (word >>> 16).toUInt8, (word >>> 24).toUInt8]

/-- The eight bytes of a long word, the lowest first. -/
def bytes64 (word : UInt64) : List UInt8 :=
  [word.toUInt8, (word >>> 8).toUInt8, (word >>> 16).toUInt8, (word >>> 24).toUInt8,
    (word >>> 32).toUInt8, (word >>> 40).toUInt8, (word >>> 48).toUInt8, (word >>> 56).toUInt8]

end PrintPlanner.Fingerprint
