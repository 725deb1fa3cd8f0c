/-!
# Bytes

Octet strings, the small letters of ASCII, strings that a NUL ends, and numbers in several bytes.
-/

namespace PluginHost

/-- Octets, first to last. -/
abbrev Bytes := List UInt8

namespace Bytes

@[match_pattern]
def lineFeed : UInt8 := 10

@[match_pattern]
def hyphen : UInt8 := 45

@[match_pattern]
def dot : UInt8 := 46

@[match_pattern]
def slash : UInt8 := 47

def colon : UInt8 := 58

def semicolon : UInt8 := 59

@[match_pattern]
def equals : UInt8 := 61

/-- The letters `A` to `Z` become small and every other byte stays. -/
def lowerByte (byte : UInt8) : UInt8 :=
  if 65 ≤ byte ∧ byte ≤ 90 then byte + 32 else byte

def lower (bytes : Bytes) : Bytes := bytes.map lowerByte

/-- The part before the first NUL. -/
def untilNul (bytes : Bytes) : Bytes := bytes.takeWhile (· != 0)

/-- The offset of the first NUL. -/
def firstNul? (bytes : Bytes) : Option Nat := bytes.findIdx? (· == 0)

/-- The number written in `count` bytes from `start` on, the lowest byte first. Bytes that are not
there count as zero. -/
def number (bytes : Bytes) (start count : Nat) : Nat :=
  ((bytes.drop start).take count).foldr (fun byte value => value * 0x100 + byte.toNat) 0

/-- A number in so many bytes, the lowest first. -/
def ofNumber : Nat → Nat → Bytes
  | 0, _ => []
  | count + 1, value => value.toUInt8 :: ofNumber count (value / 0x100)

end Bytes

end PluginHost
