/-!
# Widths

Values of one, two, four or eight bytes, kept in the low bits of a word of eight bytes.
-/

namespace PluginHost.Processor

inductive Width where
  | byte
  | word
  | double
  | quad
  deriving DecidableEq, Repr

namespace Width

/-- The number of bytes. -/
def length : Width → Nat
  | byte => 1
  | word => 2
  | double => 4
  | quad => 8

/-- The number of bits. -/
def bits : Width → UInt64
  | byte => 8
  | word => 16
  | double => 32
  | quad => 64

/-- All bits of a value. -/
def mask : Width → UInt64
  | byte => 0xFF
  | word => 0xFFFF
  | double => 0xFFFFFFFF
  | quad => 0xFFFFFFFFFFFFFFFF

/-- The highest bit of a value, which is its sign. -/
def signBit : Width → UInt64
  | byte => 0x80
  | word => 0x8000
  | double => 0x80000000
  | quad => 0x8000000000000000

/-- The bits of a word that belong to the value. -/
def cut (width : Width) (value : UInt64) : UInt64 := value &&& width.mask

def isNegative (width : Width) (value : UInt64) : Bool := value &&& width.signBit ≠ 0

/-- The value in eight bytes, with its sign in every bit above it. -/
def signed (width : Width) (value : UInt64) : UInt64 :=
  if width.isNegative value then value ||| ~~~width.mask else width.cut value

/-- The value as a number that may be negative. -/
def toInt (width : Width) (value : UInt64) : Int := (width.signed value).toInt64.toInt

/-- A number in the bits of a value. -/
def ofInt (width : Width) (number : Int) : UInt64 := width.cut (Int64.ofInt number).toUInt64

end Width

end PluginHost.Processor
