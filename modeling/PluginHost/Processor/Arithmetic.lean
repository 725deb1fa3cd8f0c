import PluginHost.Processor.Registers

/-!
# Arithmetic

What instructions compute from values of one width, and the flags that they leave.
-/

namespace PluginHost.Processor

/-- A result with the flags that go with it. -/
structure Computed where
  result : UInt64
  flags : Flags

namespace Arithmetic

def carryWord (carry : Bool) : UInt64 := if carry then 1 else 0

/-- The sum of two values and a carry. -/
def add (width : Width) (flags : Flags) (carry : Bool) (first second : UInt64) : Computed :=
  let result := width.cut (first + second + carryWord carry)
  ⟨result,
    { flags.ofResult width result with
      carry := if carry then result ≤ first else result < first
      adjust := (first ^^^ second ^^^ result) &&& 0x10 ≠ 0
      overflow := width.isNegative ((first ^^^ result) &&& (second ^^^ result)) }⟩

/-- The first value less the second and a borrow. -/
def sub (width : Width) (flags : Flags) (borrow : Bool) (first second : UInt64) : Computed :=
  let result := width.cut (first - second - carryWord borrow)
  ⟨result,
    { flags.ofResult width result with
      carry := if borrow then first ≤ second else first < second
      adjust := (first ^^^ second ^^^ result) &&& 0x10 ≠ 0
      overflow := width.isNegative ((first ^^^ second) &&& (first ^^^ result)) }⟩

/-- The flags of a result that was found bit by bit. -/
def logical (width : Width) (flags : Flags) (result : UInt64) : Computed :=
  ⟨result,
    { flags.ofResult width result with carry := false, adjust := false, overflow := false }⟩

/-- Adding or taking away one leaves the carry alone. -/
def keepingCarry (flags : Flags) (computed : Computed) : Computed :=
  { computed with flags := { computed.flags with carry := flags.carry } }

/-- How far a value is shifted. -/
def distance (width : Width) (count : UInt64) : UInt64 :=
  if width = .quad then count &&& 63 else count &&& 31

/-- The bit of a value at a place; there are none from the sixty-fourth on. -/
def bit (value place : UInt64) : Bool := place < 64 && (value >>> place) &&& 1 = 1

def shiftLeft (width : Width) (flags : Flags) (value count : UInt64) : Computed :=
  let result := width.cut (value <<< count)
  let carry := count ≤ width.bits && bit value (width.bits - count)
  ⟨result,
    { flags.ofResult width result with carry, overflow := width.isNegative result != carry }⟩

def shiftRight (width : Width) (flags : Flags) (value count : UInt64) : Computed :=
  let result := value >>> count
  ⟨result,
    { flags.ofResult width result with
      carry := bit value (count - 1)
      overflow := width.isNegative value }⟩

/-- A shift that keeps the sign. -/
def shiftSigned (width : Width) (flags : Flags) (value count : UInt64) : Computed :=
  let value := width.signed value
  let result := width.cut (value.toInt64 >>> count.toInt64).toUInt64
  ⟨result,
    { flags.ofResult width result with
      carry := ((value.toInt64 >>> (count - 1).toInt64).toUInt64) &&& 1 = 1
      overflow := false }⟩

/-- The bits of a value, turned to the left. -/
def turned (width : Width) (value count : UInt64) : UInt64 :=
  let count := count % width.bits
  if count = 0 then value
  else width.cut ((value <<< count) ||| (value >>> (width.bits - count)))

def rotateLeft (width : Width) (flags : Flags) (value count : UInt64) : Computed :=
  let result := turned width value count
  let carry := result &&& 1 = 1
  ⟨result, { flags with carry, overflow := width.isNegative result != carry }⟩

def rotateRight (width : Width) (flags : Flags) (value count : UInt64) : Computed :=
  let result := turned width value (width.bits - count % width.bits)
  ⟨result,
    { flags with
      carry := width.isNegative result
      overflow := width.isNegative (result ^^^ (result <<< 1)) }⟩

/-- Turn a value to the left through the carry, one place at a time. -/
def rotateCarryLeft (width : Width) (flags : Flags) (value : UInt64) : Nat → Computed
  | 0 => ⟨value, { flags with overflow := width.isNegative value != flags.carry }⟩
  | count + 1 =>
      let next := width.cut ((value <<< 1) ||| carryWord flags.carry)
      rotateCarryLeft width { flags with carry := width.isNegative value } next count

def rotateCarryRight (width : Width) (flags : Flags) (value : UInt64) : Nat → Computed
  | 0 => ⟨value, { flags with overflow := width.isNegative (value ^^^ (value <<< 1)) }⟩
  | count + 1 =>
      let top := if flags.carry then width.signBit else 0
      rotateCarryRight width { flags with carry := value &&& 1 = 1 } ((value >>> 1) ||| top) count

/-- A value moved to the left, with the high bits of another one after it. -/
def shiftLeftFrom (width : Width) (flags : Flags) (value other count : UInt64) : Computed :=
  let result := width.cut ((value <<< count) ||| (other >>> (width.bits - count)))
  ⟨result,
    { flags.ofResult width result with
      carry := bit value (width.bits - count)
      overflow := width.isNegative (value ^^^ result) }⟩

/-- A value moved to the right, with the low bits of another one before it. -/
def shiftRightFrom (width : Width) (flags : Flags) (value other count : UInt64) : Computed :=
  let result := width.cut ((value >>> count) ||| (other <<< (width.bits - count)))
  ⟨result,
    { flags.ofResult width result with
      carry := bit value (count - 1)
      overflow := width.isNegative (value ^^^ result) }⟩

/-- The low and the high half of a product. -/
structure Product where
  low : UInt64
  high : UInt64
  /-- Whether the high half says more than the low one. -/
  isLong : Bool

/-- A number cut to a width. -/
def cutNat (width : Width) (number : Nat) : UInt64 := width.cut number.toUInt64

def multiply (width : Width) (first second : UInt64) : Product :=
  let product := first.toNat * second.toNat
  let high := cutNat width (product >>> width.bits.toNat)
  ⟨cutNat width product, high, high ≠ 0⟩

def multiplySigned (width : Width) (first second : UInt64) : Product :=
  let product := width.toInt first * width.toInt second
  let low := width.ofInt product
  ⟨low, width.ofInt (product >>> width.bits.toNat), width.toInt low ≠ product⟩

/-- A quotient and what is left over. -/
structure Quotient where
  quotient : UInt64
  rest : UInt64

/-- Divide a number of two halves. There is no quotient by zero, nor one that is too long. -/
def divide? (width : Width) (high low divisor : UInt64) : Option Quotient :=
  let dividend := (high.toNat <<< width.bits.toNat) + low.toNat
  let quotient := dividend / divisor.toNat
  if divisor = 0 || width.mask.toNat < quotient then none
  else some ⟨quotient.toUInt64, (dividend % divisor.toNat).toUInt64⟩

def divideSigned? (width : Width) (high low divisor : UInt64) : Option Quotient :=
  let dividend := width.toInt high * ((1 <<< width.bits.toNat : Nat) : Int) + low.toNat
  let quotient := dividend.tdiv (width.toInt divisor)
  if divisor = 0 || width.toInt (width.ofInt quotient) ≠ quotient then none
  else some ⟨width.ofInt quotient, width.ofInt (dividend.tmod (width.toInt divisor))⟩

/-- The place of the lowest bit that is set, from a place on. -/
def lowestBit (value : UInt64) : Nat → UInt64 → UInt64
  | 0, place => place
  | count + 1, place => if bit value place then place else lowestBit value count (place + 1)

/-- The place of the highest bit that is set, below a place. -/
def highestBit (value : UInt64) : Nat → UInt64
  | 0 => 0
  | count + 1 => if bit value count.toUInt64 then count.toUInt64 else highestBit value count

/-- The number of bits that are set, below a place. -/
def countBits (value : UInt64) : Nat → UInt64
  | 0 => 0
  | count + 1 => countBits value count + (if bit value count.toUInt64 then 1 else 0)

/-- The bytes of a value in the other order. -/
def swapBytes (width : Width) (value : UInt64) : UInt64 :=
  (List.range width.length).foldl
    (fun swapped index => (swapped <<< 8) ||| ((value >>> (index * 8).toUInt64) &&& 0xFF)) 0

end Arithmetic

end PluginHost.Processor
