import PluginHost.Processor.Width

/-!
# Registers

The registers of a processor: sixteen for words, sixteen for wide values of sixteen bytes, the flags
that instructions leave for later ones, and the address of the next instruction.
-/

namespace PluginHost.Processor

abbrev Register := Fin 16

namespace Register

def ofNat (number : Nat) : Register := Fin.ofNat 16 number

def accumulator : Register := 0

def counter : Register := 1

def data : Register := 2

def base : Register := 3

def stack : Register := 4

def frame : Register := 5

def source : Register := 6

def destination : Register := 7

/-- The registers in which a function finds what it is called with. -/
def arguments : List Register := [destination, source, data, counter, 8, 9]

end Register

structure Flags where
  carry : Bool
  parity : Bool
  adjust : Bool
  zero : Bool
  sign : Bool
  /-- Whether instructions on strings go down. -/
  direction : Bool
  overflow : Bool
  deriving DecidableEq, Repr

namespace Flags

def clear : Flags := ⟨false, false, false, false, false, false, false⟩

/-- Whether the low byte of a value has an even number of bits that are set. -/
def isEven (value : UInt64) : Bool :=
  let value := value ^^^ (value >>> 4)
  let value := value ^^^ (value >>> 2)
  (value ^^^ (value >>> 1)) &&& 1 = 0

/-- The flags that depend on the result alone. -/
def ofResult (flags : Flags) (width : Width) (result : UInt64) : Flags :=
  { flags with zero := result = 0, sign := width.isNegative result, parity := isEven result }

/-- The place of each flag in a word of them. -/
def places : List (UInt64 × (Flags → Bool)) :=
  [(0x001, carry), (0x004, parity), (0x010, adjust), (0x040, zero), (0x080, sign),
    (0x400, direction), (0x800, overflow)]

/-- What is always set in a word of flags. -/
def alwaysSet : UInt64 := 0x202

def toWord (flags : Flags) : UInt64 :=
  places.foldl (fun word place => if place.2 flags then word ||| place.1 else word) alwaysSet

def ofWord (word : UInt64) : Flags where
  carry := word &&& 0x001 ≠ 0
  parity := word &&& 0x004 ≠ 0
  adjust := word &&& 0x010 ≠ 0
  zero := word &&& 0x040 ≠ 0
  sign := word &&& 0x080 ≠ 0
  direction := word &&& 0x400 ≠ 0
  overflow := word &&& 0x800 ≠ 0

end Flags

/-- A condition on flags by its number; odd numbers deny the even ones before them. -/
abbrev Condition := Fin 16

namespace Condition

def ofNat (number : Nat) : Condition := Fin.ofNat 16 number

def holds (condition : Condition) (flags : Flags) : Bool :=
  let bare := match condition.val / 2 with
    | 0 => flags.overflow
    | 1 => flags.carry
    | 2 => flags.zero
    | 3 => flags.carry || flags.zero
    | 4 => flags.sign
    | 5 => flags.parity
    | 6 => flags.sign != flags.overflow
    | _ => flags.zero || flags.sign != flags.overflow
  if condition.val % 2 = 1 then !bare else bare

end Condition

/-- A value of sixteen bytes. -/
abbrev Wide := BitVec 128

structure Registers where
  words : Vector UInt64 16
  wides : Vector Wide 16
  flags : Flags
  /-- The address of the next instruction. -/
  next : UInt64
  /-- Where a thread has what it does not share. -/
  thread : UInt64

namespace Registers

def initial : Registers :=
  ⟨Vector.replicate 16 0, Vector.replicate 16 0, .clear, 0, 0⟩

def get (registers : Registers) (register : Register) : UInt64 := registers.words[register]

def set (registers : Registers) (register : Register) (value : UInt64) : Registers :=
  { registers with words := registers.words.set register value }

def wide (registers : Registers) (register : Register) : Wide := registers.wides[register]

def setWide (registers : Registers) (register : Register) (value : Wide) : Registers :=
  { registers with wides := registers.wides.set register value }

/-- Put a value into the low bits of a register. Four bytes clear the bits above them; fewer leave
them alone. -/
def put (registers : Registers) (width : Width) (register : Register) (value : UInt64) :
    Registers :=
  match width with
  | .quad => registers.set register value
  | .double => registers.set register (width.cut value)
  | _ => registers.set register ((registers.get register &&& ~~~width.mask) ||| width.cut value)

/-- The second byte of a register. -/
def getHigh (registers : Registers) (register : Register) : UInt64 :=
  (registers.get register >>> 8) &&& 0xFF

def putHigh (registers : Registers) (register : Register) (value : UInt64) : Registers :=
  let kept : UInt64 := registers.get register &&& 0xFFFFFFFFFFFF00FF
  registers.set register (kept ||| (Width.byte.cut value <<< 8))

end Registers

end PluginHost.Processor
