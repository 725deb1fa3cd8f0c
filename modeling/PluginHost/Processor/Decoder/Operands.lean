import PluginHost.Processor.Instruction
import PluginHost.Bytes

/-!
# Reading operands

The bytes before the code of an instruction change what it means; the bytes after it say on what it
works. A reader takes bytes from the front, and gives up when there are none left.
-/

namespace PluginHost.Processor.Decoder

abbrev Reader := StateT Bytes Option

namespace Reader

def byte : Reader UInt64 := do
  match ← get with
  | [] => failure
  | first :: rest =>
      set rest
      return first.toUInt64

/-- A value of a width, the lowest byte first. -/
def value (width : Width) : Reader UInt64 := do
  let bytes ← get
  if bytes.length < width.length then failure
  else
    set (bytes.drop width.length)
    return (bytes.number 0 width.length).toUInt64

/-- A value of a width with its sign. -/
def signed (width : Width) : Reader UInt64 := return width.signed (← value width)

end Reader

/-- What is said before the code of an instruction. -/
structure Setting where
  isShort : Bool
  isNarrow : Bool
  isOfThread : Bool
  repetition : Option Repetition
  /-- The byte that makes values long and leads to the upper eight registers. -/
  extension : Option UInt64
  deriving Repr

namespace Setting

def plain : Setting := ⟨false, false, false, none, none⟩

def extensionBit (setting : Setting) (place : UInt64) : Bool :=
  setting.extension.any fun extension => Arithmetic.bit extension place

def isLong (setting : Setting) : Bool := setting.extensionBit 3

/-- The width of most operands. -/
def width (setting : Setting) : Width :=
  if setting.isLong then .quad else if setting.isShort then .word else .double

/-- The width of what goes onto the stack. -/
def stackWidth (setting : Setting) : Width := if setting.isShort then .word else .quad

/-- The width of an operand whose code says by its lowest bit whether it is more than a byte. -/
def widthFor (setting : Setting) (code : UInt64) : Width :=
  if code &&& 1 = 0 then .byte else setting.width

/-- The width of an address, and of the counter that goes with it. -/
def addressWidth (setting : Setting) : Width := if setting.isNarrow then .double else .quad

/-- A register by its three bits and the one that the extension adds. -/
def register (setting : Setting) (bits place : UInt64) : Register :=
  .ofNat ((bits &&& 7).toNat + if setting.extensionBit place then 8 else 0)

/-- A register as an operand. Without the extension, four numbers stand for second bytes. -/
def operand (setting : Setting) (width : Width) (register : Register) : Operand :=
  if width = .byte && setting.extension.isNone && 4 ≤ register.val && register.val < 8 then
    .high (.ofNat (register.val - 4))
  else .register register

end Setting

/-- Bytes that may stand before the extension; the last of a kind counts. -/
def settingByte? (setting : Setting) : UInt64 → Option Setting
  | 0x66 => some { setting with isShort := true }
  | 0x67 => some { setting with isNarrow := true }
  | 0x64 => some { setting with isOfThread := true }
  | 0x65 => some { setting with isOfThread := false }
  | 0x26 | 0x2E | 0x36 | 0x3E | 0xF0 => some setting
  | 0xF2 => some { setting with repetition := some .whileDifferent }
  | 0xF3 => some { setting with repetition := some .whileEqual }
  | _ => none

/-- Read what stands before the code, and the first byte of it. Only an extension that is next to
the code counts. -/
def setting : Nat → Setting → Reader (Setting × UInt64)
  | 0, _ => failure
  | count + 1, before => do
      let code ← Reader.byte
      match settingByte? { before with extension := none } code with
      | some after => setting count after
      | none =>
          if code &&& 0xF0 = 0x40 then setting count { before with extension := some code }
          else return (before, code)

/-- What a byte after the code names: a register, or a place in memory. -/
inductive Target where
  | register (register : Register)
  | place (place : Place)

structure Operands where
  /-- The bits that name a register, or that go on with the code. -/
  digit : UInt64
  register : Register
  target : Target

namespace Target

def operand (setting : Setting) (width : Width) : Target → Operand
  | .register number => setting.operand width number
  | .place found => .memory found

def wide : Target → WideOperand
  | .register number => .register number
  | .place found => .memory found

end Target

/-- The place that a base register and a distance make. -/
def placeFrom (setting : Setting) (base : Option Register) (distance : UInt64) : Place :=
  { base, index := none, scale := 0, distance, isRelative := false
    isOfThread := setting.isOfThread, isNarrow := setting.isNarrow }

/-- Read the distance that goes with the two high bits of the byte after the code. -/
def distance (form : UInt64) : Reader UInt64 :=
  match form with
  | 1 => Reader.signed .byte
  | 2 => Reader.signed .double
  | _ => return 0

/-- Read a place with an index. -/
def indexedPlace (setting : Setting) (form : UInt64) : Reader Place := do
  let byte ← Reader.byte
  let base := setting.register byte 0
  let index := setting.register (byte >>> 3) 1
  let isBare := byte &&& 7 = 5 && form = 0
  let distance ← if isBare then Reader.signed .double else distance form
  return { placeFrom setting (if isBare then none else some base) distance with
    index := if index = Register.stack then none else some index
    scale := byte >>> 6 }

/-- Read the byte after the code, and what it asks for. -/
def operands (setting : Setting) : Reader Operands := do
  let byte ← Reader.byte
  let form := byte >>> 6
  let low := byte &&& 7
  let found := Operands.mk ((byte >>> 3) &&& 7) (setting.register (byte >>> 3) 2)
  if form = 3 then return found (.register (setting.register low 0))
  else if low = 4 then return found (.place (← indexedPlace setting form))
  else if low = 5 && form = 0 then
    let distance ← Reader.signed .double
    return found (.place { placeFrom setting none distance with isRelative := true })
  else return found (.place (placeFrom setting (some (setting.register low 0)) (← distance form)))

/-- Read a constant for operands of a width: no more than four bytes, with its sign. -/
def constant (width : Width) : Reader Operand :=
  return .constant (width.cut (← Reader.signed (if width = .quad then .double else width)))

/-- Read a constant of one byte, with its sign, for operands of a width. -/
def shortConstant (width : Width) : Reader Operand :=
  return .constant (width.cut (← Reader.signed .byte))

end PluginHost.Processor.Decoder
