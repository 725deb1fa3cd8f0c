import PluginHost.Processor.Decoder.Wide

/-!
# Reading instructions

An instruction from its bytes. What is no instruction, or one that only a system may use, cannot be
read.
-/

namespace PluginHost.Processor.Decoder

def combination (digit : UInt64) : Combination :=
  match digit.toNat with
  | 0 => .add
  | 1 => .or
  | 2 => .addCarry
  | 3 => .subBorrow
  | 4 => .and
  | 5 => .sub
  | 6 => .xor
  | _ => .compare

def shiftOf (digit : UInt64) : Shift :=
  match digit.toNat with
  | 0 => .rotateLeft
  | 1 => .rotateRight
  | 2 => .rotateCarryLeft
  | 3 => .rotateCarryRight
  | 5 => .right
  | 7 => .signed
  | _ => .left

def bitAction (digit : UInt64) : BitAction :=
  match (digit &&& 3).toNat with
  | 0 => .keep
  | 1 => .set
  | 2 => .reset
  | _ => .flip

/-- The condition in the low four bits of a code. -/
def condition (code : UInt64) : Condition := .ofNat code.toNat

/-- The low three bits of a code, as a register. -/
def codeRegister (setting : Setting) (code : UInt64) : Register := setting.register code 0

/-- The accumulator as an operand. -/
def accumulator : Operand := .register Register.accumulator

/-- Read a combination, whose code says its form in the low three bits. -/
def combinationCode (setting : Setting) (code : UInt64) : Reader Instruction := do
  let width := setting.widthFor code
  let operation := combination (code >>> 3)
  if code &&& 7 < 4 then
    let found ← operands setting
    let other := found.target.operand setting width
    let own := setting.operand width found.register
    if code &&& 2 = 0 then return .combine operation width other own
    else return .combine operation width own other
  else return .combine operation width accumulator (← constant width)

/-- Read a combination with a constant. -/
def combinationConstant (setting : Setting) (code : UInt64) : Reader Instruction := do
  let width := setting.widthFor code
  let found ← operands setting
  let value ← if code = 0x83 then shortConstant width else constant width
  return .combine (combination found.digit) width (found.target.operand setting width) value

/-- Read a shift, whose count is a constant, one, or in the counter. -/
def shiftCode (setting : Setting) (code : UInt64) : Reader Instruction := do
  let width := setting.widthFor code
  let found ← operands setting
  let count ←
    if code < 0xD0 then Operand.constant <$> Reader.byte
    else if code < 0xD2 then pure (Operand.constant 1)
    else pure (Operand.register Register.counter)
  return .shift (shiftOf found.digit) width (found.target.operand setting width) count

/-- Read an operation on one value. -/
def unaryCode (setting : Setting) (code : UInt64) : Reader Instruction := do
  let width := setting.widthFor code
  let found ← operands setting
  let operand := found.target.operand setting width
  match found.digit.toNat with
  | 0 | 1 => return .combine .test width operand (← constant width)
  | 2 => return .alter .complement width operand
  | 3 => return .alter .negate width operand
  | 4 => return .multiply false width operand
  | 5 => return .multiply true width operand
  | 6 => return .divide false width operand
  | _ => return .divide true width operand

/-- Read a step up or down, a jump, a call, or a push. -/
def stepCode (setting : Setting) (code : UInt64) : Reader Instruction := do
  let width := setting.widthFor code
  let found ← operands setting
  let operand := found.target.operand setting width
  let target := found.target.operand setting .quad
  match found.digit.toNat, code.toNat with
  | 0, _ => return .alter .increment width operand
  | 1, _ => return .alter .decrement width operand
  | 2, 0xFF => return .call target
  | 4, 0xFF => return .jump target
  | 6, 0xFF =>
      return .push setting.stackWidth (found.target.operand setting setting.stackWidth)
  | _, _ => failure

/-- Read a move between the accumulator and an address that is given whole. -/
def wholeAddress (setting : Setting) (code : UInt64) : Reader Instruction := do
  let width := setting.widthFor code
  let distance ← Reader.value setting.addressWidth
  let place := Operand.memory (placeFrom setting none distance)
  if code &&& 2 = 0 then return .move width accumulator place
  else return .move width place accumulator

/-- Read an instruction on strings. -/
def stringCode (setting : Setting) (code : UInt64) : Option Instruction :=
  let width := setting.widthFor code
  let operation? : Option StringOperation :=
    match (code &&& 0xFE).toNat with
    | 0xA4 => some .move
    | 0xA6 => some .compare
    | 0xAA => some .store
    | 0xAC => some .load
    | 0xAE => some .scan
    | _ => none
  operation?.map fun operation => .string operation setting.repetition width

def flagCode : Nat → Option FlagAction
  | 0x9E => some .storeLow
  | 0x9F => some .loadLow
  | 0xF5 => some .flipCarry
  | 0xF8 => some .clearCarry
  | 0xF9 => some .setCarry
  | 0xFC => some .clearDirection
  | 0xFD => some .setDirection
  | _ => none

/-- Read the operands of a move, an exchange or a test between a register and another operand. -/
def pairCode (setting : Setting) (code : UInt64) : Reader Instruction := do
  let width := setting.widthFor code
  let found ← operands setting
  let other := found.target.operand setting width
  let own := setting.operand width found.register
  match (code &&& 0xFE).toNat with
  | 0x84 => return .combine .test width other own
  | 0x86 => return .exchange width other own
  | 0x88 => return .move width other own
  | _ => return .move width own other

/-- Read an instruction whose code is one byte and names no operand in its low bits. -/
def singleCode (setting : Setting) (code : UInt64) : Reader Instruction := do
  let width := setting.width
  match code.toNat with
  | 0x63 =>
      let found ← operands setting
      return .extend true .double width found.register (found.target.operand setting .double)
  | 0x68 => return .push setting.stackWidth (.constant (← Reader.signed
      (if setting.isShort then .word else .double)))
  | 0x6A => return .push setting.stackWidth (.constant (← Reader.signed .byte))
  | 0x69 | 0x6B =>
      let found ← operands setting
      let value ← if code = 0x6B then shortConstant width else constant width
      return .multiplyInto width found.register (found.target.operand setting width) value
  | 0x80 | 0x81 | 0x83 => combinationConstant setting code
  | 0x84 | 0x85 | 0x86 | 0x87 | 0x88 | 0x89 | 0x8A | 0x8B => pairCode setting code
  | 0x8D =>
      let found ← operands setting
      match found.target with
      | .place place => return .address width found.register { place with isOfThread := false }
      | .register _ => failure
  | 0x8F =>
      let found ← operands setting
      return .pop setting.stackWidth (found.target.operand setting setting.stackWidth)
  | 0x98 => return .widen width
  | 0x99 => return .spreadSign width
  | 0x9B => return .nothing
  | 0x9C => return .pushFlags
  | 0x9D => return .popFlags
  | 0xA0 | 0xA1 | 0xA2 | 0xA3 => wholeAddress setting code
  | 0xA8 | 0xA9 =>
      let width := setting.widthFor code
      return .combine .test width accumulator (← constant width)
  | 0xC0 | 0xC1 | 0xD0 | 0xD1 | 0xD2 | 0xD3 => shiftCode setting code
  | 0xC2 => return .giveBack (← Reader.value .word)
  | 0xC3 => return .giveBack 0
  | 0xC6 | 0xC7 =>
      let width := setting.widthFor code
      let found ← operands setting
      return .move width (found.target.operand setting width) (← constant width)
  | 0xC8 =>
      let length ← Reader.value .word
      let depth ← Reader.byte
      if depth = 0 then return .enter length else failure
  | 0xC9 => return .leave
  | 0xCC | 0xF1 | 0xF4 => return .stop
  | 0xD7 => return .translate
  | 0xE0 => return .loop (some false) setting.addressWidth (← Reader.signed .byte)
  | 0xE1 => return .loop (some true) setting.addressWidth (← Reader.signed .byte)
  | 0xE2 => return .loop none setting.addressWidth (← Reader.signed .byte)
  | 0xE3 => return .jumpIfNone setting.addressWidth (← Reader.signed .byte)
  | 0xE8 => return .callBy (← Reader.signed .double)
  | 0xE9 => return .jumpBy (← Reader.signed .double)
  | 0xEB => return .jumpBy (← Reader.signed .byte)
  | 0xF6 | 0xF7 => unaryCode setting code
  | 0xFE | 0xFF => stepCode setting code
  | _ =>
      match stringCode setting code, flagCode code.toNat with
      | some instruction, _ => return instruction
      | none, some action => return .flag action
      | none, none => failure

/-- Read the move of a constant to a register. -/
def constantMove (setting : Setting) (code : UInt64) : Reader Instruction := do
  let width : Width := if code < 0xB8 then .byte else setting.width
  return .move width (setting.operand width (codeRegister setting code))
    (.constant (← Reader.value width))

/-- Read an instruction whose code is one byte. -/
def plainInstruction (setting : Setting) (code : UInt64) : Reader Instruction := do
  let register := codeRegister setting code
  if code < 0x40 && code &&& 7 < 6 then combinationCode setting code
  else if code &&& 0xF8 = 0x50 then return .push setting.stackWidth (.register register)
  else if code &&& 0xF8 = 0x58 then return .pop setting.stackWidth (.register register)
  else if code &&& 0xF0 = 0x70 then return .jumpIf (condition code) (← Reader.signed .byte)
  else if code &&& 0xF8 = 0x90 then
    if register = Register.accumulator then return .nothing
    else return .exchange setting.width accumulator (.register register)
  else if code &&& 0xF0 = 0xB0 then constantMove setting code
  else singleCode setting code

/-- Read a bit instruction whose place is in a register. -/
def bitCode (setting : Setting) (code : UInt64) : Reader Instruction := do
  let found ← operands setting
  return .bit (bitAction (code >>> 3)) setting.width (found.target.operand setting setting.width)
    (.register found.register)

/-- Read a bit instruction whose place is a constant. -/
def bitConstant (setting : Setting) : Reader Instruction := do
  let found ← operands setting
  let place ← Reader.byte
  let place := place &&& (setting.width.bits - 1)
  if found.digit < 4 then failure
  return .bit (bitAction found.digit) setting.width (found.target.operand setting setting.width)
    (.constant place)

/-- Read a shift from another register. -/
def shiftFromCode (setting : Setting) (code : UInt64) : Reader Instruction := do
  let found ← operands setting
  let count ←
    if code &&& 1 = 0 then Operand.constant <$> Reader.byte
    else pure (Operand.register Register.counter)
  return .shiftFrom (code < 0xA8) setting.width (found.target.operand setting setting.width)
    found.register count

/-- Read a search among bits. -/
def searchCode (setting : Setting) (code : UInt64) : Reader Instruction := do
  let found ← operands setting
  let isRepeated := setting.repetition = some .whileEqual
  let what : BitSearch :=
    if code = 0xB8 then .count
    else if code = 0xBC then if isRepeated then .trailingZeros else .lowest
    else if isRepeated then .leadingZeros else .highest
  if code = 0xB8 && !isRepeated then failure
  return .search what setting.width found.register (found.target.operand setting setting.width)

/-- Read a move of a byte or a word to a longer register. -/
def extendCode (setting : Setting) (code : UInt64) : Reader Instruction := do
  let narrow : Width := if code &&& 1 = 0 then .byte else .word
  let found ← operands setting
  return .extend (0xB8 ≤ code) narrow setting.width found.register
    (found.target.operand setting narrow)

/-- Read an exchange with memory that adds or compares. -/
def exchangeCode (setting : Setting) (code : UInt64) : Reader Instruction := do
  let width := setting.widthFor code
  let found ← operands setting
  let target := found.target.operand setting width
  if code < 0xC0 then return .compareExchange width target found.register
  else return .exchangeAdd width target found.register

/-- Read an exchange with a pair of values in memory. -/
def exchangePair (setting : Setting) : Reader Instruction := do
  let found ← operands setting
  match found.digit.toNat, found.target with
  | 1, .place place =>
      return .compareExchangePair (if setting.isLong then .quad else .double) place
  | _, _ => failure

/-- What says how numbers with a point are rounded and what raises an alarm, as it is at first. -/
def firstControl : UInt64 := 0x1F80

/-- Codes of fences, and of what says how numbers with a point are rounded, which stays as it is. -/
def fenceCode (setting : Setting) : Reader Instruction := do
  let found ← operands setting
  match found.digit.toNat, found.target with
  | 2, .place _ => return .nothing
  | 3, .place place => return .move .double (.memory place) (.constant firstControl)
  | digit, _ => if digit < 5 then failure else return .nothing

/-- Read an instruction after `0x0F` and its code. -/
def longInstruction (setting : Setting) (code : UInt64) : Reader Instruction := do
  let register := codeRegister setting code
  if code &&& 0xF0 = 0x40 then
    let found ← operands setting
    return .moveIf (condition code) setting.width found.register
      (found.target.operand setting setting.width)
  else if code &&& 0xF0 = 0x80 then return .jumpIf (condition code) (← Reader.signed .double)
  else if code &&& 0xF0 = 0x90 then
    let found ← operands setting
    return .setIf (condition code) (found.target.operand setting .byte)
  else if code &&& 0xF8 = 0xC8 then
    return .swapBytes (if setting.isLong then .quad else .double) register
  else if code &&& 0xF8 = 0x18 || code = 0x0D then
    let _ ← operands setting
    return .nothing
  else
    match code.toNat with
    | 0x05 => return .systemCall
    | 0x0B => return .stop
    | 0x38 => laterInstruction setting (← Reader.byte).toNat
    | 0x3A => lastInstruction setting (← Reader.byte).toNat
    | 0xA3 | 0xAB | 0xB3 | 0xBB => bitCode setting code
    | 0xA4 | 0xA5 | 0xAC | 0xAD => shiftFromCode setting code
    | 0xAE => fenceCode setting
    | 0xAF =>
        let found ← operands setting
        return .multiplyInto setting.width found.register (.register found.register)
          (found.target.operand setting setting.width)
    | 0xB0 | 0xB1 | 0xC0 | 0xC1 => exchangeCode setting code
    | 0xB6 | 0xB7 | 0xBE | 0xBF => extendCode setting code
    | 0xB8 | 0xBC | 0xBD => searchCode setting code
    | 0xBA => bitConstant setting
    | 0xC7 => exchangePair setting
    | 0xC3 =>
        let found ← operands setting
        return .move setting.width (found.target.operand setting setting.width)
          (.register found.register)
    | other => wideInstruction setting other

/-- No instruction has more bytes. -/
def longest : Nat := 15

/-- Read an instruction. -/
def instruction : Reader Instruction := do
  let (setting, code) ← setting longest .plain
  if code = 0x0F then longInstruction setting (← Reader.byte)
  else plainInstruction setting code

/-- The instruction at the start of some bytes, and its length. -/
def decode? (bytes : Bytes) : Option (Instruction × Nat) :=
  match instruction.run (bytes.take longest) with
  | none => none
  | some (found, rest) => some (found, min longest bytes.length - rest.length)

end PluginHost.Processor.Decoder
