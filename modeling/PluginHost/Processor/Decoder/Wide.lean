import PluginHost.Processor.Decoder.Operands

/-!
# Reading instructions on wide values

The codes of instructions that use the wide registers. What stands before the code chooses among up
to four instructions.
-/

namespace PluginHost.Processor.Decoder

/-- What stands before a code that has several meanings. -/
inductive Variant where
  | bare
  | short
  | equal
  | different
  deriving DecidableEq, Repr

def Setting.variant (setting : Setting) : Variant :=
  match setting.repetition with
  | some .whileEqual => .equal
  | some _ => .different
  | none => if setting.isShort then .short else .bare

namespace Variant

/-- The lanes on which a variant works. -/
def lanes : Variant → PointLanes
  | bare => ⟨.double, true⟩
  | short => ⟨.quad, true⟩
  | equal => ⟨.double, false⟩
  | different => ⟨.quad, false⟩

end Variant

/-- Moves between wide registers and memory that may stand anywhere, or one lane. -/
def wideMove (variant : Variant) (isStore : Bool) (found : Operands) : Instruction :=
  let width := variant.lanes.width
  if variant.lanes.areAll then
    if isStore then .wideStore false found.target.wide found.register
    else .wideLoad false found.register found.target.wide
  else
    match found.target, isStore with
    | .register other, false => .laneCopy width 0 false found.register 0 other
    | .register other, true => .laneCopy width 0 false other 0 found.register
    | .place place, false => .laneLoad width 0 true found.register place
    | .place place, true => .laneStore width 0 place found.register

/-- Moves of one half: from memory, or from the other half of another register. -/
def halfMove (lane : Nat) (found : Operands) : Instruction :=
  match found.target with
  | .register other => .laneCopy .quad lane false found.register (1 - lane) other
  | .place place => .laneLoad .quad lane false found.register place

/-- Operations on whole numbers that a code stands for after `0x66`. -/
def wideCombination? : Nat → Option WideCombination
  | 0x60 => some (.interleaveLow .byte)
  | 0x61 => some (.interleaveLow .word)
  | 0x62 => some (.interleaveLow .double)
  | 0x63 => some (.pack true .word)
  | 0x64 => some (.greater .byte)
  | 0x65 => some (.greater .word)
  | 0x66 => some (.greater .double)
  | 0x67 => some (.pack false .word)
  | 0x68 => some (.interleaveHigh .byte)
  | 0x69 => some (.interleaveHigh .word)
  | 0x6A => some (.interleaveHigh .double)
  | 0x6B => some (.pack true .double)
  | 0x6C => some (.interleaveLow .quad)
  | 0x6D => some (.interleaveHigh .quad)
  | 0x74 => some (.equal .byte)
  | 0x75 => some (.equal .word)
  | 0x76 => some (.equal .double)
  | 0xD1 => some (.shiftRight .word)
  | 0xD2 => some (.shiftRight .double)
  | 0xD3 => some (.shiftRight .quad)
  | 0xD4 => some (.add .quad)
  | 0xD5 => some (.multiplyLow .word)
  | 0xD8 => some (.subWithin false .byte)
  | 0xD9 => some (.subWithin false .word)
  | 0xDA => some (.least false .byte)
  | 0xDB => some .and
  | 0xDC => some (.addWithin false .byte)
  | 0xDD => some (.addWithin false .word)
  | 0xDE => some (.greatest false .byte)
  | 0xDF => some .andNot
  | 0xE0 => some (.average .byte)
  | 0xE1 => some (.shiftSigned .word)
  | 0xE2 => some (.shiftSigned .double)
  | 0xE3 => some (.average .word)
  | 0xE4 => some (.multiplyHigh false)
  | 0xE5 => some (.multiplyHigh true)
  | 0xE8 => some (.subWithin true .byte)
  | 0xE9 => some (.subWithin true .word)
  | 0xEA => some (.least true .word)
  | 0xEB => some .or
  | 0xEC => some (.addWithin true .byte)
  | 0xED => some (.addWithin true .word)
  | 0xEE => some (.greatest true .word)
  | 0xEF => some .xor
  | 0xF1 => some (.shiftLeft .word)
  | 0xF2 => some (.shiftLeft .double)
  | 0xF3 => some (.shiftLeft .quad)
  | 0xF4 => some (.multiplyEven false)
  | 0xF5 => some .multiplyAdd
  | 0xF6 => some .sumDistances
  | 0xF8 => some (.sub .byte)
  | 0xF9 => some (.sub .word)
  | 0xFA => some (.sub .double)
  | 0xFB => some (.sub .quad)
  | 0xFC => some (.add .byte)
  | 0xFD => some (.add .word)
  | 0xFE => some (.add .double)
  | _ => none

/-- The same for codes after `0x0F 0x38`. -/
def laterCombination? : Nat → Option WideCombination
  | 0x00 => some .shuffleBytes
  | 0x01 => some (.addPairs .word)
  | 0x02 => some (.addPairs .double)
  | 0x03 => some .addPairsWithin
  | 0x04 => some .multiplyAddBytes
  | 0x05 => some (.subPairs .word)
  | 0x06 => some (.subPairs .double)
  | 0x07 => some .subPairsWithin
  | 0x08 => some (.signAs .byte)
  | 0x09 => some (.signAs .word)
  | 0x0A => some (.signAs .double)
  | 0x0B => some .multiplyRounded
  | 0x1C => some (.magnitude .byte)
  | 0x1D => some (.magnitude .word)
  | 0x1E => some (.magnitude .double)
  | 0x28 => some (.multiplyEven true)
  | 0x29 => some (.equal .quad)
  | 0x2B => some (.pack false .double)
  | 0x37 => some (.greater .quad)
  | 0x38 => some (.least true .byte)
  | 0x39 => some (.least true .double)
  | 0x3A => some (.least false .word)
  | 0x3B => some (.least false .double)
  | 0x3C => some (.greatest true .byte)
  | 0x3D => some (.greatest true .double)
  | 0x3E => some (.greatest false .word)
  | 0x3F => some (.greatest false .double)
  | 0x40 => some (.multiplyLow .double)
  | _ => none

/-- The widths between which a code after `0x0F 0x38` makes lanes longer. -/
def extension? (code : Nat) : Option (Width × Width) :=
  match code &&& 0xF with
  | 0 => some (.byte, .word)
  | 1 => some (.byte, .double)
  | 2 => some (.byte, .quad)
  | 3 => some (.word, .double)
  | 4 => some (.word, .quad)
  | 5 => some (.double, .quad)
  | _ => none

/-- Bitwise operations, by a code that is shared by both widths of numbers with a point. -/
def bitwise? : Nat → Option WideCombination
  | 0x54 => some .and
  | 0x55 => some .andNot
  | 0x56 => some .or
  | 0x57 => some .xor
  | _ => none

def pointOperation? : Nat → Option PointOperation
  | 0x51 => some .squareRoot
  | 0x58 => some .add
  | 0x59 => some .multiply
  | 0x5C => some .sub
  | 0x5D => some .least
  | 0x5E => some .divide
  | 0x5F => some .greatest
  | _ => none

/-- The shift by a constant that a code and the bits after it stand for. -/
def wideShift? (code : Nat) (digit : UInt64) : Option WideShift :=
  let width : Width := if code = 0x71 then .word else if code = 0x72 then .double else .quad
  match digit.toNat with
  | 2 => some (.right width)
  | 4 => if width = .quad then none else some (.signed width)
  | 6 => some (.left width)
  | 3 => if width = .quad then some .bytesRight else none
  | 7 => if width = .quad then some .bytesLeft else none
  | _ => none

/-- The width of a word register that is moved to a lane or from it. -/
def laneWidth (setting : Setting) : Width := if setting.isLong then .quad else .double

/-- Codes for moves of wide values. -/
def wideMoves (setting : Setting) (code : Nat) (found : Operands) : Option Instruction :=
  let wide := found.target.wide
  match code, setting.variant with
  | 0x10, variant => some (wideMove variant false found)
  | 0x11, variant => some (wideMove variant true found)
  | 0x12, .equal => some (.arrange .doubles found.register wide 0xA0)
  | 0x16, .equal => some (.arrange .doubles found.register wide 0xF5)
  | 0x12, .different => some (.spread .quad found.register wide)
  | 0x12, .bare | 0x12, .short => some (halfMove 0 found)
  | 0x16, .bare | 0x16, .short => some (halfMove 1 found)
  | 0x13, .bare | 0x13, .short | 0x17, .bare | 0x17, .short =>
      match found.target with
      | .place place => some (.laneStore .quad (if code = 0x13 then 0 else 1) place found.register)
      | .register _ => none
  | 0x28, .bare | 0x28, .short | 0x6F, .short => some (.wideLoad true found.register wide)
  | 0x29, .bare | 0x29, .short | 0x2B, .bare | 0x2B, .short | 0x7F, .short | 0xE7, .short =>
      some (.wideStore true wide found.register)
  | 0x6F, .equal | 0xF0, .different => some (.wideLoad false found.register wide)
  | 0x7F, .equal => some (.wideStore false wide found.register)
  | 0x6E, .short =>
      let width := laneWidth setting
      some (.laneFromWord width 0 true found.register (found.target.operand setting width))
  | 0x7E, .short =>
      let width := laneWidth setting
      some (.laneToWord width 0 (found.target.operand setting width) found.register)
  | 0x7E, .equal =>
      match found.target with
      | .register other => some (.laneCopy .quad 0 true found.register 0 other)
      | .place place => some (.laneLoad .quad 0 true found.register place)
  | 0xD6, .short =>
      match found.target with
      | .register other => some (.laneCopy .quad 0 true other 0 found.register)
      | .place place => some (.laneStore .quad 0 place found.register)
  | 0x50, .bare | 0x50, .short | 0xD7, .short =>
      match found.target with
      | .register other =>
          let width := if code = 0xD7 then .byte else setting.variant.lanes.width
          some (.signs width found.register other)
      | .place _ => none
  | _, _ => none

/-- Codes for operations that make all lanes into lanes of another form. -/
def conversion? (code : Nat) (variant : Variant) : Option (Bool × LaneForm × LaneForm) :=
  match code, variant with
  | 0x5A, .bare => some (false, .short, .long)
  | 0x5A, .short => some (false, .long, .short)
  | 0x5B, .bare => some (false, .whole, .short)
  | 0x5B, .short => some (false, .short, .whole)
  | 0x5B, .equal => some (true, .short, .whole)
  | 0xE6, .short => some (true, .long, .whole)
  | 0xE6, .different => some (false, .long, .whole)
  | 0xE6, .equal => some (false, .whole, .long)
  | _, _ => none

/-- Codes for operations that join neighbours, or that take turns. Their variants stand for other
widths than elsewhere. -/
def pairOperation? (code : Nat) (variant : Variant) (target : Register) (source : WideOperand) :
    Option Instruction :=
  let width? : Option Width :=
    match variant with
    | .short => some .quad
    | .different => some .double
    | _ => none
  width?.bind fun width =>
    match code with
    | 0x7C => some (.pointPairs .add width target source)
    | 0x7D => some (.pointPairs .sub width target source)
    | 0xD0 => some (.pointAlternate width target source)
    | _ => none

/-- Codes for operations on wide values that need nothing more. -/
def wideOperations (setting : Setting) (code : Nat) (found : Operands) : Option Instruction :=
  let wide := found.target.wide
  let variant := setting.variant
  let lanes := variant.lanes
  match code with
  | 0x14 =>
      if lanes.areAll then some (.wideCombine (.interleaveLow lanes.width) found.register wide)
      else none
  | 0x15 =>
      if lanes.areAll then some (.wideCombine (.interleaveHigh lanes.width) found.register wide)
      else none
  | 0x2A =>
      let width := laneWidth setting
      if lanes.areAll then none
      else some (.pointOfWord lanes.width width found.register (found.target.operand setting width))
  | 0x2C | 0x2D =>
      if lanes.areAll then none
      else some (.pointToWord (code = 0x2C) lanes.width (laneWidth setting) found.register wide)
  | 0x2E | 0x2F =>
      if lanes.areAll then some (.pointCompare lanes.width found.register wide) else none
  | 0x5A | 0x5B | 0xE6 =>
      match conversion? code variant with
      | some (isCut, source, target) => some (.pointConvert isCut source target found.register wide)
      | none => if code = 0x5A then some (.pointOfPoint lanes.width found.register wide) else none
  | 0x7C | 0x7D | 0xD0 => pairOperation? code variant found.register wide
  | _ =>
      match bitwise? code, pointOperation? code with
      | some operation, _ =>
          if lanes.areAll then some (.wideCombine operation found.register wide) else none
      | none, some operation => some (.point operation lanes found.register wide)
      | none, none =>
          if variant = .short then
            (wideCombination? code).map fun operation =>
              .wideCombine operation found.register wide
          else none

/-- Codes for operations that a constant byte follows. -/
def wideWithByte (setting : Setting) (code : Nat) (found : Operands) (byte : UInt64) :
    Option Instruction :=
  let wide := found.target.wide
  match code, setting.variant, found.target with
  | 0x70, .short, _ => some (.arrange .doubles found.register wide byte)
  | 0x70, .equal, _ => some (.arrange .highWords found.register wide byte)
  | 0x70, .different, _ => some (.arrange .lowWords found.register wide byte)
  | 0x71, .short, .register other | 0x72, .short, .register other | 0x73, .short, .register other =>
      (wideShift? code found.digit).map fun shift => .wideShift shift other byte
  | 0xC2, variant, _ => some (.pointSelect byte variant.lanes found.register wide)
  | 0xC4, .short, target =>
      let operand := target.operand setting .double
      let lane := (byte &&& 7).toNat
      match target with
      | .register _ => some (.laneFromWord .word lane false found.register operand)
      | .place place => some (.laneLoad .word lane false found.register place)
  | 0xC5, .short, .register other =>
      some (.laneToWord .word (byte &&& 7).toNat (.register found.register) other)
  | 0xC6, .bare, _ => some (.arrange .bothDoubles found.register wide byte)
  | 0xC6, .short, _ => some (.arrange .bothQuads found.register wide byte)
  | _, _, _ => none

/-- Whether a constant byte follows the operands of a code. -/
def hasByte (code : Nat) : Bool := [0x70, 0x71, 0x72, 0x73, 0xC2, 0xC4, 0xC5, 0xC6].contains code

/-- Read an instruction on wide values, after `0x0F` and its code. -/
def wideInstruction (setting : Setting) (code : Nat) : Reader Instruction := do
  let found ← operands setting
  if hasByte code then
    let byte ← Reader.byte
    match wideWithByte setting code found byte with
    | some instruction => return instruction
    | none => failure
  else
    match wideMoves setting code found, wideOperations setting code found with
    | some instruction, _ | none, some instruction => return instruction
    | none, none => failure

/-- Read an instruction after `0x0F 0x38` and its code. -/
def laterInstruction (setting : Setting) (code : Nat) : Reader Instruction := do
  let found ← operands setting
  match code, setting.variant, laterCombination? code with
  | 0x10, .short, _ => return .wideBlend .byte found.register found.target.wide
  | 0x14, .short, _ => return .wideBlend .double found.register found.target.wide
  | 0x15, .short, _ => return .wideBlend .quad found.register found.target.wide
  | 0x17, .short, _ => return .wideTest found.register found.target.wide
  | 0x2A, .short, _ => return .wideLoad true found.register found.target.wide
  | _, .short, some operation =>
      return .wideCombine operation found.register found.target.wide
  | 0xF0, .bare, _ | 0xF0, .short, _ =>
      return .moveSwapped setting.width (.register found.register)
        (found.target.operand setting setting.width)
  | 0xF1, .bare, _ | 0xF1, .short, _ =>
      return .moveSwapped setting.width (found.target.operand setting setting.width)
        (.register found.register)
  | _, .short, none =>
      match code &&& 0xF0, extension? code with
      | 0x20, some (narrow, width) =>
          return .wideExtend true narrow width found.register found.target.wide
      | 0x30, some (narrow, width) =>
          return .wideExtend false narrow width found.register found.target.wide
      | _, _ => failure
  | _, _, _ => failure

/-- Read an instruction after `0x0F 0x3A` and its code. -/
def lastInstruction (setting : Setting) (code : Nat) : Reader Instruction := do
  let found ← operands setting
  let byte ← Reader.byte
  let width := laneWidth setting
  if setting.variant ≠ .short then failure
  let wide := found.target.wide
  match code with
  | 0x08 => return .pointRound byte ⟨.double, true⟩ found.register wide
  | 0x09 => return .pointRound byte ⟨.quad, true⟩ found.register wide
  | 0x0A => return .pointRound byte ⟨.double, false⟩ found.register wide
  | 0x0B => return .pointRound byte ⟨.quad, false⟩ found.register wide
  | 0x0C => return .arrange (.blend .double) found.register wide byte
  | 0x0D => return .arrange (.blend .quad) found.register wide byte
  | 0x0E => return .arrange (.blend .word) found.register wide byte
  | 0x0F => return .arrange .bytesFrom found.register wide byte
  | 0x14 =>
      match found.target with
      | .register other =>
          return .laneToWord .byte (byte &&& 15).toNat (.register other) found.register
      | .place place => return .laneStore .byte (byte &&& 15).toNat place found.register
  | 0x15 =>
      match found.target with
      | .register other =>
          return .laneToWord .word (byte &&& 7).toNat (.register other) found.register
      | .place place => return .laneStore .word (byte &&& 7).toNat place found.register
  | 0x17 =>
      return .laneToWord .double (byte &&& 3).toNat (found.target.operand setting .double)
        found.register
  | 0x16 =>
      let lane := if width = .quad then byte &&& 1 else byte &&& 3
      return .laneToWord width lane.toNat (found.target.operand setting width) found.register
  | 0x20 =>
      match found.target with
      | .register other =>
          return .laneFromWord .byte (byte &&& 15).toNat false found.register (.register other)
      | .place place => return .laneLoad .byte (byte &&& 15).toNat false found.register place
  | 0x21 => return .insertDouble byte found.register wide
  | 0x22 =>
      let lane := if width = .quad then byte &&& 1 else byte &&& 3
      return .laneFromWord width lane.toNat false found.register
        (found.target.operand setting width)
  | _ => failure

end PluginHost.Processor.Decoder
