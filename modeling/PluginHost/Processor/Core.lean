import PluginHost.Processor.Instruction
import PluginHost.Processor.Memory

/-!
# Cores

A core is what an instruction changes: registers and memory. Operands are read from it and written
to it; where memory may not be used in that way there is no result.
-/

namespace PluginHost.Processor

structure Core where
  registers : Registers
  memory : Memory

namespace Core

def get (core : Core) (register : Register) : UInt64 := core.registers.get register

def set (core : Core) (register : Register) (value : UInt64) : Core :=
  { core with registers := core.registers.set register value }

def put (core : Core) (width : Width) (register : Register) (value : UInt64) : Core :=
  { core with registers := core.registers.put width register value }

def flags (core : Core) : Flags := core.registers.flags

def setFlags (core : Core) (flags : Flags) : Core :=
  { core with registers := { core.registers with flags } }

def next (core : Core) : UInt64 := core.registers.next

def goTo (core : Core) (address : UInt64) : Core :=
  { core with registers := { core.registers with next := address } }

def goBy (core : Core) (distance : UInt64) : Core := core.goTo (core.next + distance)

def addressOf (core : Core) (place : Place) : UInt64 :=
  let base := if place.isRelative then core.next else (place.base.map core.get).getD 0
  let index := (place.index.map core.get).getD 0 <<< place.scale
  let address := base + index + place.distance
  let address := if place.isNarrow then Width.double.cut address else address
  if place.isOfThread then address + core.registers.thread else address

def load? (core : Core) (width : Width) (address : UInt64) : Option UInt64 :=
  core.memory.load? width address

def store? (core : Core) (width : Width) (address value : UInt64) : Option Core :=
  let ⟨registers, memory⟩ := core
  match memory.store? width address value with
  | none => none
  | some memory => some ⟨registers, memory⟩

def read? (core : Core) (width : Width) : Operand → Option UInt64
  | .register register => some (width.cut (core.get register))
  | .high register => some (core.registers.getHigh register)
  | .memory place => core.load? width (core.addressOf place)
  | .constant value => some (width.cut value)

def write? (core : Core) (width : Width) (target : Operand) (value : UInt64) : Option Core :=
  match target with
  | .register register => some (core.put width register value)
  | .high register =>
      some { core with registers := core.registers.putHigh register value }
  | .memory place =>
      let address := core.addressOf place
      core.store? width address value
  | .constant _ => none

/-- Put a value onto the stack. -/
def push? (core : Core) (width : Width) (value : UInt64) : Option Core :=
  let top := core.get Register.stack - width.length.toUInt64
  (core.set Register.stack top).store? width top value

/-- Take the value off the stack. -/
def pop? (core : Core) (width : Width) : Option (UInt64 × Core) :=
  let top := core.get Register.stack
  match core.load? width top with
  | none => none
  | some value => some (value, core.set Register.stack (top + width.length.toUInt64))

/-! ## Wide values -/

def wide (core : Core) (register : Register) : Wide := core.registers.wide register

def setWide (core : Core) (register : Register) (value : Wide) : Core :=
  { core with registers := core.registers.setWide register value }

def loadWide? (core : Core) (address : UInt64) : Option Wide := do
  let low ← core.load? .quad address
  let high ← core.load? .quad (address + 8)
  return high.toBitVec ++ low.toBitVec

def storeWide? (core : Core) (address : UInt64) (value : Wide) : Option Core := do
  let core ← core.store? .quad address (.ofBitVec (value.extractLsb' 0 64))
  core.store? .quad (address + 8) (.ofBitVec (value.extractLsb' 64 64))

def readWide? (core : Core) : WideOperand → Option Wide
  | .register register => some (core.wide register)
  | .memory place => core.loadWide? (core.addressOf place)

end Core

end PluginHost.Processor
