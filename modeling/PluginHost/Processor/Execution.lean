import PluginHost.Processor.Core
import PluginHost.Processor.Point

/-!
# Executing instructions

What each instruction makes of a core whose next instruction is already the one after it. There is
no result if memory may not be used as asked, if a quotient does not exist, or if the instruction
stops the program.
-/

namespace PluginHost.Processor

namespace Core

/-- Leave a result in an operand, and its flags. -/
def finish? (core : Core) (width : Width) (target : Operand) (computed : Computed) : Option Core :=
  (core.write? width target computed.result).map (·.setFlags computed.flags)

def combined (operation : Combination) (width : Width) (flags : Flags) (first second : UInt64) :
    Computed :=
  match operation with
  | .add => Arithmetic.add width flags false first second
  | .addCarry => Arithmetic.add width flags flags.carry first second
  | .sub | .compare => Arithmetic.sub width flags false first second
  | .subBorrow => Arithmetic.sub width flags flags.carry first second
  | .or => Arithmetic.logical width flags (first ||| second)
  | .and | .test => Arithmetic.logical width flags (first &&& second)
  | .xor => Arithmetic.logical width flags (first ^^^ second)

def combine? (core : Core) (operation : Combination) (width : Width) (target source : Operand) :
    Option Core := do
  let first ← core.read? width target
  let second ← core.read? width source
  let computed := combined operation width core.flags first second
  match operation with
  | .compare | .test => return core.setFlags computed.flags
  | _ => core.finish? width target computed

def alter? (core : Core) (operation : Alteration) (width : Width) (target : Operand) :
    Option Core := do
  let value ← core.read? width target
  let flags := core.flags
  match operation with
  | .increment =>
      core.finish? width target
        (Arithmetic.keepingCarry flags (Arithmetic.add width flags false value 1))
  | .decrement =>
      core.finish? width target
        (Arithmetic.keepingCarry flags (Arithmetic.sub width flags false value 1))
  | .complement => core.write? width target (~~~value)
  | .negate => core.finish? width target (Arithmetic.sub width flags false 0 value)

def shifted (operation : Shift) (width : Width) (flags : Flags) (value count : UInt64) : Computed :=
  let turns := width.bits.toNat + 1
  match operation with
  | .rotateLeft => Arithmetic.rotateLeft width flags value count
  | .rotateRight => Arithmetic.rotateRight width flags value count
  | .rotateCarryLeft =>
      Arithmetic.rotateCarryLeft width flags value (count.toNat % turns)
  | .rotateCarryRight =>
      Arithmetic.rotateCarryRight width flags value (count.toNat % turns)
  | .left => Arithmetic.shiftLeft width flags value count
  | .right => Arithmetic.shiftRight width flags value count
  | .signed => Arithmetic.shiftSigned width flags value count

/-- A shift over no distance changes nothing, and leaves the flags alone. -/
def shift? (core : Core) (operation : Shift) (width : Width) (target count : Operand) :
    Option Core := do
  let value ← core.read? width target
  let count := Arithmetic.distance width (← core.read? .byte count)
  if count = 0 then core.write? width target value
  else core.finish? width target (shifted operation width core.flags value count)

def shiftFrom? (core : Core) (isLeft : Bool) (width : Width) (target : Operand)
    (source : Register) (count : Operand) : Option Core := do
  let value ← core.read? width target
  let other := width.cut (core.get source)
  let count := Arithmetic.distance width (← core.read? .byte count)
  if count = 0 then core.write? width target value
  else if isLeft then
    core.finish? width target (Arithmetic.shiftLeftFrom width core.flags value other count)
  else core.finish? width target (Arithmetic.shiftRightFrom width core.flags value other count)

/-- Set the flags that a product leaves. -/
def setLong (core : Core) (isLong : Bool) : Core :=
  core.setFlags { core.flags with carry := isLong, overflow := isLong }

/-- The low and the high half of the value that products and quotients go through. A byte has both
halves in the accumulator. -/
def halves (core : Core) (width : Width) : UInt64 × UInt64 :=
  if width = .byte then
    (width.cut (core.get Register.accumulator), core.registers.getHigh Register.accumulator)
  else (width.cut (core.get Register.accumulator), width.cut (core.get Register.data))

def putHalves (core : Core) (width : Width) (low high : UInt64) : Core :=
  if width = .byte then core.put .word Register.accumulator ((high <<< 8) ||| low)
  else (core.put width Register.accumulator low).put width Register.data high

def multiply? (core : Core) (signed : Bool) (width : Width) (source : Operand) : Option Core := do
  let first := (core.halves width).1
  let second ← core.read? width source
  let product :=
    if signed then Arithmetic.multiplySigned width first second
    else Arithmetic.multiply width first second
  return (core.putHalves width product.low product.high).setLong product.isLong

def multiplyInto? (core : Core) (width : Width) (target : Register) (first second : Operand) :
    Option Core := do
  let product := Arithmetic.multiplySigned width (← core.read? width first)
    (← core.read? width second)
  return (core.put width target product.low).setLong product.isLong

def divide? (core : Core) (signed : Bool) (width : Width) (source : Operand) : Option Core := do
  let divisor ← core.read? width source
  let (low, high) := core.halves width
  let found ←
    if signed then Arithmetic.divideSigned? width high low divisor
    else Arithmetic.divide? width high low divisor
  return core.putHalves width found.quotient found.rest

/-- The width of half the bytes. -/
def half : Width → Width
  | .quad => .double
  | .double => .word
  | _ => .byte

def exchange? (core : Core) (width : Width) (first second : Operand) : Option Core := do
  let one ← core.read? width first
  let other ← core.read? width second
  let core ← core.write? width first other
  core.write? width second one

def exchangeAdd? (core : Core) (width : Width) (target : Operand) (source : Register) :
    Option Core := do
  let before ← core.read? width target
  let computed := Arithmetic.add width core.flags false before (width.cut (core.get source))
  (core.put width source before).finish? width target computed

def compareExchange? (core : Core) (width : Width) (target : Operand) (source : Register) :
    Option Core := do
  let before ← core.read? width target
  let expected := width.cut (core.get Register.accumulator)
  let core := core.setFlags (Arithmetic.sub width core.flags false expected before).flags
  if before = expected then core.write? width target (core.get source)
  else return core.put width Register.accumulator before

/-- Compare a pair of values in memory with the data register and the accumulator. If they are equal
the counter and the base go to memory, and else what is there goes to the registers. A pair of the
longer kind stands at a multiple of sixteen. -/
def compareExchangePair? (core : Core) (width : Width) (place : Place) : Option Core := do
  let address := core.addressOf place
  if width = .quad && address &&& 15 ≠ 0 then failure
  let upper := address + width.length.toUInt64
  let low ← core.load? width address
  let high ← core.load? width upper
  let isEqual := low = width.cut (core.get Register.accumulator) &&
    high = width.cut (core.get Register.data)
  let core := core.setFlags { core.flags with zero := isEqual }
  if isEqual then
    let core ← core.store? width address (core.get Register.base)
    core.store? width upper (core.get Register.counter)
  else return (core.put width Register.accumulator low).put width Register.data high

/-- The operand that holds a bit, and the place of the bit in it. Bits of memory are counted from a
place on, over as many values as need be. -/
def bitOperand (core : Core) (width : Width) (target place : Operand) :
    Option (Operand × UInt64) := do
  let number ← core.read? width place
  match target with
  | .memory memory =>
      let distance := (width.toInt number).shiftRight 3
      let step : Int := width.length
      let moved := Int64.ofInt (Int.fdiv distance step * step)
      return (.memory { memory with distance := memory.distance + moved.toUInt64 },
        number &&& (width.bits - 1))
  | operand => return (operand, number &&& (width.bits - 1))

def bit? (core : Core) (action : BitAction) (width : Width) (target place : Operand) :
    Option Core := do
  let (operand, place) ← core.bitOperand width target place
  let value ← core.read? width operand
  let mask : UInt64 := 1 <<< place
  let core := core.setFlags { core.flags with carry := value &&& mask ≠ 0 }
  match action with
  | .keep => return core
  | .set => core.write? width operand (value ||| mask)
  | .reset => core.write? width operand (value &&& ~~~mask)
  | .flip => core.write? width operand (value ^^^ mask)

def search? (core : Core) (what : BitSearch) (width : Width) (target : Register)
    (source : Operand) : Option Core := do
  let value ← core.read? width source
  let bits := width.bits.toNat
  let flags := { core.flags with zero := value = 0 }
  match what with
  | .lowest =>
      let core := core.setFlags flags
      return if value = 0 then core else core.put width target (Arithmetic.lowestBit value bits 0)
  | .highest =>
      let core := core.setFlags flags
      return if value = 0 then core else core.put width target (Arithmetic.highestBit value bits)
  | .trailingZeros =>
      let count := if value = 0 then width.bits else Arithmetic.lowestBit value bits 0
      return (core.put width target count).setFlags
        { flags with carry := value = 0, zero := count = 0 }
  | .leadingZeros =>
      let count :=
        if value = 0 then width.bits else width.bits - 1 - Arithmetic.highestBit value bits
      return (core.put width target count).setFlags
        { flags with carry := value = 0, zero := count = 0 }
  | .count =>
      return (core.put width target (Arithmetic.countBits value bits)).setFlags
        { Flags.clear with zero := value = 0, direction := flags.direction }

/-! ## Strings -/

/-- How far a string instruction moves on. -/
def stride (core : Core) (width : Width) : UInt64 :=
  if core.flags.direction then -width.length.toUInt64 else width.length.toUInt64

def advance (core : Core) (width : Width) (register : Register) : Core :=
  core.set register (core.get register + core.stride width)

/-- One step of a string instruction. -/
def stringStep? (core : Core) (operation : StringOperation) (width : Width) : Option Core := do
  let source := core.get Register.source
  let destination := core.get Register.destination
  let value := width.cut (core.get Register.accumulator)
  match operation with
  | .move =>
      let core ← core.store? width destination (← core.load? width source)
      return (core.advance width Register.source).advance width Register.destination
  | .compare =>
      let first ← core.load? width source
      let second ← core.load? width destination
      let core := core.setFlags (Arithmetic.sub width core.flags false first second).flags
      return (core.advance width Register.source).advance width Register.destination
  | .store => return (← core.store? width destination value).advance width Register.destination
  | .load =>
      let value ← core.load? width source
      return (core.put width Register.accumulator value).advance width Register.source
  | .scan =>
      let other ← core.load? width destination
      let core := core.setFlags (Arithmetic.sub width core.flags false value other).flags
      return core.advance width Register.destination

/-- Whether a step compares, so that repetition may end after it. -/
def StringOperation.compares : StringOperation → Bool
  | .compare | .scan => true
  | _ => false

def endsAfter (core : Core) (operation : StringOperation) (repetition : Repetition) : Bool :=
  StringOperation.compares operation &&
    match repetition with
    | .once => true
    | .whileEqual => !core.flags.zero
    | .whileDifferent => core.flags.zero

/-- Repeat the steps of a string instruction as often as the counter says. -/
def stringSteps? (operation : StringOperation) (repetition : Repetition) (width : Width) :
    Nat → Core → Option Core
  | 0, core => some core
  | count + 1, core =>
      match core.stringStep? operation width with
      | none => none
      | some core =>
          let core := core.set Register.counter count.toUInt64
          if core.endsAfter operation repetition then some core
          else stringSteps? operation repetition width count core

def string? (core : Core) (operation : StringOperation) (repetition : Option Repetition)
    (width : Width) : Option Core :=
  match repetition with
  | none => core.stringStep? operation width
  | some repetition =>
      stringSteps? operation repetition width (core.get Register.counter).toNat core

/-! ## Jumps and the stack -/

def call? (core : Core) (target : UInt64) : Option Core :=
  (core.push? .quad core.next).map (·.goTo target)

def giveBack? (core : Core) (length : UInt64) : Option Core := do
  let (target, core) ← core.pop? .quad
  return (core.set Register.stack (core.get Register.stack + length)).goTo target

def loop (core : Core) (zero : Option Bool) (width : Width) (distance : UInt64) : Core :=
  let count := width.cut (core.get Register.counter - 1)
  let core := core.put width Register.counter count
  if count ≠ 0 && zero.all (· = core.flags.zero) then core.goBy distance else core

def leave? (core : Core) : Option Core := do
  let core := core.set Register.stack (core.get Register.frame)
  let (frame, core) ← core.pop? .quad
  return core.set Register.frame frame

def enter? (core : Core) (length : UInt64) : Option Core := do
  let core ← core.push? .quad (core.get Register.frame)
  let top := core.get Register.stack
  return (core.set Register.frame top).set Register.stack (top - length)

def act (core : Core) (action : FlagAction) : Core :=
  let flags := core.flags
  match action with
  | .clearCarry => core.setFlags { flags with carry := false }
  | .setCarry => core.setFlags { flags with carry := true }
  | .flipCarry => core.setFlags { flags with carry := !flags.carry }
  | .clearDirection => core.setFlags { flags with direction := false }
  | .setDirection => core.setFlags { flags with direction := true }
  | .loadLow =>
      { core with
        registers := core.registers.putHigh Register.accumulator (flags.toWord &&& 0xD7) }
  | .storeLow =>
      let low := Flags.ofWord (core.registers.getHigh Register.accumulator)
      core.setFlags { low with direction := flags.direction, overflow := flags.overflow }

/-! ## Wide values -/

/-- Wide values that are aligned stand at multiples of sixteen. -/
def isAligned (core : Core) : WideOperand → Bool
  | .register _ => true
  | .memory place => core.addressOf place &&& 15 = 0

/-- The bits of a number with a point, which need not be aligned in memory. -/
def readPoint? (core : Core) (width : Width) : WideOperand → Option UInt64
  | .register register => some ((core.wide register).lane width 0)
  | .memory place => core.load? width (core.addressOf place)

/-- A wide operand that is aligned. -/
def readAligned? (core : Core) (source : WideOperand) : Option Wide :=
  if core.isAligned source then core.readWide? source else none

/-- A wide operand of which only some lanes are read. -/
def readLanes? (core : Core) (lanes : PointLanes) (source : WideOperand) : Option Wide :=
  if lanes.areAll then core.readAligned? source
  else (core.readPoint? lanes.width source).map fun bits => Wide.ofLanes lanes.width [bits]

/-- A wide operand of which only so many bytes are read. -/
def readPart? (core : Core) (length : Nat) (source : WideOperand) : Option Wide :=
  let width? : Option Width :=
    match length with
    | 2 => some .word
    | 4 => some .double
    | 8 => some .quad
    | _ => none
  match width? with
  | some width => (core.readPoint? width source).map fun bits => Wide.ofLanes width [bits]
  | none => core.readAligned? source

/-- Let an operation make a wide register anew. -/
def remake? (core : Core) (target : Register) (source : WideOperand)
    (operation : Wide → Wide → Wide) : Option Core := do
  let other ← core.readAligned? source
  return core.setWide target (operation (core.wide target) other)

def setLane (core : Core) (width : Width) (lane : Nat) (clears : Bool) (target : Register)
    (value : UInt64) : Core :=
  let before := if clears then 0 else core.wide target
  core.setWide target (Wide.setLane width before lane value)

def executeWide? (core : Core) : Instruction → Option Core
  | .wideLoad isAligned target source => do
      if isAligned && !core.isAligned source then failure
      return core.setWide target (← core.readWide? source)
  | .wideStore isAligned target source => do
      if isAligned && !core.isAligned target then failure
      match target with
      | .register other => return core.setWide other (core.wide source)
      | .memory place => core.storeWide? (core.addressOf place) (core.wide source)
  | .laneLoad width lane clears target place => do
      let value ← core.load? width (core.addressOf place)
      return core.setLane width lane clears target value
  | .laneStore width lane place source =>
      core.store? width (core.addressOf place) ((core.wide source).lane width lane)
  | .laneCopy width targetLane clears target sourceLane source =>
      let value := (core.wide source).lane width sourceLane
      some (core.setLane width targetLane clears target value)
  | .laneFromWord width lane clears target source => do
      let value ← core.read? width source
      return core.setLane width lane clears target value
  | .laneToWord width lane target source =>
      let value := (core.wide source).lane width lane
      match target with
      | .register register => some (core.set register value)
      | operand => core.write? width operand value
  | .signs width target source => some (core.set target ((core.wide source).signs width))
  | .wideCombine operation target source =>
      core.remake? target source (Lanes.combine operation)
  | .arrange arrangement target source order =>
      core.remake? target source fun first second => Lanes.arrange arrangement first second order
  | .wideShift shift target count =>
      some (core.setWide target (Lanes.shift shift (core.wide target) count))
  | .wideTest target source => do
      let other ← core.readAligned? source
      let own := core.wide target
      return core.setFlags
        { Flags.clear with
          direction := core.flags.direction
          zero := own &&& other = 0
          carry := ~~~own &&& other = 0 }
  | .wideExtend signed narrow width target source => do
      let value ← core.readPart? (16 * narrow.length / width.length) source
      return core.setWide target (Lanes.extend signed narrow width value)
  | .wideBlend width target source =>
      core.remake? target source (Lanes.blendBySigns width (core.wide (.ofNat 0)))
  | .insertDouble order target source => do
      let double ←
        match source with
        | .register other => pure ((core.wide other).lane .double (order >>> 6).toNat)
        | .memory place => core.load? .double (core.addressOf place)
      return core.setWide target (Lanes.insertDouble order (core.wide target) double)
  | .spread width target source => do
      return core.setWide target (Lanes.spread width (← core.readPoint? width source))
  | .point operation lanes target source => do
      let other ← core.readLanes? lanes source
      return core.setWide target (Point.combine operation lanes (core.wide target) other)
  | .pointSelect predicate lanes target source => do
      let other ← core.readLanes? lanes source
      return core.setWide target (Point.select predicate lanes (core.wide target) other)
  | .pointCompare width target source => do
      let other ← core.readPoint? width source
      let own := Point.ofBits width ((core.wide target).lane width 0)
      let compared := Point.compared own.toLong (Point.ofBits width other).toLong
      return core.setFlags { compared with direction := core.flags.direction }
  | .pointOfWord width wordWidth target source => do
      let word ← core.read? wordWidth source
      return core.setLane width 0 false target (Point.ofWord width wordWidth word)
  | .pointToWord isCut width wordWidth target source => do
      let bits ← core.readPoint? width source
      return core.put wordWidth target (Point.toWord isCut width wordWidth bits)
  | .pointOfPoint width target source => do
      let bits ← core.readPoint? width source
      let otherWidth : Width := if width = .double then .quad else .double
      return core.setLane otherWidth 0 false target (Point.other width bits)
  | .pointConvert isCut sourceForm targetForm target source => do
      let length := Point.sharedCount sourceForm targetForm * (Point.widthOf sourceForm).length
      let value ← core.readPart? length source
      return core.setWide target (Point.convert isCut sourceForm targetForm value)
  | .pointPairs operation width target source =>
      core.remake? target source (Point.pairs operation width)
  | .pointAlternate width target source => core.remake? target source (Point.alternate width)
  | .pointRound mode lanes target source => do
      let other ← core.readLanes? lanes source
      return core.setWide target (Point.round mode lanes (core.wide target) other)
  | _ => none

/-! ## All instructions -/

/-- Execute an instruction. A system call is no matter of the core alone. -/
def execute? (core : Core) (instruction : Instruction) : Option Core :=
  match instruction with
  | .nothing => some core
  | .move width target source => do core.write? width target (← core.read? width source)
  | .extend signed narrow width target source => do
      let value ← core.read? narrow source
      return core.put width target (if signed then narrow.signed value else value)
  | .address width target place => some (core.put width target (core.addressOf place))
  | .combine operation width target source => core.combine? operation width target source
  | .alter operation width target => core.alter? operation width target
  | .shift operation width target count => core.shift? operation width target count
  | .shiftFrom isLeft width target source count =>
      core.shiftFrom? isLeft width target source count
  | .multiply signed width source => core.multiply? signed width source
  | .multiplyInto width target first second => core.multiplyInto? width target first second
  | .divide signed width source => core.divide? signed width source
  | .widen width =>
      let value := (half width).signed (core.get Register.accumulator)
      some (core.put width Register.accumulator value)
  | .spreadSign width =>
      let isNegative := width.isNegative (core.get Register.accumulator)
      some (core.put width Register.data (if isNegative then width.mask else 0))
  | .exchange width first second => core.exchange? width first second
  | .exchangeAdd width target source => core.exchangeAdd? width target source
  | .compareExchange width target source => core.compareExchange? width target source
  | .compareExchangePair width place => core.compareExchangePair? width place
  | .swapBytes width target =>
      some (core.put width target (Arithmetic.swapBytes width (core.get target)))
  | .moveSwapped width target source => do
      core.write? width target (Arithmetic.swapBytes width (← core.read? width source))
  | .bit action width target place => core.bit? action width target place
  | .search what width target source => core.search? what width target source
  | .setIf condition target =>
      core.write? .byte target (if condition.holds core.flags then 1 else 0)
  | .moveIf condition width target source => do
      let value ← core.read? width source
      return core.put width target
        (if condition.holds core.flags then value else width.cut (core.get target))
  | .push width source => do core.push? width (← core.read? width source)
  | .pop width target => do
      let (value, core) ← core.pop? width
      core.write? width target value
  | .pushFlags => core.push? .quad core.flags.toWord
  | .popFlags => do
      let (word, core) ← core.pop? .quad
      return core.setFlags (.ofWord word)
  | .enter length => core.enter? length
  | .leave => core.leave?
  | .jump target => return core.goTo (← core.read? .quad target)
  | .jumpBy distance => some (core.goBy distance)
  | .jumpIf condition distance =>
      some (if condition.holds core.flags then core.goBy distance else core)
  | .call target => do core.call? (← core.read? .quad target)
  | .callBy distance => core.call? (core.next + distance)
  | .giveBack length => core.giveBack? length
  | .loop zero width distance => some (core.loop zero width distance)
  | .jumpIfNone width distance =>
      some (if width.cut (core.get Register.counter) = 0 then core.goBy distance else core)
  | .string operation repetition width => core.string? operation repetition width
  | .translate => do
      let address := core.get Register.base + Width.byte.cut (core.get Register.accumulator)
      return core.put .byte Register.accumulator (← core.load? .byte address)
  | .flag action => some (core.act action)
  | .systemCall | .stop => none
  | wide => core.executeWide? wide

end Core

end PluginHost.Processor
