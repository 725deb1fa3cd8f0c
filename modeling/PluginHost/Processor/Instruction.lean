import PluginHost.Processor.Arithmetic

/-!
# Instructions

What an instruction is, after its bytes have been read: an operation, and the operands on which it
works.
-/

namespace PluginHost.Processor

/-- An address that an instruction computes: a register, the scaled value of another one, and a
distance. -/
structure Place where
  base : Option Register
  index : Option Register
  /-- How far the index is shifted. -/
  scale : UInt64
  distance : UInt64
  /-- Whether the distance is from the next instruction. -/
  isRelative : Bool
  /-- Whether the distance is from where the thread has what is its own. -/
  isOfThread : Bool
  /-- Whether addresses have four bytes. -/
  isNarrow : Bool
  deriving DecidableEq, Repr

inductive Operand where
  | register (register : Register)
  /-- The second byte of a register. -/
  | high (register : Register)
  | memory (place : Place)
  | constant (value : UInt64)
  deriving DecidableEq, Repr

/-- Operations that join two values and leave the result in place of the first, but for a
comparison and a test, which leave only flags. -/
inductive Combination where
  | add
  | or
  | addCarry
  | subBorrow
  | and
  | sub
  | xor
  | compare
  | test
  deriving DecidableEq, Repr

/-- Operations on one value. -/
inductive Alteration where
  | increment
  | decrement
  | complement
  | negate
  deriving DecidableEq, Repr

inductive Shift where
  | rotateLeft
  | rotateRight
  | rotateCarryLeft
  | rotateCarryRight
  | left
  | right
  | signed
  deriving DecidableEq, Repr

/-- What is done with a bit after it has been copied to the carry. -/
inductive BitAction where
  | keep
  | set
  | reset
  | flip
  deriving DecidableEq, Repr

/-- What is looked for in the bits of a value. -/
inductive BitSearch where
  | lowest
  | highest
  /-- As above, with the width for an answer when no bit is set. -/
  | trailingZeros
  | leadingZeros
  | count
  deriving DecidableEq, Repr

/-- Operations on strings of values in memory. -/
inductive StringOperation where
  | move
  | compare
  | store
  | load
  | scan
  deriving DecidableEq, Repr

/-- How often an operation on strings is done: once, or as often as the counter says, up to the
first pair that is, or is not, equal. -/
inductive Repetition where
  | once
  | whileEqual
  | whileDifferent
  deriving DecidableEq, Repr

inductive FlagAction where
  | clearCarry
  | setCarry
  | flipCarry
  | clearDirection
  | setDirection
  | loadLow
  | storeLow
  deriving DecidableEq, Repr

/-- A wide value in a register or in memory. -/
inductive WideOperand where
  | register (register : Register)
  | memory (place : Place)
  deriving DecidableEq, Repr

/-- Operations that join two wide values lane by lane, or as they stand. -/
inductive WideCombination where
  | and
  | andNot
  | or
  | xor
  | add (width : Width)
  | sub (width : Width)
  | addWithin (signed : Bool) (width : Width)
  | subWithin (signed : Bool) (width : Width)
  | equal (width : Width)
  | greater (width : Width)
  | least (signed : Bool) (width : Width)
  | greatest (signed : Bool) (width : Width)
  | average (width : Width)
  | multiplyLow (width : Width)
  | multiplyHigh (signed : Bool)
  | multiplyEven (signed : Bool)
  | multiplyAdd
  | sumDistances
  | interleaveLow (width : Width)
  | interleaveHigh (width : Width)
  | pack (signed : Bool) (width : Width)
  | shuffleBytes
  | shiftLeft (width : Width)
  | shiftRight (width : Width)
  | shiftSigned (width : Width)
  /-- Join neighbours, first those of the target, then those of the source. -/
  | addPairs (width : Width)
  | subPairs (width : Width)
  | addPairsWithin
  | subPairsWithin
  | multiplyAddBytes
  | multiplyRounded
  /-- The target with the signs of the source taken into account. -/
  | signAs (width : Width)
  /-- The sizes of the lanes of the source alone. -/
  | magnitude (width : Width)
  deriving DecidableEq, Repr

/-- How the doubles, or the words of one half, of a wide value are arranged anew. -/
inductive Arrangement where
  | doubles
  | lowWords
  | highWords
  /-- Two lanes of the target, and two of the source. -/
  | bothDoubles
  | bothQuads
  /-- The bytes of the target and the source from a place on. -/
  | bytesFrom
  /-- Lanes of the source where the order has a bit, and of the target elsewhere. -/
  | blend (width : Width)
  deriving DecidableEq, Repr

/-- Shifts of all bytes, or of the lanes of a width, by a constant. -/
inductive WideShift where
  | bytesLeft
  | bytesRight
  | left (width : Width)
  | right (width : Width)
  | signed (width : Width)
  deriving DecidableEq, Repr

/-- Operations on numbers with a point. -/
inductive PointOperation where
  | add
  | sub
  | multiply
  | divide
  | least
  | greatest
  | squareRoot
  deriving DecidableEq, Repr

/-- Which lanes an operation on numbers with a point uses: the first, or all of them. -/
structure PointLanes where
  /-- The width of a number: four or eight bytes. -/
  width : Width
  areAll : Bool
  deriving DecidableEq, Repr

/-- What a lane holds: a whole number of four bytes, or one with a point of four or eight bytes. -/
inductive LaneForm where
  | whole
  | short
  | long
  deriving DecidableEq, Repr

inductive Instruction where
  | nothing
  | move (width : Width) (target source : Operand)
  /-- Move a narrower value, with its sign or with zeros before it. -/
  | extend (signed : Bool) (narrow : Width) (width : Width) (target : Register) (source : Operand)
  | address (width : Width) (target : Register) (place : Place)
  | combine (operation : Combination) (width : Width) (target source : Operand)
  | alter (operation : Alteration) (width : Width) (target : Operand)
  | shift (operation : Shift) (width : Width) (target count : Operand)
  | shiftFrom (isLeft : Bool) (width : Width) (target : Operand) (source : Register)
      (count : Operand)
  | multiply (signed : Bool) (width : Width) (source : Operand)
  | multiplyInto (width : Width) (target : Register) (first second : Operand)
  | divide (signed : Bool) (width : Width) (source : Operand)
  /-- The lower half of the accumulator, with its sign, as the whole of it. -/
  | widen (width : Width)
  /-- The sign of the accumulator in every bit of the data register. -/
  | spreadSign (width : Width)
  | exchange (width : Width) (first second : Operand)
  | exchangeAdd (width : Width) (target : Operand) (source : Register)
  | compareExchange (width : Width) (target : Operand) (source : Register)
  /-- The same with pairs of values: the data register and the accumulator, the counter and the
  base. -/
  | compareExchangePair (width : Width) (place : Place)
  | swapBytes (width : Width) (target : Register)
  | moveSwapped (width : Width) (target source : Operand)
  | bit (action : BitAction) (width : Width) (target : Operand) (place : Operand)
  | search (what : BitSearch) (width : Width) (target : Register) (source : Operand)
  | setIf (condition : Condition) (target : Operand)
  | moveIf (condition : Condition) (width : Width) (target : Register) (source : Operand)
  | push (width : Width) (source : Operand)
  | pop (width : Width) (target : Operand)
  | pushFlags
  | popFlags
  | enter (length : UInt64)
  | leave
  | jump (target : Operand)
  | jumpBy (distance : UInt64)
  | jumpIf (condition : Condition) (distance : UInt64)
  | call (target : Operand)
  | callBy (distance : UInt64)
  /-- Return to the caller, and drop so many bytes. -/
  | giveBack (length : UInt64)
  /-- Count down and jump, unless the count is over or the zero flag is not as asked for. -/
  | loop (zero : Option Bool) (width : Width) (distance : UInt64)
  | jumpIfNone (width : Width) (distance : UInt64)
  | string (operation : StringOperation) (repetition : Option Repetition) (width : Width)
  | translate
  | flag (action : FlagAction)
  | systemCall
  | stop
  | wideLoad (isAligned : Bool) (target : Register) (source : WideOperand)
  | wideStore (isAligned : Bool) (target : WideOperand) (source : Register)
  | laneLoad (width : Width) (lane : Nat) (clears : Bool) (target : Register) (place : Place)
  | laneStore (width : Width) (lane : Nat) (place : Place) (source : Register)
  | laneCopy (width : Width) (targetLane : Nat) (clears : Bool) (target : Register)
      (sourceLane : Nat) (source : Register)
  | laneFromWord (width : Width) (lane : Nat) (clears : Bool) (target : Register)
      (source : Operand)
  | laneToWord (width : Width) (lane : Nat) (target : Operand) (source : Register)
  | signs (width : Width) (target source : Register)
  | wideCombine (operation : WideCombination) (target : Register) (source : WideOperand)
  | arrange (arrangement : Arrangement) (target : Register) (source : WideOperand)
      (order : UInt64)
  | wideShift (shift : WideShift) (target : Register) (count : UInt64)
  | wideTest (target : Register) (source : WideOperand)
  /-- Make the lower lanes longer, with their signs or with zeros before them. -/
  | wideExtend (signed : Bool) (narrow width : Width) (target : Register) (source : WideOperand)
  /-- Lanes of the source where the first wide register has a sign. -/
  | wideBlend (width : Width) (target : Register) (source : WideOperand)
  /-- Put a double into a lane, and clear the lanes that the low bits of the order name. -/
  | insertDouble (order : UInt64) (target : Register) (source : WideOperand)
  /-- One value in all lanes. -/
  | spread (width : Width) (target : Register) (source : WideOperand)
  | point (operation : PointOperation) (lanes : PointLanes) (target : Register)
      (source : WideOperand)
  | pointCompare (width : Width) (target : Register) (source : WideOperand)
  | pointSelect (predicate : UInt64) (lanes : PointLanes) (target : Register)
      (source : WideOperand)
  /-- A whole number as one with a point. -/
  | pointOfWord (width : Width) (wordWidth : Width) (target : Register) (source : Operand)
  | pointToWord (isCut : Bool) (width : Width) (wordWidth : Width) (target : Register)
      (source : WideOperand)
  /-- A number with a point, in the other width. -/
  | pointOfPoint (width : Width) (target : Register) (source : WideOperand)
  /-- Make as many lanes anew as fit in both forms. -/
  | pointConvert (isCut : Bool) (sourceForm targetForm : LaneForm) (target : Register)
      (source : WideOperand)
  /-- Join neighbours, first those of the target, then those of the source. -/
  | pointPairs (operation : PointOperation) (width : Width) (target : Register)
      (source : WideOperand)
  /-- Take away in the even lanes, and add in the odd ones. -/
  | pointAlternate (width : Width) (target : Register) (source : WideOperand)
  | pointRound (mode : UInt64) (lanes : PointLanes) (target : Register) (source : WideOperand)
  deriving Repr

end PluginHost.Processor
