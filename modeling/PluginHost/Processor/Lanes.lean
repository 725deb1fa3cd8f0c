import PluginHost.Processor.Instruction

/-!
# Lanes

A wide value as lanes of one width, the lowest first, and the operations on wide values that work
lane by lane.
-/

namespace PluginHost.Processor

namespace Wide

def lane (width : Width) (value : Wide) (index : Nat) : UInt64 :=
  width.cut (.ofBitVec (value.extractLsb' (index * width.bits.toNat) 64))

/-- The number of lanes. -/
def laneCount (width : Width) : Nat := 16 / width.length

def lanes (width : Width) (value : Wide) : List UInt64 :=
  (List.range (laneCount width)).map (value.lane width)

def ofLanes (width : Width) (lanes : List UInt64) : Wide :=
  lanes.foldr
    (fun lane value => (value <<< width.bits.toNat) ||| (width.cut lane).toBitVec.zeroExtend 128) 0

def setLane (width : Width) (value : Wide) (index : Nat) (lane : UInt64) : Wide :=
  ofLanes width ((value.lanes width).set index lane)

/-- The sign of each lane, as the bits of a word. -/
def signs (width : Width) (value : Wide) : UInt64 :=
  (value.lanes width).foldr
    (fun lane word => (word <<< 1) ||| (if width.isNegative lane then 1 else 0)) 0

end Wide

namespace Lanes

/-- Join lanes of one width in pairs. -/
def join (width : Width) (operation : UInt64 → UInt64 → UInt64) (first second : Wide) : Wide :=
  .ofLanes width (List.zipWith operation (first.lanes width) (second.lanes width))

/-- The nearest number that a lane can hold. -/
def within (signed : Bool) (width : Width) (number : Int) : UInt64 :=
  let half : Int := width.signBit.toNat
  let low : Int := if signed then -half else 0
  let high : Int := if signed then half - 1 else width.mask.toNat
  width.ofInt (max low (min high number))

def number (signed : Bool) (width : Width) (lane : UInt64) : Int :=
  if signed then width.toInt lane else lane.toNat

def least (signed : Bool) (width : Width) (first second : UInt64) : UInt64 :=
  if number signed width first ≤ number signed width second then first else second

def greatest (signed : Bool) (width : Width) (first second : UInt64) : UInt64 :=
  if number signed width first ≤ number signed width second then second else first

/-- All bits of a lane, or none. -/
def filled (width : Width) (isFilled : Bool) : UInt64 := if isFilled then width.mask else 0

/-- The part of an order for a lane: so many bits of it. -/
def orderAt (order bits : UInt64) (index : Nat) : Nat :=
  ((order >>> (index.toUInt64 * bits)) &&& ((1 <<< bits) - 1)).toNat

/-- Lanes of two values, in turn. -/
def interleave : List UInt64 → List UInt64 → List UInt64
  | first :: firsts, second :: seconds => first :: second :: interleave firsts seconds
  | _, _ => []

/-- Sums of neighbours. -/
def sumPairs : List Int → List Int
  | first :: second :: rest => (first + second) :: sumPairs rest
  | _ => []

/-- The sum of the distances of eight bytes from eight others. -/
def distances (first second : List UInt64) : UInt64 :=
  (List.zipWith (fun one other => if one < other then other - one else one - other)
    first second).foldl (· + ·) 0

/-- Lanes of two values, joined with their neighbours. -/
def joinPairs (operation : UInt64 → UInt64 → UInt64) : List UInt64 → List UInt64
  | first :: second :: rest => operation first second :: joinPairs operation rest
  | _ => []

def pairwise (width : Width) (operation : UInt64 → UInt64 → UInt64) (first second : Wide) : Wide :=
  .ofLanes width (joinPairs operation (first.lanes width ++ second.lanes width))

/-- The upper half of a product of words, to the nearest number. -/
def multiplyRounded (first second : UInt64) : UInt64 :=
  let product := Width.word.toInt first * Width.word.toInt second
  Width.word.ofInt ((product.shiftRight 14 + 1).shiftRight 1)

/-- A lane with the sign of another one, if that is not zero. -/
def signAs (width : Width) (lane other : UInt64) : UInt64 :=
  if other = 0 then 0 else if width.isNegative other then 0 - lane else lane

def multiplyEven (signed : Bool) (first second : UInt64) : UInt64 :=
  let value (lane : UInt64) : UInt64 :=
    if signed then Width.double.signed lane else Width.double.cut lane
  value first * value second

/-- The byte of a value that another byte names; none if that one has a sign. -/
def shuffled (value : Wide) (order : UInt64) : UInt64 :=
  if Width.byte.isNegative order then 0 else value.lane .byte (order &&& 15).toNat

/-- Shift each lane; no bit is left by a shift as far as the lane is wide. -/
def shiftLeft (width : Width) (value : Wide) (count : UInt64) : Wide :=
  .ofLanes width ((value.lanes width).map fun lane =>
    if width.bits ≤ count then 0 else lane <<< count)

def shiftRight (width : Width) (value : Wide) (count : UInt64) : Wide :=
  .ofLanes width ((value.lanes width).map fun lane =>
    if width.bits ≤ count then 0 else lane >>> count)

def shiftSigned (width : Width) (value : Wide) (count : UInt64) : Wide :=
  let count := min count (width.bits - 1)
  .ofLanes width ((value.lanes width).map fun lane =>
    ((width.signed lane).toInt64 >>> count.toInt64).toUInt64)

/-- The sum or the difference of two lanes as near as a lane can hold it. -/
def addWithin (signed : Bool) (width : Width) (first second : UInt64) : UInt64 :=
  within signed width (number signed width first + number signed width second)

def subWithin (signed : Bool) (width : Width) (first second : UInt64) : UInt64 :=
  within signed width (number signed width first - number signed width second)

def combine (operation : WideCombination) (first second : Wide) : Wide :=
  match operation with
  | .and => first &&& second
  | .andNot => ~~~first &&& second
  | .or => first ||| second
  | .xor => first ^^^ second
  | .add width => join width (· + ·) first second
  | .sub width => join width (· - ·) first second
  | .addWithin signed width => join width (addWithin signed width) first second
  | .subWithin signed width => join width (subWithin signed width) first second
  | .equal width => join width (fun one other => filled width (one = other)) first second
  | .greater width =>
      join width (fun one other => filled width (width.toInt other < width.toInt one)) first second
  | .least signed width => join width (least signed width) first second
  | .greatest signed width => join width (greatest signed width) first second
  | .average width => join width (fun one other => (one + other + 1) >>> 1) first second
  | .multiplyLow width => join width (· * ·) first second
  | .multiplyHigh signed =>
      join .word
        (fun one other =>
          Width.word.ofInt ((number signed .word one * number signed .word other).shiftRight 16))
        first second
  | .multiplyEven signed => join .quad (multiplyEven signed) first second
  | .multiplyAdd =>
      let products := List.zipWith (fun one other => Width.word.toInt one * Width.word.toInt other)
        (first.lanes .word) (second.lanes .word)
      .ofLanes .double ((sumPairs products).map Width.double.ofInt)
  | .sumDistances =>
      let firsts := first.lanes .byte
      let seconds := second.lanes .byte
      .ofLanes .quad
        [distances (firsts.take 8) (seconds.take 8), distances (firsts.drop 8) (seconds.drop 8)]
  | .interleaveLow width =>
      let half := Wide.laneCount width / 2
      .ofLanes width
        (interleave ((first.lanes width).take half) ((second.lanes width).take half))
  | .interleaveHigh width =>
      let half := Wide.laneCount width / 2
      .ofLanes width
        (interleave ((first.lanes width).drop half) ((second.lanes width).drop half))
  | .pack signed width =>
      let narrow : Width := if width = .word then .byte else .word
      .ofLanes narrow ((first.lanes width ++ second.lanes width).map fun lane =>
        within signed narrow (width.toInt lane))
  | .shuffleBytes => .ofLanes .byte ((second.lanes .byte).map (shuffled first))
  | .shiftLeft width => shiftLeft width first (second.lane .quad 0)
  | .shiftRight width => shiftRight width first (second.lane .quad 0)
  | .shiftSigned width => shiftSigned width first (second.lane .quad 0)
  | .addPairs width => pairwise width (· + ·) first second
  | .subPairs width => pairwise width (· - ·) first second
  | .addPairsWithin => pairwise .word (addWithin true .word) first second
  | .subPairsWithin => pairwise .word (subWithin true .word) first second
  | .multiplyAddBytes =>
      let products := List.zipWith (fun one other => (one.toNat : Int) * Width.byte.toInt other)
        (first.lanes .byte) (second.lanes .byte)
      .ofLanes .word ((sumPairs products).map (within true .word))
  | .multiplyRounded => join .word multiplyRounded first second
  | .signAs width => join width (signAs width) first second
  | .magnitude width => join width (signAs width) second second

/-- Four words, in the order asked for. -/
def arrangeWords (words : List UInt64) (order : UInt64) : List UInt64 :=
  (List.range 4).map fun index => words.getD (orderAt order 2 index) 0

/-- Lanes of the second value where asked for, and of the first elsewhere. -/
def blend (width : Width) (isSecond : List Bool) (first second : Wide) : Wide :=
  .ofLanes width (List.zipWith (fun isSecond (lanes : UInt64 × UInt64) =>
      if isSecond then lanes.2 else lanes.1)
    isSecond (List.zip (first.lanes width) (second.lanes width)))

/-- Lanes of the second value where a third one has a sign. -/
def blendBySigns (width : Width) (signs first second : Wide) : Wide :=
  blend width ((signs.lanes width).map width.isNegative) first second

/-- The lower lanes of a value, made longer. -/
def extend (signed : Bool) (narrow width : Width) (value : Wide) : Wide :=
  .ofLanes width ((List.range (Wide.laneCount width)).map fun index =>
    let lane := value.lane narrow index
    if signed then narrow.signed lane else lane)

/-- Put a double into a lane, and clear the lanes that the low bits of an order name. -/
def insertDouble (order : UInt64) (value : Wide) (double : UInt64) : Wide :=
  .ofLanes .double (((value.lanes .double).set (orderAt order 2 2) double).mapIdx fun index lane =>
    if orderAt order 1 index = 1 then 0 else lane)

/-- One value in all lanes. -/
def spread (width : Width) (lane : UInt64) : Wide :=
  .ofLanes width (List.replicate (Wide.laneCount width) lane)

def arrange (arrangement : Arrangement) (first second : Wide) (order : UInt64) : Wide :=
  let words := second.lanes .word
  match arrangement with
  | .doubles => .ofLanes .double (arrangeWords (second.lanes .double) order)
  | .lowWords => .ofLanes .word (arrangeWords (words.take 4) order ++ words.drop 4)
  | .highWords => .ofLanes .word (words.take 4 ++ arrangeWords (words.drop 4) order)
  | .bothDoubles =>
      .ofLanes .double
        [first.lane .double (orderAt order 2 0), first.lane .double (orderAt order 2 1),
          second.lane .double (orderAt order 2 2), second.lane .double (orderAt order 2 3)]
  | .bothQuads =>
      .ofLanes .quad [first.lane .quad (orderAt order 1 0), second.lane .quad (orderAt order 1 1)]
  | .bytesFrom =>
      .ofLanes .byte (((second.lanes .byte ++ first.lanes .byte).drop order.toNat).take 16)
  | .blend width =>
      blend width
        ((List.range (Wide.laneCount width)).map fun index => orderAt order 1 index = 1)
        first second

def shift (shift : WideShift) (value : Wide) (count : UInt64) : Wide :=
  match shift with
  | .bytesLeft => value <<< (8 * count.toNat)
  | .bytesRight => value >>> (8 * count.toNat)
  | .left width => shiftLeft width value count
  | .right width => shiftRight width value count
  | .signed width => shiftSigned width value count

end Lanes

end PluginHost.Processor
