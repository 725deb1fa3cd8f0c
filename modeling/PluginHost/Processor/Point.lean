import PluginHost.Processor.Lanes

/-!
# Numbers with a point

Operations on numbers with a point, given by their bits in four or eight bytes.
-/

namespace PluginHost.Processor.Point

/-- A number with a point of either width. -/
inductive Number where
  | short (number : Float32)
  | long (number : Float)

def ofBits (width : Width) (bits : UInt64) : Number :=
  if width = .double then .short (.ofBits bits.toUInt32) else .long (.ofBits bits)

namespace Number

def bits : Number → UInt64
  | short number => number.toBits.toUInt64
  | long number => number.toBits

/-- The number in the longer form, which holds it exactly. -/
def toLong : Number → Float
  | short number => number.toFloat
  | long number => number

end Number

/-- Whether bits stand for no number. -/
def isNone (width : Width) (bits : UInt64) : Bool := (ofBits width bits).toLong.isNaN

/-- The highest bit after the point, which marks what is no number and raises no alarm. -/
def quietBit (width : Width) : UInt64 :=
  if width = .double then 0x400000 else 0x8000000000000

/-- What an operation leaves that has no result. -/
def none (width : Width) : UInt64 :=
  if width = .double then 0xFFC00000 else 0xFFF8000000000000

def compute (operation : PointOperation) : Number → Number → Number
  | .short first, .short second =>
      .short <| match operation with
        | .add => first + second
        | .sub => first - second
        | .multiply => first * second
        | .divide => first / second
        | .least => if first < second then first else second
        | .greatest => if second < first then first else second
        | .squareRoot => second.sqrt
  | first, second =>
      let first := first.toLong
      let second := second.toLong
      .long <| match operation with
        | .add => first + second
        | .sub => first - second
        | .multiply => first * second
        | .divide => first / second
        | .least => if first < second then first else second
        | .greatest => if second < first then first else second
        | .squareRoot => second.sqrt

/-- The least and the greatest value are one of the two, bit by bit, and the second one if they
cannot be told apart. What is no number goes through other operations, the first before the
second. -/
def join (operation : PointOperation) (width : Width) (first second : UInt64) : UInt64 :=
  let one := ofBits width first
  let other := ofBits width second
  match operation with
  | .least => if one.toLong < other.toLong then first else second
  | .greatest => if other.toLong < one.toLong then first else second
  | _ =>
      if operation ≠ .squareRoot && isNone width first then first ||| quietBit width
      else if isNone width second then second ||| quietBit width
      else
        let result := compute operation one other
        if result.toLong.isNaN then none width else result.bits

/-- Join the lanes that an operation uses; the others stay. -/
def onLanes (lanes : PointLanes) (operation : UInt64 → UInt64 → UInt64) (first second : Wide) :
    Wide :=
  if lanes.areAll then Lanes.join lanes.width operation first second
  else
    first.setLane lanes.width 0 (operation (first.lane lanes.width 0) (second.lane lanes.width 0))

def combine (operation : PointOperation) (lanes : PointLanes) : Wide → Wide → Wide :=
  onLanes lanes (join operation lanes.width)

/-- Join neighbours, first those of the first value, then those of the second. -/
def pairs (operation : PointOperation) (width : Width) : Wide → Wide → Wide :=
  Lanes.pairwise width (join operation width)

/-- Take away in the even lanes, and add in the odd ones. -/
def alternate (width : Width) (first second : Wide) : Wide :=
  let differences := (combine .sub ⟨width, true⟩ first second).lanes width
  let sums := (combine .add ⟨width, true⟩ first second).lanes width
  .ofLanes width ((List.zip differences sums).mapIdx fun index lanes =>
    if index % 2 = 0 then lanes.1 else lanes.2)

/-- The flags after two numbers have been compared; none is set if the first is greater. -/
def compared (first second : Float) : Flags :=
  let isUnordered := first.isNaN || second.isNaN
  { Flags.clear with
    zero := isUnordered || first == second
    parity := isUnordered
    carry := isUnordered || first < second }

/-- Whether two numbers are as one of eight predicates says; the upper four deny the lower. -/
def satisfies (predicate : UInt64) (first second : Float) : Bool :=
  let isUnordered := first.isNaN || second.isNaN
  let bare : Bool := match (predicate &&& 3).toNat with
    | 0 => first == second
    | 1 => first < second
    | 2 => first ≤ second
    | _ => isUnordered
  if predicate &&& 4 = 0 then bare else !bare

def select (predicate : UInt64) (lanes : PointLanes) : Wide → Wide → Wide :=
  onLanes lanes fun first second =>
    Lanes.filled lanes.width
      (satisfies predicate (ofBits lanes.width first).toLong (ofBits lanes.width second).toLong)

/-- A whole number as one with a point. -/
def ofWord (width wordWidth : Width) (word : UInt64) : UInt64 :=
  let number := (wordWidth.signed word).toInt64
  if width = .double then number.toFloat32.toBits.toUInt64 else number.toFloat.toBits

/-- The nearest whole number; of two that are as near, the even one. -/
def nearest (number : Float) : Float :=
  let below := number.floor
  let rest := number - below
  if rest < 0.5 then below
  else if 0.5 < rest then below + 1
  else if (below / 2).floor * 2 == below then below else below + 1

/-- A number with a point as a whole one. What is out of reach becomes the lowest one. -/
def toWord (isCut : Bool) (width wordWidth : Width) (bits : UInt64) : UInt64 :=
  let number := (ofBits width bits).toLong
  let whole := if isCut then number else nearest number
  let limit := wordWidth.signBit.toFloat
  let isInReach :=
    whole < limit && (-limit ≤ whole || (wordWidth = .double && -limit - 1 < whole))
  if isInReach then wordWidth.cut whole.toInt64.toUInt64 else wordWidth.signBit

/-- A number with a point in the other width. What is no number keeps its upper bits. -/
def other (width : Width) (bits : UInt64) : UInt64 :=
  let upper (bits distance : UInt64) : UInt64 := (bits >>> distance) <<< distance
  match ofBits width bits with
  | .short number =>
      if number.isNaN then
        upper (bits <<< 32) 63 ||| (0x7FF : UInt64) <<< 52 ||| quietBit .quad |||
          ((bits &&& 0x7FFFFF) <<< 29)
      else number.toFloat.toBits
  | .long number =>
      if number.isNaN then
        upper (bits >>> 32) 31 ||| (0xFF : UInt64) <<< 23 ||| quietBit .double |||
          ((bits >>> 29) &&& 0x7FFFFF)
      else number.toFloat32.toBits.toUInt64

/-- The number of bytes of a lane. -/
def widthOf : LaneForm → Width
  | .long => .quad
  | .whole | .short => .double

def convertLane (isCut : Bool) (source target : LaneForm) (lane : UInt64) : UInt64 :=
  match source, target with
  | .whole, _ => ofWord (widthOf target) .double lane
  | _, .whole => toWord isCut (widthOf source) .double lane
  | _, _ => other (widthOf source) lane

/-- The number of lanes that fit in both of two forms. -/
def sharedCount (source target : LaneForm) : Nat :=
  min (Wide.laneCount (widthOf source)) (Wide.laneCount (widthOf target))

/-- Make as many lanes anew as fit in both forms. -/
def convert (isCut : Bool) (source target : LaneForm) (value : Wide) : Wide :=
  .ofLanes (widthOf target)
    (((value.lanes (widthOf source)).take (sharedCount source target)).map
      (convertLane isCut source target))

/-- A whole number near another one, as a mode asks for: the nearest, the one below, the one above,
or the one toward zero. -/
def rounded (mode : UInt64) (number : Float) : Float :=
  let whole :=
    match (if mode &&& 4 = 0 then mode &&& 3 else 0).toNat with
    | 0 => nearest number
    | 1 => number.floor
    | 2 => number.ceil
    | _ => if number < 0 then number.ceil else number.floor
  if whole == 0 && (number < 0 || number.toBits = Width.quad.signBit) then -0.0 else whole

def roundLane (mode : UInt64) (width : Width) (bits : UInt64) : UInt64 :=
  if isNone width bits then bits ||| quietBit width
  else
    let whole := rounded mode (ofBits width bits).toLong
    if width = .double then whole.toFloat32.toBits.toUInt64 else whole.toBits

def round (mode : UInt64) (lanes : PointLanes) : Wide → Wide → Wide :=
  onLanes lanes fun _ => roundLane mode lanes.width

end PluginHost.Processor.Point
