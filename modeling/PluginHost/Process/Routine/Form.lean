import PluginHost.Bytes
import PluginHost.Text.Utf8

/-!
# Forms of printed values

How a number or a string is printed: its digits, its sign, and what fills it up to a width. Numbers
with a point are printed exactly, to a number of digits after the point or to a number of digits at
all; a half goes to the even neighbour.
-/

namespace PluginHost

/-- How a value is to be printed. -/
structure Form where
  isLeft : Bool
  hasPlus : Bool
  hasBlank : Bool
  isAlternate : Bool
  isZeroed : Bool
  width : Nat
  precision : Option Nat

namespace Form

def plain : Form := ⟨false, false, false, false, false, 0, none⟩

def zero : UInt8 := 48

def blank : UInt8 := 32

/-- What stands before the digits of a number that is or is not negative. -/
def sign (form : Form) (isNegative : Bool) : Bytes :=
  if isNegative then [45] else if form.hasPlus then [43] else if form.hasBlank then [blank] else []

/-- Fill a text up to the width. Zeros stand between its head and its body. -/
def fill (form : Form) (mayZero : Bool) (head body : Bytes) : Bytes :=
  let missing := form.width - (head.length + body.length)
  if form.isLeft then head ++ body ++ List.replicate missing blank
  else if form.isZeroed && mayZero then head ++ List.replicate missing zero ++ body
  else List.replicate missing blank ++ head ++ body

/-- The digits of a number, in capital letters or in small ones. -/
def digits (base : Nat) (isCapital : Bool) (value : Nat) : Bytes :=
  (Nat.toDigits base value).map fun digit =>
    let byte := digit.toNat.toUInt8
    if isCapital && 97 ≤ byte then byte - 32 else byte

/-- Zeros in front of digits, up to a number of them. -/
def atLeast (count : Nat) (digits : Bytes) : Bytes :=
  List.replicate (count - digits.length) zero ++ digits

/-- The digits of an integer; with no digits asked for, zero has none. -/
def integerDigits (form : Form) (base : Nat) (isCapital : Bool) (value : Nat) : Bytes :=
  match form.precision with
  | none => digits base isCapital value
  | some count => atLeast count (if value = 0 then [] else digits base isCapital value)

def integer (form : Form) (value : Int) : Bytes :=
  form.fill form.precision.isNone (form.sign (value < 0))
    (form.integerDigits 10 false value.natAbs)

/-- An integer without a sign. The alternate form shows its base. -/
def natural (form : Form) (base : Nat) (isCapital : Bool) (value : Nat) : Bytes :=
  let body := form.integerDigits base isCapital value
  let marks : Bytes :=
    if form.isAlternate && base = 16 && value ≠ 0 then [zero, if isCapital then 88 else 120] else []
  let body := if form.isAlternate && base = 8 && body.head? ≠ some zero then zero :: body else body
  form.fill form.precision.isNone marks body

def string (form : Form) (bytes : Bytes) : Bytes :=
  let shown := match form.precision with
    | none => bytes
    | some count => bytes.take count
  form.fill false [] shown

/-! ## Numbers with a point -/

def tenTo (power : Nat) : Nat := Nat.pow 10 power

/-- The size of a number as a quotient. -/
structure Quotient where
  numerator : Nat
  denominator : Nat

namespace Quotient

/-- The nearest integer to a multiple by a power of ten. -/
def scaled (quotient : Quotient) (power : Int) : Nat :=
  let numerator := quotient.numerator * tenTo power.toNat
  let denominator := quotient.denominator * tenTo (-power).toNat
  let whole := numerator / denominator
  let rest := 2 * (numerator % denominator)
  if denominator < rest || (denominator = rest && whole % 2 = 1) then whole + 1 else whole

/-- Whether a power of ten is not above the quotient. -/
def reaches (quotient : Quotient) (power : Int) : Bool :=
  quotient.denominator * tenTo power.toNat ≤ quotient.numerator * tenTo (-power).toNat

/-- The greatest power of ten that is not above the quotient, looked for from one on downward. -/
def powerFrom (quotient : Quotient) : Nat → Int → Int
  | 0, power => power
  | count + 1, power =>
      if quotient.reaches power then power else powerFrom quotient count (power - 1)

/-- Numbers of eight bytes with a point have their powers of ten within these bounds. -/
def power (quotient : Quotient) : Int :=
  if quotient.numerator = 0 then 0 else quotient.powerFrom 700 309

end Quotient

/-- Digits with a point before the last ones. -/
def pointed (form : Form) (count value : Nat) : Bytes :=
  let text := atLeast (count + 1) (digits 10 false value)
  let whole := text.take (text.length - count)
  if count = 0 && !form.isAlternate then whole
  else whole ++ 46 :: text.drop (text.length - count)

/-- A number with so many digits after the point. -/
def fixed (form : Form) (count : Nat) (quotient : Quotient) : Bytes :=
  form.pointed count (quotient.scaled count)

/-- The digits of a number, so many after the first, and the power of ten of the first. -/
def leading (count : Nat) (quotient : Quotient) : Nat × Int :=
  let power := quotient.power
  let value := quotient.scaled (count - power)
  if tenTo (count + 1) ≤ value then (value / 10, power + 1) else (value, power)

def powerText (isCapital : Bool) (power : Int) : Bytes :=
  (if isCapital then 69 else 101) :: (if power < 0 then 45 else 43) ::
    atLeast 2 (digits 10 false power.natAbs)

/-- A number with one digit before the point, and a power of ten. -/
def scientific (form : Form) (isCapital : Bool) (count : Nat) (quotient : Quotient) : Bytes :=
  let (value, power) := leading count quotient
  form.pointed count value ++ powerText isCapital power

/-- Digits without the zeros at their end, and without a point there. -/
def trimmed (form : Form) (text : Bytes) : Bytes :=
  if form.isAlternate || !text.contains 46 then text
  else
    let kept := text.reverse.dropWhile (· = zero)
    (if kept.head? = some 46 then kept.tail else kept).reverse

/-- A number with so many digits at all, in the shorter of both ways. -/
def general (form : Form) (isCapital : Bool) (count : Nat) (quotient : Quotient) : Bytes :=
  let count := max count 1
  let (value, power) := leading (count - 1) quotient
  if -4 ≤ power && power < count then
    form.trimmed (form.fixed (count - 1 - power).toNat quotient)
  else form.trimmed (form.pointed (count - 1) value) ++ powerText isCapital power

/-- How numbers with a point are printed. -/
inductive PointStyle where
  | fixed
  | scientific
  | general
  deriving DecidableEq, Repr

/-- Print the number that has certain bits. -/
def point (form : Form) (style : PointStyle) (isCapital : Bool) (bits : UInt64) : Bytes :=
  let head := form.sign (bits >>> 63 = 1)
  let exponent : UInt64 := (bits >>> 52) &&& 0x7FF
  let fraction : UInt64 := bits &&& 0xFFFFFFFFFFFFF
  if exponent = 0x7FF then
    let name := if fraction = 0 then "inf" else "nan"
    form.fill false head (Text.Utf8.encode (if isCapital then name.toUpper else name))
  else
    let size := if exponent = 0 then fraction.toNat else fraction.toNat + 0x10000000000000
    let power : Int := (max exponent 1).toNat - 1075
    let quotient : Quotient := ⟨size <<< power.toNat, 1 <<< (-power).toNat⟩
    let count := form.precision.getD 6
    form.fill true head <| match style with
      | .fixed => form.fixed count quotient
      | .scientific => form.scientific isCapital count quotient
      | .general => form.general isCapital count quotient

end Form

end PluginHost
