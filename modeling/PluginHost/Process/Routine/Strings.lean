import PluginHost.Process.Routine.Characters

/-!
# Routines on strings

Strings end with a NUL. Numbers in strings are read after blanks and a sign.
-/

namespace PluginHost

open Library (Comparison CopyAnswer Search)

namespace Process

open Library.CharacterClass (isDigit isSmall isCapital isSpace)

/-! ## Comparing and searching -/

def compareStrings (process : Process) (comparison : Comparison) : Performed := do
  let limit := (process.argument 2).toNat
  let cut (bytes : Bytes) := if comparison.isBounded then bytes.take limit else bytes
  let read (index : Nat) : Option Bytes :=
    if comparison.isBounded then
      some ((process.memory.bytes (process.argument index) limit).takeWhile (· ≠ 0))
    else process.stringArgument? index
  let fold (bytes : Bytes) := if comparison.folds then Bytes.lower bytes else bytes
  let first ← read 0
  let second ← read 1
  return (small (difference (fold (cut first)) (fold (cut second))), process)

/-- The first place at which a string is found in another. -/
def stringPlace? (piece : Bytes) : Nat → Bytes → Option Nat
  | place, [] => if piece = [] then some place else none
  | place, bytes@(_ :: rest) =>
      if piece.isPrefixOf bytes then some place else stringPlace? piece (place + 1) rest

def searchString (process : Process) (what : Search) : Performed := do
  let start := process.argument 0
  let byte := (process.argument 1).toUInt8
  let bytes ← process.stringArgument? 0
  let whole := bytes ++ [0]
  match what with
  | .firstByte => return (placed start (whole.findIdx? (· = byte)), process)
  | .lastByte => return (placed start (lastPlace? whole byte), process)
  | .byteOrEnd =>
      return (placed start ((whole.findIdx? (· = byte)).getD bytes.length), process)
  | .firstString folds =>
      let fold (bytes : Bytes) := if folds then Bytes.lower bytes else bytes
      let piece ← process.stringArgument? 1
      return (placed start (stringPlace? (fold piece) 0 (fold bytes)), process)
  | .anyOf =>
      let members ← process.stringArgument? 1
      return (placed start (bytes.findIdx? members.contains), process)

/-- The number of bytes at the start of a string that are members of another, or that are not. -/
def span (process : Process) (ofMembers : Bool) : Performed := do
  let bytes ← process.stringArgument? 0
  let members ← process.stringArgument? 1
  let found := bytes.takeWhile fun byte => members.contains byte = ofMembers
  return (found.length.toUInt64, process)

/-! ## Copying -/

def copyString (process : Process) (answer : CopyAnswer) : Performed := do
  let target := process.argument 0
  let bytes ← process.stringArgument? 1
  let finish := target + bytes.length.toUInt64
  process.storing target (bytes ++ [0]) (if answer = .start then target else finish)

/-- The string at an address, cut to a length. -/
def boundedString (process : Process) (address : UInt64) (length : Nat) : Bytes :=
  (process.memory.bytes address length).takeWhile (· ≠ 0)

/-- Copy at most so many bytes, and fill up with zeros. -/
def copyBounded (process : Process) (answer : CopyAnswer) : Performed :=
  let target := process.argument 0
  let limit := (process.argument 2).toNat
  let bytes := process.boundedString (process.argument 1) limit
  let finish := target + bytes.length.toUInt64
  (process.fill (limit - bytes.length) 0 finish).bind fun process =>
    process.storing target bytes (if answer = .start then target else finish)

def appendString (process : Process) (isBounded : Bool) : Performed := do
  let target := process.argument 0
  let before ← process.stringArgument? 0
  let added ←
    if isBounded then
      some (process.boundedString (process.argument 1) (process.argument 2).toNat)
    else process.stringArgument? 1
  process.storing (target + before.length.toUInt64) (added ++ [0]) target

def duplicate (process : Process) (isBounded : Bool) : Performed := do
  let bytes ←
    if isBounded then
      some (process.boundedString (process.argument 0) (process.argument 1).toNat)
    else process.stringArgument? 0
  return process.allocateFor (bytes ++ [0])

/-- Cut the next token off a string: the bytes up to one of those that separate tokens. The place to
go on from is kept, or written where the third argument says. -/
def nextToken (process : Process) (hasPlace : Bool) : Performed := do
  let kept ←
    if hasPlace then process.memory.load? .quad (process.argument 2) else some process.places.token
  let start := if process.argument 0 = 0 then kept else process.argument 0
  if start = 0 then return (0, process)
  let separators ← process.stringArgument? 1
  let bytes ← process.memory.string? start
  let skipped := bytes.takeWhile separators.contains
  let token := (bytes.drop skipped.length).takeWhile fun byte => !separators.contains byte
  let tokenStart := start + skipped.length.toUInt64
  let tokenEnd := tokenStart + token.length.toUInt64
  let isLast := skipped.length + token.length = bytes.length
  let next := if isLast then tokenEnd else tokenEnd + 1
  let process ← if token = [] then some process else process.storeBytes? tokenEnd [0]
  let process ←
    if hasPlace then process.store? .quad (process.argument 2) next
    else some { process with places := { process.places with token := next } }
  return (if token = [] then 0 else tokenStart, process)

/-! ## Numbers -/

/-- The value of a digit, in any base up to thirty-six. -/
def digit? (base : Nat) (byte : UInt8) : Option Nat :=
  let value :=
    if isDigit byte then byte.toNat - 48
    else if isSmall byte then byte.toNat - 87
    else if isCapital byte then byte.toNat - 55
    else 36
  if value < base then some value else none

/-- A number that has been read: whether it is negative, its size, and how many bytes it takes. -/
structure ReadNumber where
  isNegative : Bool
  size : Nat
  length : Nat

/-- Whether a text begins as a number in base sixteen does: with a zero, a letter and a digit. -/
def showsHexadecimal : Bytes → Bool
  | 48 :: letter :: digit :: _ => (letter = 120 || letter = 88) && (digit? 16 digit).isSome
  | _ => false

/-- The base of a number: the one that is asked for or, if that is zero, the one that it shows. -/
def baseOf (asked : Nat) (text : Bytes) : Nat :=
  if asked ≠ 0 then asked
  else if showsHexadecimal text then 16
  else if text.head? = some 48 then 8
  else 10

/-- Read a number at the start of a string; none is there without a digit. -/
def readDigits (base : Nat) (bytes : Bytes) : ReadNumber :=
  let blanks := bytes.takeWhile isSpace
  let rest := bytes.drop blanks.length
  let isNegative := rest.head? = some 45
  let signs := if isNegative || rest.head? = some 43 then 1 else 0
  let rest := rest.drop signs
  let marks := if (base = 0 || base = 16) && showsHexadecimal rest then 2 else 0
  let base := baseOf base rest
  let digits := ((rest.drop marks).map (digit? base)).takeWhile Option.isSome
  { isNegative
    size := digits.foldl (fun value digit => value * base + digit.getD 0) 0
    length := if digits = [] then 0 else blanks.length + signs + marks + digits.length }

/-- A number of eight bytes with a sign; one that is too great is the greatest. -/
def ReadNumber.signed (number : ReadNumber) : UInt64 :=
  let greatest := 0x7FFFFFFFFFFFFFFF
  if number.isNegative then 0 - (min number.size (greatest + 1)).toUInt64
  else (min number.size greatest).toUInt64

def ReadNumber.unsigned (number : ReadNumber) : UInt64 :=
  if 0xFFFFFFFFFFFFFFFF < number.size then 0xFFFFFFFFFFFFFFFF
  else if number.isNegative then 0 - number.size.toUInt64
  else number.size.toUInt64

/-- Whether a number is too great to be answered. -/
def ReadNumber.isTooGreat (number : ReadNumber) (signed : Bool) : Bool :=
  if !signed then 0xFFFFFFFFFFFFFFFF < number.size
  else (if number.isNegative then 0x8000000000000000 else 0x7FFFFFFFFFFFFFFF) < number.size

def toNumber (process : Process) : Performed := do
  let number := readDigits 10 (← process.stringArgument? 0)
  let process := if number.isTooGreat true then process.setError tooGreatError else process
  return (number.signed, process)

/-- Read a number in a base; there are none below two and above thirty-six. -/
def readNumber (process : Process) (signed : Bool) : Performed := do
  let base := (process.argument 2).toUInt32.toNat
  if base = 1 || 36 < base then return (0, process.setError invalidError)
  let number := readDigits base (← process.stringArgument? 0)
  let finish := process.argument 0 + number.length.toUInt64
  let process ←
    if process.argument 1 = 0 then some process
    else process.store? .quad (process.argument 1) finish
  let process := if number.isTooGreat signed then process.setError tooGreatError else process
  return (if signed then number.signed else number.unsigned, process)

end Process

end PluginHost
