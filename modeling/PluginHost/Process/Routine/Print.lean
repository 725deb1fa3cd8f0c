import PluginHost.Process.Routine.Basic
import PluginHost.Process.Routine.Form

/-!
# Printing routines

A format is a text with directives in it. Each directive takes a value from the arguments that
follow the format: the first ones are in registers, and the others on the stack.
-/

namespace PluginHost

open Library (TextTarget)
open Processor (Memory Register Width)

/-- Where the next arguments are: how many of each kind of register have been used, and the address
of the next one on the stack. -/
structure ArgumentPlace where
  words : Nat
  points : Nat
  stack : UInt64
  /-- Where the registers have been kept, if they may hold something else by now. -/
  kept : Option UInt64

/-- What a format has made so far, last byte first, with the places of arguments. -/
structure Printing where
  process : Process
  place : ArgumentPlace
  made : Bytes
  count : Nat

namespace Printing

def add (printing : Printing) (bytes : Bytes) : Printing :=
  { printing with
    made := bytes.reverse ++ printing.made
    count := printing.count + bytes.length }

/-- Take an argument from the stack. -/
def takeStacked? (printing : Printing) : Option (UInt64 × Printing) := do
  let place := printing.place
  let value ← printing.process.memory.load? .quad place.stack
  return (value, { printing with place := { place with stack := place.stack + 8 } })

def takeWord? (printing : Printing) : Option (UInt64 × Printing) :=
  let place := printing.place
  if place.words < Register.arguments.length then do
    let value ←
      match place.kept with
      | none => pure (printing.process.argument place.words)
      | some kept => printing.process.memory.load? .quad (kept + 8 * place.words.toUInt64)
    return (value, { printing with place := { place with words := place.words + 1 } })
  else printing.takeStacked?

/-- Take the bits of a number with a point. -/
def takePoint? (printing : Printing) : Option (UInt64 × Printing) :=
  let place := printing.place
  if place.points < 8 then do
    let bits ←
      match place.kept with
      | none => pure ((printing.process.core.wide (.ofNat place.points)).lane .quad 0)
      | some kept => printing.process.memory.load? .quad (kept + 48 + 16 * place.points.toUInt64)
    return (bits, { printing with place := { place with points := place.points + 1 } })
  else printing.takeStacked?

end Printing

/-- A directive of a format without its conversion. -/
structure Directive where
  form : Form
  width : Width

namespace Directive

def star : UInt8 := 42

def addFlag? (form : Form) (byte : UInt8) : Option Form :=
  match byte.toNat with
  | 45 => some { form with isLeft := true }
  | 43 => some { form with hasPlus := true }
  | 32 => some { form with hasBlank := true }
  | 35 => some { form with isAlternate := true }
  | 48 => some { form with isZeroed := true }
  | _ => none

/-- Read the flags at the start of a directive. -/
def readFlags (form : Form) : Bytes → Form × Bytes
  | [] => (form, [])
  | byte :: rest =>
      match addFlag? form byte with
      | some form => readFlags form rest
      | none => (form, byte :: rest)

/-- Read a number, or take one from the arguments for a star. -/
def readCount? (printing : Printing) (text : Bytes) : Option (Option Int × Bytes × Printing) :=
  if text.head? = some star then do
    let (value, printing) ← printing.takeWord?
    return (some (Width.double.toInt value), text.tail, printing)
  else
    let digits := text.takeWhile fun byte => 48 ≤ byte && byte ≤ 57
    let value : Nat := digits.foldl (fun value digit => value * 10 + (digit.toNat - 48)) 0
    some (if digits = [] then none else some (value : Int), text.drop digits.length, printing)

/-- Read what says how wide an argument is. -/
def readWidth : Bytes → Width × Bytes
  | 104 :: 104 :: rest => (.byte, rest)
  | 104 :: rest => (.word, rest)
  | 108 :: 108 :: rest => (.quad, rest)
  | byte :: rest =>
      if [108, 106, 122, 116, 113, 76].contains byte then (.quad, rest)
      else (.double, byte :: rest)
  | [] => (.double, [])

/-- Read a directive up to its conversion. -/
def read? (printing : Printing) (text : Bytes) : Option (Directive × Bytes × Printing) := do
  let (form, text) := readFlags .plain text
  let (width, text, printing) ← readCount? printing text
  let width := width.getD 0
  let form := { form with isLeft := form.isLeft || width < 0, width := width.natAbs }
  if text.head? ≠ some 46 then
    let (length, text) := readWidth text
    return (⟨form, length⟩, text, printing)
  let (precision, text, printing) ← readCount? printing text.tail
  let precision := precision.getD 0
  let form := if precision < 0 then form else { form with precision := some precision.toNat }
  let (length, text) := readWidth text
  return (⟨form, length⟩, text, printing)

/-- The text of a pointer. -/
def pointer (form : Form) (value : UInt64) : Bytes :=
  if value = 0 then { form with precision := none }.string (Text.Utf8.encode "(nil)")
  else { form with isAlternate := true }.natural 16 false value.toNat

/-- The string at an address. Of the null address only a name is printed, if there is room for
it. -/
def stringAt? (printing : Printing) (form : Form) (address : UInt64) : Option Bytes :=
  let memory := printing.process.memory
  if address = 0 then
    some (if form.precision.any (· < 6) then [] else Text.Utf8.encode "(null)")
  else
    match form.precision with
    | some length => some ((memory.bytes address length).takeWhile (· ≠ 0))
    | none => memory.string? address

def pointStyle? (letter : UInt8) : Option Form.PointStyle :=
  match letter.toNat with
  | 102 => some .fixed
  | 101 => some .scientific
  | 103 => some .general
  | _ => none

/-- Print an integer that has been taken from the arguments. -/
def integer? (directive : Directive) (letter : UInt8) (value : UInt64) : Option Bytes :=
  let form := directive.form
  let natural := (directive.width.cut value).toNat
  match letter.toNat with
  | 100 | 105 => some (form.integer (directive.width.toInt value))
  | 117 => some (form.natural 10 false natural)
  | 111 => some (form.natural 8 false natural)
  | 120 => some (form.natural 16 false natural)
  | 88 => some (form.natural 16 true natural)
  | 112 => some (pointer form value)
  | 99 => some ({ form with precision := none }.string [value.toUInt8])
  | _ => none

/-- Carry out a directive. -/
def perform? (directive : Directive) (letter : UInt8) (printing : Printing) : Option Printing :=
  let isCapital := 65 ≤ letter && letter ≤ 90
  let small := if isCapital then letter + 32 else letter
  if letter = 37 then some (printing.add [37])
  else
    match pointStyle? small with
    | some style => do
        let (bits, printing) ← printing.takePoint?
        return printing.add (directive.form.point style isCapital bits)
    | none => do
        let (value, printing) ← printing.takeWord?
        if letter = 115 then
          return printing.add (directive.form.string (← stringAt? printing directive.form value))
        if letter = 110 then
          let process ← printing.process.store? directive.width value printing.count.toUInt64
          return { printing with process }
        return printing.add ((directive.integer? letter value).getD [])

end Directive

namespace Printing

/-- Go through a format of at most so many bytes. -/
def run? : Nat → Bytes → Printing → Option Printing
  | 0, _, printing => some printing
  | _, [], printing => some printing
  | count + 1, byte :: rest, printing =>
      if byte ≠ 37 then run? count rest (printing.add [byte])
      else
        match Directive.read? printing rest with
        | none => none
        | some (_, [], printing) => some printing
        | some (directive, letter :: rest, printing) =>
            match directive.perform? letter printing with
            | none => none
            | some printing => run? count rest printing

end Printing

namespace Process

/-- The addresses by which the C library knows its streams. -/
def inputStream : UInt64 := 0x10000

def outputStream : UInt64 := 0x10001

def errorStream : UInt64 := 0x10002

/-- Put bytes into a stream. -/
def putTo? (process : Process) (stream : UInt64) (bytes : Bytes) : Option Process :=
  if stream = outputStream then
    some { process with outside := (process.outside.ask .output).wait bytes }
  else if stream = errorStream then some (process.writeTo errorFile bytes).2
  else none

/-- Put bytes into a stream, and answer. -/
def putting (process : Process) (stream : UInt64) (bytes : Bytes) (answer : UInt64) : Performed :=
  (process.putTo? stream bytes).map (answer, ·)

/-- The place of arguments that a list describes: how many bytes of the registers that were kept
have been used, for both kinds, where the stack goes on, and where the registers are. -/
def listedPlace? (process : Process) (list : UInt64) : Option ArgumentPlace := do
  let words ← process.memory.load? .double list
  let points ← process.memory.load? .double (list + 4)
  let stack ← process.memory.load? .quad (list + 8)
  let kept ← process.memory.load? .quad (list + 16)
  return ⟨(words / 8).toNat, ((points - 48) / 16).toNat, stack, some kept⟩

/-- What a format makes of the arguments after it, and the process after that. -/
def formatted? (process : Process) (fixed : Nat) (isListed : Bool) : Option (Bytes × Process) := do
  let format ← process.stringArgument? fixed
  let place ←
    if isListed then process.listedPlace? (process.argument (fixed + 1))
    else pure ⟨fixed + 1, 0, process.core.get Register.stack + 8, none⟩
  let printing ← Printing.run? (format.length + 1) format ⟨process, place, [], 0⟩
  return (printing.made.reverse, printing.process)

/-- Print. A checked routine has one more argument than others before its format, and two more if it
knows how much room there is. -/
def print (process : Process) (target : TextTarget) (isChecked isListed : Bool) : Performed := do
  let extra := if isChecked then 1 else 0
  match target with
  | .output =>
      let (bytes, process) ← process.formatted? extra isListed
      process.putting outputStream bytes bytes.length.toUInt64
  | .stream =>
      let stream := process.argument 0
      let (bytes, process) ← process.formatted? (1 + extra) isListed
      process.putting stream bytes bytes.length.toUInt64
  | .file =>
      let file := process.argument 0
      let (bytes, process) ← process.formatted? (1 + extra) isListed
      return process.writeTo file bytes
  | .memory isBounded =>
      let start := process.argument 0
      let room := (process.argument 1).toNat
      let (bytes, process) ← process.formatted? ((if isBounded then 2 else 1) + 2 * extra) isListed
      let kept := if isBounded then bytes.take (room - 1) ++ [0] else bytes ++ [0]
      if isBounded && room = 0 then return (bytes.length.toUInt64, process)
      process.storing start kept bytes.length.toUInt64

def putLine (process : Process) : Performed := do
  let bytes ← process.stringArgument? 0
  process.putting outputStream (bytes ++ [Bytes.lineFeed]) (bytes.length + 1).toUInt64

def putByte (process : Process) (stream : UInt64) : Performed :=
  let byte := (process.argument 0).toUInt8
  process.putting stream [byte] byte.toUInt64

def putString (process : Process) : Performed := do
  process.putting (process.argument 1) (← process.stringArgument? 0) 1

def putBytes (process : Process) : Performed := do
  let count := process.argument 1 * process.argument 2
  let bytes ← process.bytesAt? (process.argument 0) count.toNat
  process.putting (process.argument 3) bytes (process.argument 2)

end Process

end PluginHost
