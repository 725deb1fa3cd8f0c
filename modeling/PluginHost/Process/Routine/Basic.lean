import PluginHost.Process.System

/-!
# Performing routines

Routines of the C library find their arguments in registers and give an answer, unless memory may
not be used as they ask. Memory that is asked for is never given twice.
-/

namespace PluginHost

open Processor (Memory Register Width)

/-- An answer and what the process has become, if memory allows it. -/
abbrev Performed := Option (UInt64 × Process)

namespace Process

/-- The bytes at an address, if all of them may be read. -/
def bytesAt? (process : Process) (address : UInt64) (count : Nat) : Option Bytes :=
  let bytes := process.memory.bytes address count
  if bytes.length = count then some bytes else none

/-- Write bytes at an address. -/
def storeBytes? (process : Process) (address : UInt64) (bytes : Bytes) : Option Process :=
  let (core, process) := process.detach
  let ⟨registers, memory⟩ := core
  (memory.storeBytes? address bytes).map fun memory => { process with core := ⟨registers, memory⟩ }

/-- Write a value at an address. -/
def store? (process : Process) (width : Width) (address value : UInt64) : Option Process :=
  process.storeBytes? address (Bytes.ofNumber width.length value.toNat)

/-- Write bytes and give an answer. -/
def storing (process : Process) (address : UInt64) (bytes : Bytes) (answer : UInt64) : Performed :=
  (process.storeBytes? address bytes).map (answer, ·)

/-- No stretch of memory that is written has as many bytes. -/
def mostBytes : Nat := 0x80000000

/-- Write the same byte so many times. -/
def fill (process : Process) (count : Nat) (byte : UInt8) (address : UInt64) : Option Process :=
  if mostBytes ≤ count then none else process.storeBytes? address (List.replicate count byte)

/-- An integer of four bytes as an answer. -/
def small (value : Int) : UInt64 := Width.double.ofInt value

/-! ## Memory that is asked for -/

/-- The bytes before a stretch of memory, in which its length is kept. -/
def stretchHead : UInt64 := 16

/-- Take a stretch of memory for a number of bytes. -/
def allocate (process : Process) (length : UInt64) : UInt64 × Process :=
  let start := process.places.heap + stretchHead
  let finish := alignUp (start + length) 16
  if process.places.heapEnd - start ≤ length then (0, process)
  else
    let places := { process.places with heap := finish }
    let process := { process with places }
    (start, process.changeMemory (·.poke .quad (start - stretchHead) length))

/-- Take memory and write bytes into it. -/
def allocateFor (process : Process) (bytes : Bytes) : UInt64 × Process :=
  let (start, process) := process.allocate bytes.length.toUInt64
  match process.storeBytes? start bytes with
  | some process => (start, process)
  | none => (0, process)

/-- Take memory for as many bytes as a stretch is to have, and copy what was in it. -/
def reallocate (process : Process) (old length : UInt64) : Performed := do
  let (start, process) := process.allocate length
  if old = 0 || start = 0 then return (start, process)
  let before ← process.memory.load? .quad (old - stretchHead)
  process.storing start (← process.bytesAt? old (min before length).toNat) start

/-! ## Variables -/

/-- Find the value of the variable that is named, and give it as a string. -/
def findVariable (process : Process) : Performed := do
  let name ← process.stringArgument? 0
  let value? := process.outside.environment.value? name
  let process := process.ask (.variable name)
  return value?.elim (0, process) fun value => process.allocateFor (value ++ [0])

/-! ## Bytes -/

def copyBytes (process : Process) (answer : Library.CopyAnswer) : Performed := do
  let target := process.argument 0
  let bytes ← process.bytesAt? (process.argument 1) (process.argument 2).toNat
  let finish := target + process.argument 2
  process.storing target bytes (if answer = .start then target else finish)

/-- The difference of the first two bytes that are not the same; a string that ends before the other
goes on with zero. -/
def difference : Bytes → Bytes → Int
  | [], [] => 0
  | byte :: _, [] => byte.toNat
  | [], byte :: _ => -byte.toNat
  | first :: rest, second :: others =>
      if first = second then difference rest others else (first.toNat : Int) - second.toNat

def compareBytes (process : Process) : Performed := do
  let count := (process.argument 2).toNat
  let first ← process.bytesAt? (process.argument 0) count
  let second ← process.bytesAt? (process.argument 1) count
  return (small (difference first second), process)

/-- The address of a byte at a place that was found. -/
def placed (start : UInt64) (place : Option Nat) : UInt64 :=
  (place.map fun place => start + place.toUInt64).getD 0

/-- The last place at which something is found. -/
def lastPlace? (bytes : Bytes) (byte : UInt8) : Option Nat :=
  (bytes.reverse.findIdx? (· = byte)).map fun place => bytes.length - 1 - place

def findByte (process : Process) (isBackward : Bool) : Performed :=
  let start := process.argument 0
  let byte := (process.argument 1).toUInt8
  let bytes := process.memory.bytes start (process.argument 2).toNat
  let place := if isBackward then lastPlace? bytes byte else bytes.findIdx? (· = byte)
  some (placed start place, process)

/-! ## The end -/

/-- Let what is called before the end be called with its argument. -/
def addFarewell (process : Process) : UInt64 × Process :=
  let farewell : Farewell := ⟨process.argument 0, process.argument 1, process.argument 2⟩
  (0, { process with farewells := farewell :: process.farewells })

/-- The place where the thread keeps the number of the last error. -/
def errorPlace (process : Process) : UInt64 := process.core.registers.thread + 0x100

/-! The numbers of errors: an argument that is not valid, and a result that is too great. -/

def invalidError : UInt64 := 22

def tooGreatError : UInt64 := 34

/-- Keep the number of an error. -/
def setError (process : Process) (number : UInt64) : Process :=
  process.write .double process.errorPlace number

/-- The address of what the thread has for itself: the argument leads to the number of a library and
to a distance. -/
def threadAddress (process : Process) : Performed := do
  let row := process.argument 0
  let number ← process.memory.load? .quad row
  let distance ← process.memory.load? .quad (row + 8)
  let object ← process.object? (number.toNat - 1)
  match object.body with
  | .image _ (some part) _ => return (part.address + distance, process)
  | _ => none

end Process

end PluginHost
