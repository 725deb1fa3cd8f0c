import PluginHost.Process.Call
import PluginHost.Process.Variables

/-!
# What processes ask of the system

A process asks the system by number: to write to standard output or standard error, for memory, or
to end. Standard input is empty. All else is refused.
-/

namespace PluginHost

open Processor (Access Memory Region Register Width)

namespace Processor.Memory

/-- Change what may be done with a stretch of memory, as far as it is in one region. -/
def protect (memory : Memory) (start length : UInt64) (access : Access) : Memory :=
  match memory.region? start with
  | none => memory
  | some region =>
      let first := (start - region.start).toNat
      let length := min length (region.length - (start - region.start))
      memory.addRegion ⟨start, length, region.wordsBetween first (first + length.toNat), access⟩

/-- The bytes at the places of a list: each place is an address and a length. None are there if the
list or one of the places may not be read. -/
def gather? (memory : Memory) : Nat → UInt64 → Option Bytes
  | 0, _ => some []
  | count + 1, row => do
      let address ← memory.load? .quad row
      let length ← memory.load? .quad (row + 8)
      let bytes := memory.bytes address length.toNat
      if bytes.length ≠ length.toNat then none
      else return bytes ++ (← gather? memory count (row + 16))

end Processor.Memory

namespace Process

/-! Numbers of errors. -/

def notAFile : UInt64 := 9

def badAddress : UInt64 := 14

def noSpace : UInt64 := 28

def noSuchRequest : UInt64 := 38

/-- How the system tells an error. -/
def refusal (error : UInt64) : UInt64 := 0 - error

def outputFile : UInt64 := 1

def errorFile : UInt64 := 2

/-- What is answered to the writing of bytes to a standard output. -/
def outputAnswer (stdout : Stdout) (bytes : Bytes) : UInt64 :=
  match stdout with
  | .accepting => bytes.length.toUInt64
  | .failing _ => if bytes = [] then 0 else refusal noSpace

/-- Write bytes to a file that is open from the start, and tell how many were written. -/
def writeTo (process : Process) (file : UInt64) (bytes : Bytes) : UInt64 × Process :=
  if file = outputFile then
    let process := process.ask .output
    (outputAnswer process.outside.stdout bytes,
      { process with outside := process.outside.print bytes })
  else if file = errorFile then
    (bytes.length.toUInt64, if bytes = [] then process else process.tell (.text bytes))
  else (refusal notAFile, process)

/-- Write the bytes that memory holds, as far as they may be read. -/
def writeFrom (process : Process) (file address : UInt64) (length : Nat) : UInt64 × Process :=
  let bytes := process.memory.bytes address length
  if bytes = [] && length ≠ 0 && file ≤ errorFile then (refusal badAddress, process)
  else process.writeTo file bytes

def accessOf (rights : UInt64) : Access :=
  ⟨rights &&& 7 ≠ 0, rights &&& 2 ≠ 0, rights &&& 4 ≠ 0⟩

/-- Give memory that no file fills. -/
def giveMemory (process : Process) (length rights kind : UInt64) : UInt64 × Process :=
  if kind &&& 0x20 = 0 then (refusal notAFile, process)
  else
    let (start, process) := process.reserve length pageLength
    let region : Region := ⟨start, alignUp length pageLength, #[], accessOf rights⟩
    (start, process.changeMemory (·.addRegion region))

/-- What the system answers to the number of a request with its arguments. -/
def systemAnswer (process : Process) (number first second third fourth : UInt64) :
    UInt64 × Process :=
  match number.toNat with
  | 0 => (if first = 0 then 0 else refusal notAFile, process)
  | 1 => process.writeFrom first second third.toNat
  | 3 => (if first ≤ errorFile then 0 else refusal notAFile, process)
  | 9 => process.giveMemory second third fourth
  | 10 => (0, process.changeMemory (·.protect first second (accessOf third)))
  | 11 => (0, process.changeMemory (·.protect first second (accessOf 0)))
  | 12 => (process.places.heapEnd, process)
  | 13 | 14 | 24 | 28 | 35 => (0, process)
  | 20 =>
      match process.memory.gather? third.toNat second with
      | some bytes => process.writeTo first bytes
      | none => (refusal badAddress, process)
  | 39 | 186 => (2, process)
  | 60 | 231 => (0, process.leave ⟨first.toNat % 0x100, false⟩)
  | 102 | 104 | 107 | 108 => (0, process)
  | 110 => (1, process)
  | _ => (refusal noSuchRequest, process)

/-- What the system answers to what stands in the registers. -/
def registeredAnswer (process : Process) : UInt64 × Process :=
  let core := process.core
  process.systemAnswer (core.get Register.accumulator) (core.get Register.destination)
    (core.get Register.source) (core.get Register.data) (core.get (.ofNat 10))

/-- Let the system answer. Where it cannot read what it is to read, it looks among the variables.
The address and the flags of the asker are left in two registers. -/
def askSystem (process : Process) : Process :=
  let (answer, process) := process.registeredAnswer
  let (answer, process) :=
    if answer = refusal badAddress && !process.seesVariables then
      process.showVariables.registeredAnswer
    else (answer, process)
  process.changeCore fun core =>
    let flags := core.flags.toWord
    ((core.set Register.accumulator answer).set Register.counter core.next).set (.ofNat 11) flags

end Process

end PluginHost
