import PluginHost.Process.Basic

/-!
# Calls

How a function is entered and left: arguments in registers, the address where it comes back to on
the stack, and the answer in the accumulator. Some addresses at which no instructions stand mean
something when they are reached.
-/

namespace PluginHost

open Processor (Core Memory Register Width)

/-- What an address without instructions means. -/
inductive Gate where
  /-- A function that was called from outside has come back. -/
  | finish
  /-- A function is called for the first time, and is to be bound. -/
  | binding
  /-- Somebody asks how far something is from where the thread has what is its own. -/
  | threadDistance
  deriving DecidableEq, Repr

namespace Gate

/-- Nothing else is at these addresses. -/
def address : Gate → UInt64
  | finish => 0x7FFFFFFFE000
  | binding => 0x7FFFFFFFE010
  | threadDistance => 0x7FFFFFFFE020

def at? (address : UInt64) : Option Gate :=
  [finish, binding, threadDistance].find? (·.address = address)

end Gate

namespace Processor.Core

/-- What lies below the top of the stack is left alone for so many bytes. -/
def kept : UInt64 := 0x100

/-- Enter a function: the stack is at a multiple of sixteen before the address to come back to is
put on it. -/
def enter (core : Core) (address back : UInt64) (arguments : List UInt64) : Core :=
  let core := (Register.arguments.zip arguments).foldl
    (fun core (register, argument) => core.set register argument) core
  let core := (core.set Register.stack ((core.get Register.stack - kept) &&& ~~~15)).goTo address
  match core.push? .quad back with
  | some core => core
  | none => idle

/-- Leave a function that is not made of instructions. -/
def comeBack (core : Core) (answer : UInt64) : Core :=
  match core.pop? .quad with
  | some (back, core) => (core.set Register.accumulator answer).goTo back
  | none => idle

end Processor.Core

namespace Process

/-- The argument with a number, of those that are in registers. -/
def argument (process : Process) (index : Nat) : UInt64 :=
  ((Register.arguments[index]?).map process.core.get).getD 0

/-- The string that an argument leads to. -/
def stringArgument? (process : Process) (index : Nat) : Option Bytes :=
  process.memory.string? (process.argument index)

/-- Leave a service. -/
def comeBack (process : Process) (answer : UInt64) : Process :=
  process.changeCore fun core => core.comeBack answer

/-- Call the function at an address. Afterwards the registers hold again what they held before. -/
def callWith (proceed : Process → Process) (process : Process) (address : UInt64)
    (arguments : List UInt64) : UInt64 × Process :=
  let registers := process.core.registers
  let process := proceed <|
    process.changeCore fun core => core.enter address Gate.finish.address arguments
  (process.core.get Register.accumulator, process.changeCore fun core => { core with registers })

end Process

end PluginHost
