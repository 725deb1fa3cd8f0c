import PluginHost.Processor.Decoder.Basic
import PluginHost.Processor.Execution

/-!
# Runs of instructions

Instructions are taken from memory one after the other, until the next one would not be where
instructions may be, one asks the system for something, or one cannot be executed.
-/

namespace PluginHost.Processor

/-- Why a run of instructions pauses. -/
inductive Pause where
  /-- The next address is not one from which instructions may be taken. -/
  | outside
  /-- The system is asked for something. -/
  | asking
  /-- An instruction cannot be executed. -/
  | hindered
  /-- The run has been too long. -/
  | endless
  deriving DecidableEq, Repr

/-- Instructions with their lengths, by address. They are not forgotten, since their memory cannot
be written. -/
abbrev KnownCode := Std.TreeMap UInt64 (Instruction × UInt64)

namespace Memory

/-- Whether instructions may be taken from an address, and whether they may change. -/
def code? (memory : Memory) (address : UInt64) : Option Bool :=
  match memory.region? address with
  | some region => if region.access.isExecutable then some region.access.isWritable else none
  | none => none

/-- The bytes of a word, the lowest first. -/
def bytesOf (word : UInt64) : Bytes :=
  [0, 8, 16, 24, 32, 40, 48, 56].map fun (place : UInt64) => (word >>> place).toUInt8

/-- As many bytes from an address on as the longest instruction has. -/
def codeBytes (memory : Memory) (address : UInt64) : Bytes :=
  bytesOf (memory.peek .quad address) ++ bytesOf (memory.peek .quad (address + 8))

end Memory

namespace Core

/-- A core at rest, without memory. -/
def idle : Core := ⟨.initial, .empty⟩

/-- The instruction at the next address, with what is known after it has been read. -/
def fetch (core : Core) (known : KnownCode) : Except Pause ((Instruction × UInt64) × KnownCode) :=
  let address := core.next
  match known[address]? with
  | some found => .ok (found, known)
  | none =>
      match core.memory.code? address with
      | none => .error .outside
      | some mayChange =>
          match Decoder.decode? (core.memory.codeBytes address) with
          | none => .error .hindered
          | some (instruction, length) =>
              let found := (instruction, length.toUInt64)
              .ok (found, if mayChange then known else known.insert address found)

/-- Execute at most so many instructions. Of a core that is hindered nothing is left. -/
def run : Nat → KnownCode → Core → Pause × Core
  | 0, _, core => (.endless, core)
  | count + 1, known, core =>
      match core.fetch known with
      | .error pause => (pause, core)
      | .ok ((instruction, length), known) =>
          let core := core.goBy length
          match instruction with
          | .systemCall => (.asking, core)
          | _ =>
              match core.execute? instruction with
              | none => (.hindered, idle)
              | some core => run count known core

end Core

end PluginHost.Processor
