import PluginHost.Process.Binding
import PluginHost.Process.Service

/-!
# Running functions

A function runs until it comes back. Where it reaches an address without instructions, a service is
performed or a function is bound; a process that reaches anything else crashes.
-/

namespace PluginHost

open Processor (Core KnownCode Memory Pause Register)

namespace Process

/-- So many instructions may follow one another before something else happens. -/
def longestRun : Nat := 0x4000000

/-- So often something else may happen while a function runs. -/
def mostEvents : Nat := 0x1000000

/-- Let the core run until it pauses. -/
def runCore (process : Process) : Pause × Process :=
  let (core, process) := process.detach
  let (pause, core) := core.run longestRun {}
  (pause, { process with core })

/-- Tell how far the thread's own part of an object is from where the thread has what is its own.
The register that answers has led to that distance. -/
def tellDistance (process : Process) : Process :=
  let place := process.core.get Register.accumulator + 8
  match process.memory.load? .quad place with
  | some distance => process.comeBack distance
  | none => process.crash

/-- Take the farewells of a library, or all if none is named. -/
def takeFarewells (process : Process) (owner : UInt64) : List Farewell × Process :=
  let isTaken (farewell : Farewell) : Bool := owner = 0 || farewell.owner = owner
  (process.farewells.filter isTaken,
    { process with farewells := process.farewells.filter fun farewell => !isTaken farewell })

/-- Call what a library has registered. -/
def bidFarewells (proceed : Process → Process) (process : Process) (owner : UInt64) : Process :=
  let (farewells, process) := process.takeFarewells owner
  farewells.foldl
    (fun process farewell =>
      (process.callWith proceed farewell.function [farewell.argument]).2)
    process

/-- Go on until the function that was entered has come back, or the process has ended. -/
def proceed : Nat → Process → Process
  | 0, process => process.crash
  | count + 1, process =>
      if process.ended.isSome then process
      else
        match process.runCore with
        | (.endless, process) => process.crash
        | (.hindered, _) => proceed count process.lookAgain
        | (.asking, process) => proceed count process.askSystem
        | (.outside, process) =>
            let address := process.core.next
            match Gate.at? address with
            | some .finish => process
            | some .binding => proceed count (process.bindCallWith (proceed count))
            | some .threadDistance => proceed count process.tellDistance
            | none =>
                match process.service? address with
                | none => process.crash
                | some (.routine _ .bidFarewell) =>
                    let owner := process.argument 0
                    proceed count ((bidFarewells (proceed count) process owner).comeBack 0)
                | some service => proceed count (process.serve service)

/-- Call the function at an address. -/
def call (process : Process) (address : UInt64) (arguments : List UInt64) : UInt64 × Process :=
  process.callWith (proceed mostEvents) address arguments

/-- Where a definition leads, after the call of a function that chooses another one. -/
def lead (process : Process) (found : Option Definition) : UInt64 × Process :=
  process.leadWith (proceed mostEvents) found

end Process

end PluginHost
