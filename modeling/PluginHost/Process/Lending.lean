import PluginHost.Process.Run
import PluginHost.Process.Strings

/-!
# Lending requests

A request is put into memory for as long as it is lent: a stretch that stands for the request
itself, and after it the strings of its parts, each with a NUL at its end.
-/

namespace PluginHost

open Processor (Memory)

namespace Process

/-- The length of what stands for a request itself. -/
def handleLength : Nat := 256

/-- Lend a request, and tell its address. -/
def lend (process : Process) (request : Request) : UInt64 × Process :=
  let entries := request.headers.entries
  let start := process.places.free
  let strings := ([request.method, request.uri, request.body] ++ entries.map Prod.snd).foldl
    Strings.add (Strings.after start handleLength)
  let (_, process) := process.reserve strings.length.toUInt64 pageLength
  let process := process.changeMemory fun memory =>
    memory.addRegion (plainRegion start strings.length.toUInt64 strings.bytes.reverse)
  let addressOf (index : Nat) : UInt64 := strings.addresses.getD index 0
  let lent : Lent :=
    { address := start
      method := addressOf 0
      uri := addressOf 1
      body := addressOf 2
      headers := (entries.map Prod.fst).zip (strings.addresses.drop 3) }
  (start, { process with lent := some lent })

/-- Take back what was lent. -/
def takeBack (process : Process) : Process :=
  match process.lent with
  | none => process
  | some lent =>
      let process := process.changeMemory (·.removeRegions lent.address pageLength)
      { process with lent := none }

end Process

end PluginHost
