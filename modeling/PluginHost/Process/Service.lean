import PluginHost.Process.Routine.Print
import PluginHost.Process.Routine.Strings

/-!
# Performing services

What happens when machine code calls what is not stored as machine code: an accessor of the request
that has been lent, a trigger, or a routine of the C library.
-/

namespace PluginHost

open Processor (Register Width)
open Library (Routine)

namespace Lent

def addressOf (lent : Lent) : Part → UInt64
  | .method => lent.method
  | .uri => lent.uri
  | .body => lent.body

end Lent

namespace Process

/-- The request that has been lent under an address; an address of nothing else is asked for. -/
def lentAt? (process : Process) (address : UInt64) : Option Lent :=
  process.lent.filter fun lent => lent.address = address

def access (process : Process) (part : Part) : Performed :=
  let address := process.argument 0
  if address = 0 then some (0, process)
  else (process.lentAt? address).map fun lent => (lent.addressOf part, process)

def accessHeader (process : Process) : Performed := do
  let address := process.argument 0
  let key := process.argument 1
  if address = 0 then return (0, process)
  let lent ← process.lentAt? address
  if key = 0 then return (0, process)
  let name := Bytes.lower (← process.memory.string? key)
  return ((lent.headers.lookup name).getD 0, process)

/-- What an address is as a handle: the request as it stands in memory. -/
def handleAt? (process : Process) (address : UInt64) : Option Handle :=
  if address = 0 then some none
  else do
    let lent ← process.lentAt? address
    let method ← process.memory.string? lent.method
    let uri ← process.memory.string? lent.uri
    let body ← process.memory.string? lent.body
    let headers ← lent.headers.mapM fun (name, value) => do
      return (name, ← process.memory.string? value)
    return some ⟨method, uri, ⟨headers⟩, body⟩

/-- Let a trigger do its work. -/
def follow (process : Process) (reply : Reply) : Process :=
  { process with outside := process.outside.follow reply }

def callTrigger (process : Process) (trigger : Trigger) : Performed := do
  let handle ← process.handleAt? (process.argument 0)
  let process := process.ask .output
  let reply := trigger handle process.outside.stdout
  return (small reply.status.toInt, process.follow reply)

/-- The size of a number with a sign. -/
def absolute (width : Width) (value : UInt64) : UInt64 :=
  if width.isNegative value then width.cut (0 - value) else value

/-- Perform a routine that calls nothing itself. -/
def performRoutine (process : Process) (routine : Routine) : Performed :=
  let first := process.argument 0
  let second := process.argument 1
  let third := process.argument 2
  match routine with
  | .copyBytes answer => process.copyBytes answer
  | .fillBytes => (process.fill third.toNat second.toUInt8 first).map (first, ·)
  | .clearBytes => (process.fill second.toNat 0 first).map (first, ·)
  | .compareBytes => process.compareBytes
  | .findByte => process.findByte false
  | .findByteBackward => process.findByte true
  | .findByteSurely =>
      let bytes := process.memory.bytes first Processor.Memory.stringLimit
      (bytes.findIdx? (· = second.toUInt8)).map fun place => (first + place.toUInt64, process)
  | .length => (process.stringArgument? 0).map fun bytes => (bytes.length.toUInt64, process)
  | .boundedLength => some ((process.boundedString first second.toNat).length.toUInt64, process)
  | .compare comparison => process.compareStrings comparison
  | .search what => process.searchString what
  | .span ofMembers => process.span ofMembers
  | .copy answer => process.copyString answer
  | .boundedCopy answer => process.copyBounded answer
  | .append => process.appendString false
  | .boundedAppend => process.appendString true
  | .duplicate => process.duplicate false
  | .boundedDuplicate => process.duplicate true
  | .nextToken hasPlace => process.nextToken hasPlace
  | .toNumber => process.toNumber
  | .readNumber signed => process.readNumber signed
  | .absolute isLong => some (absolute (if isLong then .quad else .double) first, process)
  | .classify characterClass => process.classify characterClass
  | .changeCase table => process.changeCase table
  | .characterTable table => some (table.place, process)
  | .allocate => some (process.allocate first)
  | .allocateCleared => some (process.allocate (first * second))
  | .reallocate => process.reallocate first second
  | .release => some (0, process)
  | .writeFile => some (process.writeFrom first second third.toNat)
  | .readFile => some (if first = 0 then 0 else refusal 1, process)
  | .putLine => process.putLine
  | .putByte => process.putByte outputStream
  | .putByteTo => process.putByte second
  | .putString => process.putString
  | .putBytes => process.putBytes
  | .print target isChecked isListed => process.print target isChecked isListed
  | .flush => some (0, { process with outside := (process.outside.ask .output).flush })
  | .exit => some (0, process.leave ⟨first.toNat % 0x100, true⟩)
  | .exitAtOnce => some (0, process.leave ⟨first.toNat % 0x100, false⟩)
  | .variable => process.findVariable
  | .addFarewell => some process.addFarewell
  | .bidFarewell => some (0, process)
  | .abort => some (0, process.leave ⟨abortCode, false⟩)
  | .errorPlace => some (process.errorPlace, process)
  | .threadAddress => process.threadAddress
  | .answer value => some (value, process)

def performService (process : Process) : Service → Performed
  | .trigger trigger => process.callTrigger trigger
  | .accessor part => process.access part
  | .headerAccessor => process.accessHeader
  | .routine _ routine => process.performRoutine routine
  | .cell _ => none

/-- Perform a service and go back to where it was called. -/
def serve (process : Process) (service : Service) : Process :=
  match process.performService service with
  | some (answer, process) => process.comeBack answer
  | none => process.lookAgain

end Process

end PluginHost
