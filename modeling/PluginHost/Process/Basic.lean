import PluginHost.Machine.Basic
import PluginHost.Process.Object
import PluginHost.Process.Outside
import PluginHost.Processor.Run

/-!
# Processes

A process is a running program with what it has loaded: its memory and registers, its objects, and
what has left it. It may lend one request at a time to what it calls.
-/

namespace PluginHost

open Processor (Access Core Memory Region Register Registers Width)

/-- A symbol that a name stands for in an object. -/
structure Definition where
  object : ObjectId
  kind : Nat
  /-- Whether the value does not move with the object. -/
  isFixed : Bool
  value : UInt64
  size : UInt64
  deriving DecidableEq, Repr

/-- A request in memory: the address by which it is known, and those of its parts. -/
structure Lent where
  address : UInt64
  method : UInt64
  uri : UInt64
  body : UInt64
  /-- The addresses of the values of headers, by name. -/
  headers : List (Bytes × UInt64)

/-- How a process ends. -/
structure Leaving where
  code : Nat
  /-- Whether the program is left in order: what is to be done before the end is done. -/
  isOrderly : Bool
  deriving DecidableEq, Repr

/-- What a library registers to be called before it is left. -/
structure Farewell where
  function : UInt64
  argument : UInt64
  /-- An address in the library. -/
  owner : UInt64

/-- Where things are in memory. -/
structure Places where
  /-- The first address that has never been used. -/
  free : UInt64
  /-- Where memory that is asked for comes from, and where it ends. -/
  heap : UInt64
  heapEnd : UInt64
  /-- Where a string is cut into tokens the next time. -/
  token : UInt64
  /-- The first address of what the thread has for itself. -/
  thread : UInt64
  /-- How much of it may still be taken at fixed distances by libraries. -/
  threadRoom : Nat

structure Process where
  machine : Machine
  /-- With what the program was started, its name first. -/
  arguments : List Bytes
  core : Core
  objects : List Object
  /-- The number for the next object. -/
  nextId : ObjectId
  places : Places
  outside : Outside
  lent : Option Lent
  /-- Directories in which libraries are looked for before those of the system. -/
  searchPath : List Bytes
  bindsNow : Bool
  /-- Symbols of which there is only one, whatever libraries define them. -/
  unique : List (Bytes × Definition)
  /-- What is to be called before the end, last first. -/
  farewells : List Farewell
  ended : Option Leaving

namespace Process

def pageLength : UInt64 := 0x1000

/-- The first address of the memory in which a thread has what is its own. -/
def threadStart : UInt64 := 0x7E0000000000

def memory (process : Process) : Memory := process.core.memory

/-- The core, and the process without it. -/
def detach (process : Process) : Core × Process :=
  (process.core, { process with core := Core.idle })

/-- Change the core. -/
def changeCore (process : Process) (change : Core → Core) : Process :=
  let (core, process) := process.detach
  { process with core := change core }

def changeMemory (process : Process) (change : Memory → Memory) : Process :=
  process.changeCore fun core =>
    let ⟨registers, memory⟩ := core
    ⟨registers, change memory⟩

/-- The exit code of a process that does what cannot be done, and of one that gives itself up. -/
def crashCode : Nat := 139

def abortCode : Nat := 134

/-- End the process, unless it has ended before. -/
def leave (process : Process) (leaving : Leaving) : Process :=
  if process.ended.isSome then process else { process with ended := some leaving }

/-- End the process at once. -/
def crash (process : Process) : Process := process.leave ⟨crashCode, false⟩

/-- Change memory, or crash where it may not be changed. -/
def changeMemory? (process : Process) (change : Memory → Option Memory) : Process :=
  let (core, process) := process.detach
  let ⟨registers, memory⟩ := core
  match change memory with
  | none => process.crash
  | some memory => { process with core := ⟨registers, memory⟩ }

/-- Write a value, or crash. -/
def write (process : Process) (width : Width) (address value : UInt64) : Process :=
  process.changeMemory? fun memory => memory.store? width address value

def tell (process : Process) (notice : Notice) : Process :=
  { process with outside := process.outside.tell notice }

def ask (process : Process) (question : Question) : Process :=
  { process with outside := process.outside.ask question }

def object? (process : Process) (id : ObjectId) : Option Object :=
  process.objects.find? (·.id = id)

def changeObject (process : Process) (id : ObjectId) (change : Object → Object) : Process :=
  { process with
    objects := process.objects.map fun object => if object.id = id then change object else object }

def objectAt? (process : Process) (address : UInt64) : Option Object :=
  process.objects.find? (·.holds address)

/-- The service at an address. -/
def service? (process : Process) (address : UInt64) : Option Service := do
  (← process.objectAt? address).service? address

/-- The path of an object. -/
def pathOf (process : Process) (id : ObjectId) : Bytes :=
  ((process.object? id).map Object.path).getD []

/-- The first multiple of an alignment that is not below an address. -/
def alignUp (address alignment : UInt64) : UInt64 :=
  if alignment ≤ 1 then address else (address + (alignment - 1)) / alignment * alignment

/-- Take so many addresses that have never been used, and a page after them that stays free. -/
def reserve (process : Process) (length alignment : UInt64) : UInt64 × Process :=
  let start := alignUp process.places.free (max alignment pageLength)
  let finish := alignUp (start + length) pageLength + pageLength
  (start, { process with places := { process.places with free := finish } })

/-- Memory of a length that may be read and written. -/
def plainRegion (start length : UInt64) (bytes : Bytes) : Region :=
  ⟨start, length, (Region.wordsOf bytes).toArray, ⟨true, true, false⟩⟩

end Process

end PluginHost
