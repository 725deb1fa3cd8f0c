import PluginHost.Process.Closing

/-!
# Starting processes

A process begins with the program, the libraries that it needs, a stack, and room for what its
thread has for itself.
-/

namespace PluginHost

open Processor (Core Memory Register Registers Region)

namespace Process

/-! Where things are at the start. -/

def programPlace : UInt64 := 0x555555554000

def heapPlace : UInt64 := 0x555556000000

def heapLength : UInt64 := 0x40000000

def libraryPlace : UInt64 := 0x100A0000000

def threadLength : UInt64 := 0x10000000000

/-- Where the thread has what is its own: parts of objects come before this place. -/
def threadPlace : UInt64 := threadStart + threadLength - 0x1000

def stackLength : UInt64 := 0x800000

def stackStart : UInt64 := 0x7FFFFF000000

/-- So much lies on the stack before anything is called. -/
def stackUsed : UInt64 := 0x4000

/-- How many bytes of the thread libraries may take at fixed distances after the start. -/
def threadRoom : Nat := 1664

/-- Memory before anything is loaded. At the place of the thread stands that place itself, twice,
and a number that guards the stack. -/
def bareMemory (arguments : List Bytes) : Memory :=
  let own := Bytes.ofNumber 8 threadPlace.toNat
  let guard : Bytes := [0, 0x5A, 0xC3, 0x17, 0x9E, 0x44, 0xB2, 0x6D]
  let regions : List Region :=
    [plainRegion heapPlace heapLength [], plainRegion stackStart stackLength [],
      stringsRegion argumentTable arguments,
      plainRegion threadStart threadLength [], Library.CharacterTable.region]
  let memory : Memory := { Memory.empty with regions }
  ((memory.storeBytes? threadPlace (own ++ List.replicate 8 0 ++ own)).bind fun memory =>
    memory.storeBytes? (threadPlace + 0x28) guard).getD memory

def bareCore (arguments : List Bytes) : Core :=
  let registers : Registers := { Registers.initial with thread := threadPlace }
  (Core.mk registers (bareMemory arguments)).set Register.stack (stackStart + stackLength - stackUsed)

/-- A process without objects. -/
def bare (machine : Machine) (arguments : List Bytes) (outside : Outside) : Process where
  machine := machine
  arguments := arguments
  core := bareCore arguments
  objects := []
  nextId := 0
  places :=
    { free := programPlace
      heap := heapPlace
      heapEnd := heapPlace + heapLength
      token := 0
      thread := threadPlace
      threadRoom }
  outside := outside
  lent := none
  searchPath := []
  bindsNow := false
  unique := []
  farewells := []
  ended := none

/-- Let all objects be there for good. -/
def settle (process : Process) : Process :=
  { process with
    objects := process.objects.map fun object =>
      { object with isInitial := true, stays := true, roots := [], loader := none } }

/-- Add the program, the library that loads the others and, level by level, what the program needs.
All of them stay. -/
def addInitial (process : Process) : Process :=
  let machine := process.machine
  let (program, process) := process.addLibrary [] [[]] none none machine.program
  let process := { process with places := { process.places with free := libraryPlace } }
  let (_, process) := process.addLibrary machine.loaderPath [] none none machine.loader
  let limit := machine.files.entries.length + 1
  match gather program limit [program] [program] process with
  | .error _ => process
  | .ok (group, process) =>
      let (_, process) := process.addLibrary machine.systemName [] none none machine.systemPart
      (process.changeObject program fun object => { object with group, openings := 1 }).settle

/-! ## Libraries that are loaded before the program runs -/

/-- Tell that a library cannot be loaded before the program runs. -/
def tellPreloadFault (process : Process) (name : Bytes) (fault : LoadFault) : Process :=
  let quoted := s!"'{Text.Utf8.lossy name}' from LD_PRELOAD"
  process.tell <| .text <| Text.Utf8.encode <|
    s!"ERROR: ld.so: object {quoted} cannot be preloaded ({fault.bareText}): ignored.\n"

/-- Put the libraries of a list into memory, as far as that is possible. -/
def addPreloaded (process : Process) (names : List Bytes) : List ObjectId × Process :=
  names.foldl
    (fun (ids, process) name =>
      match process.openFile process.objects.head? name with
      | .error fault => (ids, process.tellPreloadFault name fault)
      | .ok (id, process) => (if ids.contains id then ids else ids ++ [id], process))
    ([], process)

/-- End the process because the program cannot be started. -/
def missStart (process : Process) (fault : LoadFault) : Process :=
  let text := s!"{programName}: {fault.occasion}: {fault.message}\n"
  (process.tell (.text (Text.Utf8.encode text))).leave ⟨unusableCode, false⟩

/-- Bind and start what is loaded before the program runs, or end the process. -/
def startPreloaded (process : Process) (order : List ObjectId) : Process :=
  match order.reverse.foldl bindObject (none, process) with
  | (some fault, process) => process.missStart fault
  | (none, process) =>
      match process.objects.head? with
      | some root => process.startAll root order
      | none => process

/-- Load libraries before the program runs: they come after the program, and before what it
needs. -/
def preload (process : Process) (names : List Bytes) : Process :=
  let (ids, opened) := process.addPreloaded names
  let before := opened.initialObjects
  let added := ids.filter (!before.contains ·)
  let first := before.take 1 ++ added
  let limit := opened.machine.files.entries.length + opened.objects.length + 1
  let gathered : Except LoadFault (List ObjectId × Process) := do
    let (group, process) ← gather (before.headD 0) limit added (first ++ before.drop 1) opened
    let order := process.ordered false group
    let process :=
      (process.changeObject (before.headD 0) fun object => { object with group }).settle
    process.checkGroup group
    return (order, process)
  match gathered with
  | .error fault => opened.missStart fault
  | .ok (order, process) => process.startPreloaded order

/-- What the variables say about libraries: where to look for them, whether their references are
bound when they are loaded, and which are loaded first. -/
structure LoadSettings where
  searchPath : Option Bytes
  bindsNow : Option Bytes
  preloaded : Option Bytes

def LoadSettings.ofEnvironment (environment : Environment) : LoadSettings where
  searchPath := environment.find? "LD_LIBRARY_PATH"
  bindsNow := environment.find? "LD_BIND_NOW"
  preloaded := environment.find? "LD_PRELOAD"

/-- The names of what is to be loaded before the program runs. -/
def LoadSettings.names (settings : LoadSettings) : List Bytes :=
  ((split Bytes.colon (settings.preloaded.getD [])).flatMap (split 32)).filter (· ≠ [])

/-- A bare process with what the program needs, which has been told its settings. -/
def furnished (settings : LoadSettings) (bare : Process) : Process :=
  let searchPath := match settings.searchPath with
    | none | some [] => []
    | some list =>
        bare.machine.directoriesOf bare.machine.origin [Bytes.colon, Bytes.semicolon] list
  { bare.addInitial with searchPath, bindsNow := settings.bindsNow.any (· ≠ []) }

/-- The start of a process, from the bare one on. -/
def startFrom (settings : LoadSettings) (bare : Process) : Process :=
  if settings.names = [] then furnished settings bare
  else (furnished settings bare).preload settings.names

/-- A process that has just been started. -/
def start (machine : Machine) (arguments : List Bytes) (stdout : Stdout)
    (environment : Environment) : Process :=
  startFrom (.ofEnvironment environment) (bare machine arguments (.initial stdout environment))

end Process

end PluginHost
