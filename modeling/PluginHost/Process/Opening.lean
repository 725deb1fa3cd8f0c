import PluginHost.Machine.Search
import PluginHost.Process.Order
import PluginHost.Process.Relocation

/-!
# Opening libraries

How a name or path leads to an object. One that is there already is taken again: it may bear the
name, or come from the same file. Else a file is looked for and put into memory, with all that it
needs, level by level; then all new objects are bound, those that are needed first, and started.
-/

namespace PluginHost

open Library (Image Segment)
open Processor (Memory Region Width)

namespace Object

/-- The name that an object bears in itself. -/
def ownName? (object : Object) (memory : Memory) : Option Bytes :=
  match object.body with
  | .library library => library.ownName
  | .image statements .. =>
      (statements.last? Statements.ownName).map fun offset => object.string memory offset

def isKnownAs (object : Object) (memory : Memory) (name : Bytes) : Bool :=
  object.path = name || object.names.contains name || object.ownName? memory = some name

/-- The names of what an object needs. -/
def neededNames (object : Object) (memory : Memory) : List Bytes :=
  match object.body with
  | .library library => library.needed
  | .image .. => object.strings memory Statements.needed

/-- The list of directories that is stated last for a tag, unless it is empty. -/
def directoryList? (object : Object) (memory : Memory) (tag : UInt64) : Option Bytes :=
  ((object.statements.last? tag).map (object.string memory)).filter (· ≠ [])

/-- Whether an object says where what it needs is to be looked for after the setting of the
process. -/
def searchesLater (object : Object) : Bool :=
  (object.statements.last? Statements.laterSearchPath).isSome

end Object

namespace Process

/-! ## Looking for files -/

/-- The directory by which an object's tokens are replaced; that of the program, if there is
none. -/
def originOf (process : Process) (object : Option Object) : Bytes :=
  match object with
  | some object =>
      if object.path = [] then process.machine.origin else process.machine.directoryOf object.path
  | none => process.machine.origin

/-- The directories in a list of an object. -/
def directoriesOf (process : Process) (object : Object) (list : Bytes) : List Bytes :=
  process.machine.directoriesOf (process.originOf (some object)) [Bytes.colon] list

/-- The directories that an object, and those for which it was loaded, say to be looked into
first. -/
def inheritedDirectories (process : Process) : Nat → Option Object → List (List Bytes)
  | count + 1, some object =>
      let own :=
        if object.searchesLater then none
        else object.directoryList? process.memory Statements.searchPath
      let above := process.inheritedDirectories count (object.loader.bind process.object?)
      (own.map (process.directoriesOf object)).toList ++ above
  | _, _ => []

/-- The lists of directories in which a name is looked for. -/
def directoryLists (process : Process) (needer : Option Object) : List (List Bytes) :=
  let first :=
    if needer.any Object.searchesLater then []
    else process.inheritedDirectories process.objects.length needer
  let later := match needer with
    | none => none
    | some object =>
        (object.directoryList? process.memory Statements.laterSearchPath).map
          (process.directoriesOf object)
  let system :=
    if needer.any (·.statements.avoidsSystem) then [] else [process.machine.libraryDirectories]
  first ++ [process.searchPath] ++ later.toList ++ system

/-- Look for the file for which a name or path stands. -/
def findFile (process : Process) (needer : Option Object) (name : Bytes) :
    Except LoadFault Found :=
  let machine := process.machine
  let found :=
    if name.contains Bytes.slash then
      machine.look .start (machine.expandIn (process.originOf needer) name)
    else machine.searchAll name .start (process.directoryLists needer)
  found.mapError (·.fault name)

/-! ## Putting libraries into memory -/

/-- The statements from an address on, at most so many. -/
def readStatements (memory : Memory) : Nat → UInt64 → Statements
  | 0, _ => []
  | count + 1, address =>
      match memory.load? .quad address, memory.load? .quad (address + 8) with
      | some tag, some value =>
          if tag = 0 then [] else (tag, value) :: readStatements memory count (address + 16)
      | _, _ => []

def mostStatements : Nat := 0x10000

/-- Take the part of the thread that a library asks for, below those that others have. One that is
longer than all of the thread has no place, and is not filled. -/
def takeThreadPart (process : Process) (base : UInt64) (segment : Segment) :
    ThreadPart × Process :=
  let alignment := max segment.alignment 1
  let highest := process.places.thread.toNat - segment.memoryLength
  let address := highest - (highest + alignment - segment.address % alignment) % alignment
  let isThere := threadStart.toNat ≤ address
  let part : ThreadPart :=
    { image := base + segment.address.toUInt64
      imageLength := if isThere then segment.fileLength else 0
      address := if isThere then address.toUInt64 else 0
      length := segment.memoryLength
      isFixed := false }
  (part,
    if isThere then
      { process with places := { process.places with thread := address.toUInt64 } }
    else process)

/-- Add an object that is not bound and not started yet. -/
def addObject (process : Process) (path : Bytes) (names : List Bytes) (place : Option Place)
    (loader : Option Object) (base first length : UInt64) (body : Body) : ObjectId × Process :=
  let id := process.nextId
  let object : Object :=
    { id, path, names, place, base, first, length, body
      loader := loader.map Object.id
      roots := [((loader.bind fun object => object.roots.getLast?)).getD id]
      needs := none
      group := []
      openings := 0
      bonds := []
      isInitial := false
      stays := false
      isBound := false
      isStarted := false
      isRemoved := false }
  (id, { process with objects := process.objects ++ [object], nextId := id + 1 })

/-- Put an image into memory. What its statements forbid is found then. -/
def addImage (process : Process) (found : Found) (name : Bytes) (needer : Option Object)
    (image : Image) : Except LoadFault (ObjectId × Process) :=
  let alignment := Segment.greatestAlignment image.segments
  let (first, process) := process.reserve image.length.toUInt64 alignment.toUInt64
  let base := first - image.start.toUInt64
  let process := process.changeMemory fun memory =>
    { memory with regions := image.regions base ++ memory.regions }
  let statements := readStatements process.memory mostStatements (base + image.dynamic.toUInt64)
  if statements.isProgram then .error (.content found.path .movableProgram)
  else if statements.isNotOpenable then .error (.content found.path .notOpenable)
  else
    let (thread, process) := match image.thread with
      | none => (none, process)
      | some segment =>
          let (part, process) := process.takeThreadPart base segment
          (some part, process)
    let (id, process) := process.addObject found.path [name] (some found.place) needer base first
      image.length.toUInt64 (.image statements thread image.sealed)
    .ok (id, process.changeObject id fun object => { object with stays := statements.stays })

/-- Put a library that is not stored into memory, which holds nothing but its cells. -/
def addLibrary (process : Process) (path : Bytes) (names : List Bytes) (place : Option Place)
    (needer : Option Object) (library : Library) : ObjectId × Process :=
  let length := (library.exports.length + 1).toUInt64 * Object.serviceDistance
  let (first, process) := process.reserve length pageLength
  let (id, process) := process.addObject path names place needer first first length
    (.library library)
  let region : Region := { plainRegion first length [] with access := ⟨true, true, false⟩ }
  let cells := library.exports.zipIdx.filterMap fun (entry, index) =>
    match entry.2 with
    | .cell value => some (first + (index + 1).toUInt64 * Object.serviceDistance, value)
    | _ => none
  let process := process.changeMemory fun memory =>
    cells.foldl (fun memory (address, value) => memory.poke .quad address value)
      (memory.addRegion region)
  (id, process.changeObject id fun object => { object with isBound := true })

/-- The object for which a name or path stands, put into memory if it is not there. -/
def openFile (process : Process) (needer : Option Object) (name : Bytes) :
    Except LoadFault (ObjectId × Process) := do
  match process.objects.find? fun object => object.isKnownAs process.memory name with
  | some object => return (object.id, process)
  | none =>
      let found ← process.findFile needer name
      match process.objects.find? fun object => object.place = some found.place with
      | some object =>
          let process := process.changeObject object.id fun object =>
            { object with names := name :: object.names }
          return (object.id, process)
      | none =>
          match found.entry with
          | .directory => throw (.cannotRead found.path .isADirectory)
          | .unreadable reason => throw (.cannotRead found.path reason)
          | .closed reason => throw (.cannotOpen found.path reason)
          | .file _ (some library) =>
              return process.addLibrary found.path [name] (some found.place) needer library
          | .file content none =>
              match Image.ofContent content with
              | .error fault => throw (.content found.path fault)
              | .ok image => process.addImage found name needer image

/-! ## What libraries need -/

/-- Open what an object needs, in order. -/
def openNeeds (process : Process) (object : Object) : Except LoadFault (List ObjectId × Process) :=
  (object.neededNames process.memory).foldlM
    (fun (ids, process) name => do
      let name := process.machine.expandIn (process.originOf (some object)) name
      let (id, process) ← process.openFile (some object) name
      return (ids ++ [id], process))
    ([], process)

/-- Open what the objects of a list need, and go on with what that needs, level by level. The list
that comes back begins with the root. -/
def gather (root : ObjectId) :
    Nat → List ObjectId → List ObjectId → Process → Except LoadFault (List ObjectId × Process)
  | 0, _, gathered, process => .ok (gathered, process)
  | _, [], gathered, process => .ok (gathered, process)
  | count + 1, id :: rest, gathered, process => do
      let some object := process.object? id | gather root count rest gathered process
      let (ids, process) ← process.openNeeds object
      let added := (ids.eraseDups).filter fun id => !gathered.contains id
      let isNew := id ≠ root && object.needs.isNone && object.group.isEmpty
      let process :=
        if isNew then process.changeObject id fun object => { object with needs := some ids }
        else process
      gather root count (rest ++ added) (gathered ++ added) process

/-! ## Versions -/

/-- Whether an object defines a version of itself. One that defines none has all. -/
def hasVersion (process : Process) (object : Object) (version : Version) : Bool :=
  match object.body with
  | .library library => library.versions = [] || library.versions.contains version.name
  | .image .. =>
      (object.stated? Statements.versions).isNone ||
        (object.definedVersions process.memory).any (·.version = version)

/-- Check that what an object needs defines the versions that it needs. -/
def checkVersions (process : Process) (object : Object) : Except LoadFault Unit :=
  (object.neededVersions process.memory).forM fun needed =>
    match process.objects.find? fun other => other.isKnownAs process.memory needed.library with
    | none => .ok ()
    | some other =>
        if needed.isWeak || process.hasVersion other needed.version then .ok ()
        else .error (.noVersion other.path needed.version.name object.path)

/-! ## Starting -/

/-- Call a function with what the program was started with. -/
def startAt (process : Process) (address : UInt64) : Process :=
  (process.call address
    [process.arguments.length.toUInt64, argumentTable, variableTable]).2

/-- The addresses in a list that statements lead to. -/
def addressList (process : Process) (object : Object) (table length : UInt64) : List UInt64 :=
  match object.stated? table with
  | none => []
  | some table =>
      (List.range (object.length? length / 8)).map fun index =>
        process.memory.peek .quad (table + 8 * index.toUInt64)

/-- Call functions, as long as the process has not ended. Each address is read when it is its
turn. -/
def startList (process : Process) (object : Object) (table length : UInt64) : Process :=
  (List.range (process.addressList object table length).length).foldl
    (fun process index =>
      if process.ended.isSome then process
      else
        match (process.addressList object table length)[index]? with
        | some address => process.startAt address
        | none => process)
    process

/-- Start an object, unless that has been done. -/
def startObject (process : Process) (id : ObjectId) : Process :=
  match process.object? id with
  | none => process
  | some object =>
      if object.isStarted || process.ended.isSome then process
      else
        let process := process.changeObject id fun object => { object with isStarted := true }
        let process := match object.stated? Statements.start with
          | some address => process.startAt address
          | none => process
        process.startList object Statements.starts Statements.startsLength

/-- Fill an object's part of the thread. -/
def fillThreadPart (process : Process) (object : Object) : Process :=
  match object.body with
  | .image _ (some part) _ =>
      let bytes := process.memory.bytes part.image (min part.imageLength part.length)
      process.changeMemory? fun memory => memory.storeBytes? part.address bytes
  | _ => process

/-- Bind a new object, unless there has been a fault. -/
def bindObject (bound : Bound) (id : ObjectId) : Bound :=
  let (fault, process) := bound
  match process.object? id with
  | none => bound
  | some object =>
      if fault.isSome || object.isBound || process.ended.isSome then bound
      else
        match process.relocateAll object with
        | (some fault, process) => (some fault, process)
        | (none, process) => (none, process.fillThreadPart object)

/-- Let the references of objects that have been started before also be looked for in a new
group. -/
def widen (process : Process) (root : ObjectId) (group : List ObjectId) : Process :=
  { process with
    objects := process.objects.map fun object =>
      if group.contains object.id && object.isStarted && !object.roots.contains root then
        { object with roots := object.roots ++ [root] }
      else object }

/-- Start the objects of an order, the last first; before them one that wants to be the first, and
what the root wants to be done early. -/
def startAll (process : Process) (root : Object) (order : List ObjectId) : Process :=
  let isFirst (id : ObjectId) : Bool :=
    (process.object? id).any fun object => !object.isStarted && object.statements.startsFirst
  let first := (order.filter isFirst).max?
  let process := (first.map process.startObject).getD process
  let process := process.startList root Statements.earlyStarts Statements.earlyStartsLength
  order.reverse.foldl startObject process

/-- Check the versions that the new objects of a group need. -/
def checkGroup (process : Process) (group : List ObjectId) : Except LoadFault Unit :=
  let isNew (id : ObjectId) : Bool := (process.object? id).any (!·.isBound)
  (group.filter isNew).forM fun id => ((process.object? id).map process.checkVersions).getD (.ok ())

/-- Put all that an object needs into memory, and tell the group that this makes and its order. -/
def gatherFor (process : Process) (root : ObjectId) :
    Except LoadFault ((List ObjectId × List ObjectId) × Process) := do
  let limit := process.machine.files.entries.length + process.objects.length + 1
  let (group, process) ← gather root limit [root] [root] process
  let order := process.orderedFrom root group
  let process := process.changeObject root fun object =>
    { object with group, needs := some order.tail }
  process.checkGroup group
  return ((group, order), process)

/-- Bind the objects of a group, those that are needed first, and start them. -/
def bindGroup (process : Process) (root : ObjectId) (group order : List ObjectId) : Bound :=
  match order.reverse.foldl bindObject (none, process) with
  | (some fault, process) => (some fault, process)
  | (none, process) =>
      let process := process.widen root group
      match process.object? root with
      | some object => (none, process.startAll object order)
      | none => (none, process)

/-- What code has done to the outside, and that it has ended the process, stays done when the
objects are taken away for which it ran. -/
def after (process done : Process) : Process :=
  { process with outside := done.outside, ended := done.ended }

/-- Prepare a library that has been put into memory to be used: with all that it needs, bound and
started. Where that fails all is taken away again. -/
def prepare (before process : Process) (root : ObjectId) : Except LoadFault ObjectId × Process :=
  match process.gatherFor root with
  | .error fault => (.error fault, before)
  | .ok ((group, order), process) =>
      match process.bindGroup root group order with
      | (some fault, process) => (.error fault, before.after process)
      | (none, process) => (.ok root, process)

/-- Open a library by its name or path. -/
def openLibrary (process : Process) (name : Bytes) : Except LoadFault ObjectId × Process :=
  match process.openFile none name with
  | .error fault => (.error fault, process)
  | .ok (id, opened) =>
      let opened := opened.changeObject id fun object =>
        { object with openings := object.openings + 1 }
      match (opened.object? id).map Object.group with
      | some [] => process.prepare opened id
      | _ => (.ok id, opened)

/-! ## Symbols of open libraries -/

/-- The address of a name in the group of an object. -/
def symbolAddress? (process : Process) (id : ObjectId) (name : Bytes) :
    Option UInt64 × Process :=
  let wanted : Wanted :=
    { name, version := none, isStrict := false, isCalled := false, isNewest := true }
  match process.lookup wanted (((process.object? id).map Object.group).getD []) with
  | (none, process) => (none, process)
  | (some found, process) =>
      if found.kind = Symbol.threadKind then (some (process.threadAddressOf found 0), process)
      else
        let (address, process) := process.lead (some found)
        (some address, process)

end Process

end PluginHost
