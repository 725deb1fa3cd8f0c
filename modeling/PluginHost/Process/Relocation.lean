import PluginHost.Process.Run

/-!
# Relocation

A library that has been put into memory lists the places that depend on where it is and on what its
references are bound to. They are written in the order of the list, those of functions that choose
others last. Functions that are only called may be bound when they are called first.
-/

namespace PluginHost

open Processor (Memory Register Width)

/-- Kinds of relocations. -/
inductive RelocationKind where
  | nothing
  /-- A value in eight bytes, with the addend. -/
  | whole
  /-- A distance from the place, in four bytes. -/
  | distance
  /-- The content of what the reference is bound to. -/
  | content
  /-- A value without the addend, which may be called or not. -/
  | value (isCalled : Bool)
  /-- The base with the addend. -/
  | base
  /-- A value in four bytes. -/
  | half
  /-- The number of the object whose part of the thread is meant, the place in it, and its distance
  from where the thread has what is its own. -/
  | threadNumber
  | threadPlace
  | threadDistance
  /-- A function that tells such a distance, with what it tells. -/
  | threadPair
  | size (isWhole : Bool)
  /-- The function that a function at the base with the addend chooses. -/
  | chosen
  deriving DecidableEq, Repr

namespace RelocationKind

def ofNumber? (number : Nat) : Option RelocationKind :=
  match number with
  | 0 => some nothing
  | 1 => some whole
  | 2 => some distance
  | 5 => some content
  | 6 => some (value false)
  | 7 => some (value true)
  | 8 | 38 => some base
  | 10 => some half
  | 16 => some threadNumber
  | 17 => some threadPlace
  | 18 => some threadDistance
  | 32 => some (size false)
  | 33 => some (size true)
  | 36 => some threadPair
  | 37 => some chosen
  | _ => none

/-- Whether a reference of the kind is bound as one that is called. -/
def isCalled : RelocationKind → Bool
  | value isCalled => isCalled
  | threadNumber | threadPlace | threadDistance | threadPair => true
  | _ => false

end RelocationKind

namespace Process

/-- The number by which the part of the thread of an object is known in memory. -/
def threadNumberOf (object : ObjectId) : UInt64 := object.toUInt64 + 1

/-- The part of the thread that belongs to an object. -/
def threadPart? (process : Process) (object : ObjectId) : Option ThreadPart :=
  match (process.object? object).map Object.body with
  | some (.image _ part _) => part
  | _ => none

/-- Where something in an object's part of the thread is. -/
def threadAddressOf (process : Process) (definition : Definition) (addend : UInt64) : UInt64 :=
  ((process.threadPart? definition.object).map ThreadPart.address).getD 0 + definition.value +
    addend

/-- Take room for an object's part of the thread at a fixed distance, once. -/
def takeThreadRoom? (process : Process) (object : ObjectId) : Option Process :=
  match process.threadPart? object with
  | none => some process
  | some part =>
      if part.isFixed then some process
      else if process.places.threadRoom < part.length then none
      else
        let room := process.places.threadRoom - part.length
        let process := { process with places := { process.places with threadRoom := room } }
        some <| process.changeObject object fun object =>
          match object.body with
          | .image statements (some part) sealed =>
              { object with body := .image statements (some { part with isFixed := true }) sealed }
          | _ => object

/-- How far something in an object's part of the thread is from where the thread has what is its
own. An object for which there is no room left there cannot be loaded. -/
def threadDistanceOf (process : Process) (path : Bytes) (definition : Definition)
    (addend : UInt64) : Except LoadFault (UInt64 × Process) :=
  match process.takeThreadRoom? definition.object with
  | none => .error (.noThreadRoom path)
  | some process =>
      .ok (process.threadAddressOf definition addend - process.core.registers.thread, process)

/-- Copy the content of what a reference is bound to. -/
def copyContent (process : Process) (place : UInt64) (symbol : Symbol)
    (found : Option Definition) : Process :=
  match found with
  | none => process
  | some definition =>
      let length := (min symbol.size definition.size).toNat
      let bytes := process.memory.bytes (process.addressOf definition) length
      process.changeMemory? fun memory => memory.storeBytes? place bytes

/-- Tell that a value does not fit into its place. -/
def tellOverflow (process : Process) (symbol : Symbol) (name : String) : Process :=
  let quoted := "`" ++ Text.Utf8.lossy symbol.name ++ "'"
  process.tell <| .text <| Text.Utf8.encode <|
    s!"{programName}: Symbol {quoted} causes overflow in {name} relocation\n"

/-- Write a value in four bytes. -/
def writeHalf (process : Process) (place value : UInt64) (symbol : Symbol) (fits : Bool)
    (name : String) : Process :=
  let process := process.write .double place value
  if fits then process else process.tellOverflow symbol name

/-- Tell of a function that chooses another one, and that is called before its own object is
bound. -/
def tellEarlyChoice (process : Process) (object : Object) (symbol : Symbol)
    (found : Option Definition) : Process :=
  match found with
  | none => process
  | some definition =>
      let isBound := (process.object? definition.object).any Object.isBound
      if definition.kind ≠ Symbol.choosingKind || definition.object = object.id || isBound then
        process
      else
        let quoted (bytes : Bytes) := "`" ++ Text.Utf8.lossy bytes ++ "'"
        let path := quoted (process.pathOf definition.object)
        process.tell <| .text <| Text.Utf8.encode <|
          s!"{programName}: Relink {quoted object.path} with {path} " ++
            s!"for IFUNC symbol {quoted symbol.name}\n"

/-- What has come of binding: how the process goes on, and the fault if it has failed. -/
abbrev Bound := Option LoadFault × Process

/-- Write what a relocation asks for that leads to a definition. -/
def relocateTo (process : Process) (object : Object) (relocation : Relocation)
    (kind : RelocationKind) (symbol : Symbol) (found : Option Definition) : Process :=
  let place := object.base + relocation.offset
  let addend := relocation.addend
  let (value, process) := (process.tellEarlyChoice object symbol found).lead found
  match kind with
  | .whole => process.write .quad place (value + addend)
  | .value _ => process.write .quad place value
  | .distance =>
      let distance := value + addend - place
      process.writeHalf place distance symbol
        (Width.double.signed distance = distance) "R_X86_64_PC32"
  | .half =>
      let value := value + addend
      process.writeHalf place value symbol (value ≤ 0xFFFFFFFF) "R_X86_64_32"
  | _ => process

/-- Write what a relocation asks for that concerns a part of the thread, the content or the size of
what its symbol is bound to. -/
def relocateBound (process : Process) (object : Object) (relocation : Relocation)
    (kind : RelocationKind) (symbol : Symbol) (found : Option Definition) : Bound :=
  let place := object.base + relocation.offset
  let addend := relocation.addend
  let write (process : Process) (value : UInt64) : Process := process.write .quad place value
  match kind with
  | .threadNumber =>
      match found with
      | some definition => (none, write process (threadNumberOf definition.object))
      | none => (none, process)
  | .threadPlace =>
      match found with
      | some definition => (none, write process (definition.value + addend))
      | none => (none, process)
  | .threadDistance =>
      match found with
      | some definition =>
          match process.threadDistanceOf object.path definition addend with
          | .error fault => (some fault, process)
          | .ok (distance, process) => (none, write process distance)
      | none => (none, process)
  | .threadPair =>
      let process := write process Gate.threadDistance.address
      match found with
      | some definition =>
          let distance :=
            process.threadAddressOf definition addend - process.core.registers.thread
          (none, process.write .quad (place + 8) distance)
      | none => (none, process.write .quad (place + 8) addend)
  | .content => (none, process.copyContent place symbol found)
  | .size isWhole =>
      let size := ((found.map Definition.size).getD 0) + addend
      if isWhole then (none, write process size)
      else (none, process.writeHalf place size symbol (size ≤ 0xFFFFFFFF) "R_X86_64_32")
  | _ => (none, process.relocateTo object relocation kind symbol found)

/-- Write what a relocation by a symbol asks for. -/
def relocateBySymbol (process : Process) (object : Object) (relocation : Relocation)
    (kind : RelocationKind) (symbol : Symbol) : Bound :=
  match process.bind object relocation.index symbol kind.isCalled with
  | .error fault => (some fault, process)
  | .ok (found, process) => process.relocateBound object relocation kind symbol found

/-- Write what a relocation asks for. -/
def relocate (process : Process) (object : Object) (relocation : Relocation) : Bound :=
  let place := object.base + relocation.offset
  match RelocationKind.ofNumber? relocation.kind with
  | none => (some (.strangeRelocation object.path relocation.kind false), process)
  | some .nothing => (none, process)
  | some .base => (none, process.write .quad place (object.base + relocation.addend))
  | some .chosen =>
      let (value, process) := process.call (object.base + relocation.addend) []
      (none, process.write .quad place value)
  | some kind =>
      match object.symbol? process.memory relocation.index with
      | none => (none, process.crash)
      | some symbol => process.relocateBySymbol object relocation kind symbol

/-- Write what a relocation asks for that is put off: an address that leads to where the function is
bound when it is called. -/
def putOff (process : Process) (object : Object) (relocation : Relocation) : Bound :=
  let place := object.base + relocation.offset
  match RelocationKind.ofNumber? relocation.kind with
  | some (.value true) =>
      match process.memory.load? .quad place with
      | none => (none, process.crash)
      | some value => (none, process.write .quad place (value + object.base))
  | some .chosen | some .threadPair => process.relocate object relocation
  | _ => (some (.strangeRelocation object.path relocation.kind true), process)

/-! ## Lists of relocations -/

/-- A stretch of rows in memory, of which some at the start only need the base. -/
structure RelocationList where
  start : UInt64
  length : UInt64
  plain : Nat
  isPutOff : Bool

namespace RelocationList

/-- The relocations of a list; those that choose functions come last. -/
def all (list : RelocationList) (memory : Memory) : List Relocation :=
  let count := (list.length / relocationLength).toNat
  let rows := (List.range count).filterMap fun index =>
    relocation? memory (list.start + relocationLength * index.toUInt64)
  let isLate (relocation : Relocation) : Bool :=
    RelocationKind.ofNumber? relocation.kind = some .chosen
  let first := rows.take list.plain
  let rest := rows.drop list.plain
  first ++ rest.filter (!isLate ·) ++ rest.filter isLate

end RelocationList

/-- The lists of an object. Two that lie one behind the other are one, unless one is put off; one
that lies at the end of the other does not count twice. -/
def relocationLists (object : Object) (isPutOff : Bool) : List RelocationList :=
  let start := (object.stated? Statements.relocations).getD 0
  let length :=
    if start = 0 then 0 else (object.length? Statements.relocationsLength).toUInt64
  let plain :=
    if start = 0 then 0 else object.length? Statements.plainRelocations
  let later := (object.stated? Statements.laterRelocations).getD 0
  let laterLength := (object.length? Statements.laterLength).toUInt64
  if (object.statements.last? Statements.laterKind).isNone then [⟨start, length, plain, false⟩]
  else
    let length := if start + length = later + laterLength then length - laterLength else length
    if !isPutOff && start + length = later then [⟨start, length + laterLength, plain, false⟩]
    else [⟨start, length, plain, false⟩, ⟨later, laterLength, 0, isPutOff⟩]

/-- Add the base to a word in memory. -/
def addBase (process : Process) (base place : UInt64) : Process :=
  match process.memory.load? .quad place with
  | none => process.crash
  | some value => process.write .quad place (value + base)

/-- Carry out relocations that only add the base and are listed in a packed form: an even word is a
place; the bits of an odd one tell which of the words after it are meant. -/
def relocatePacked (process : Process) (object : Object) : Process :=
  match object.stated? Statements.packed with
  | none => process
  | some table =>
      let count := object.length? Statements.packedLength / 8
      let (_, process) := (List.range count).foldl
        (fun (place, process) index =>
          let entry := process.memory.peek .quad (table + 8 * index.toUInt64)
          if entry &&& 1 = 0 then
            let place : UInt64 := object.base + entry
            (place + 8, process.addBase object.base place)
          else
            let process := (List.range 63).foldl
              (fun process bit =>
                if (entry >>> (bit + 1).toUInt64) &&& 1 = 1 then
                  process.addBase object.base (place + 8 * bit.toUInt64)
                else process)
              process
            (place + 63 * 8, process))
        ((0 : UInt64), process)
      process

/-- Write into the table through which functions are called how they are bound: the mark of the
object, and where to go. -/
def prepareTable (process : Process) (object : Object) : Process :=
  match object.stated? Statements.firstSlot, object.stated? Statements.laterRelocations with
  | _, none => process
  | none, some _ => process.crash
  | some table, some _ =>
      (process.write .quad (table + 8) object.first).write .quad (table + 16) Gate.binding.address

/-- Let the memory of an object be written, also where that is not intended. -/
def openForWriting (process : Process) (object : Object) : Process :=
  process.changeMemory fun memory =>
    { memory with
      regions := memory.regions.map fun region =>
        if object.holds region.start then
          { region with access := { region.access with isReadable := true, isWritable := true } }
        else region }

/-- Let only that be written which was to be written before. -/
def closeForWriting (process : Process) (before : Memory) : Process :=
  process.changeMemory fun memory =>
    { memory with
      regions := memory.regions.map fun region =>
        match before.regions.find? (·.start = region.start) with
        | some old => { region with access := old.access }
        | none => region }

/-- Let a stretch of memory only be read: the regions that have a part of it are covered. -/
def cover (memory : Memory) (start finish : UInt64) : Memory :=
  let covers := memory.regions.filterMap fun region =>
    let low := max start region.start
    let high := min finish (region.start + region.length)
    if low < high then
      let words := region.wordsBetween (low - region.start).toNat (high - region.start).toNat
      some ⟨low, high - low, words, ⟨true, false, false⟩⟩
    else none
  { memory with regions := covers ++ memory.regions }

/-- What stands at so many addresses around an object is there, too. -/
def neighbourhood : UInt64 := 0x10000

/-- Let the whole pages of what is not written any more only be read. They must be there. -/
def closeSealed (process : Process) (object : Object) : Except LoadFault Process :=
  match object.body with
  | .image _ _ (some segment) =>
      let address := object.base + segment.address.toUInt64
      let start := address / pageLength * pageLength
      let finish := (address + segment.memoryLength.toUInt64) / pageLength * pageLength
      let last := object.first + object.length + neighbourhood
      if start = finish then .ok process
      else if start < finish && object.first ≤ start && finish ≤ last then
        .ok (process.changeMemory fun memory => cover memory start finish)
      else .error (.cannotSeal object.path)
  | _ => .ok process

/-- Carry out the relocations of a list, up to the first fault. -/
def relocateList (object : Object) (bound : Bound) (list : RelocationList) : Bound :=
  (list.all bound.2.memory).foldl
    (fun (fault, process) relocation =>
      if fault.isSome || process.ended.isSome then (fault, process)
      else if list.isPutOff then process.putOff object relocation
      else process.relocate object relocation)
    bound

/-- Close what was opened for writing while an object was bound. -/
def closeBound (process : Process) (object : Object) (before : Memory) : Bound :=
  let process := if object.statements.isRewritten then process.closeForWriting before else process
  let process := process.changeObject object.id fun object => { object with isBound := true }
  if process.ended.isSome then (none, process)
  else
    match process.closeSealed object with
    | .error fault => (some fault, process)
    | .ok process => (none, process)

/-- Carry out all relocations of an object. -/
def relocateAll (process : Process) (object : Object) : Bound :=
  let isPutOff := !process.bindsNow && !object.statements.isBoundNow
  let before := process.memory
  let process := if object.statements.isRewritten then process.openForWriting object else process
  let process := if isPutOff then process.prepareTable object else process
  let process := process.relocatePacked object
  match (relocationLists object isPutOff).foldl (relocateList object) (none, process) with
  | (some fault, process) => (some fault, process)
  | (none, process) => process.closeBound object before

end Process

end PluginHost
