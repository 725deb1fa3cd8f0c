import PluginHost.Process.Basic

/-!
# Symbols of objects

A stored library lists its symbols in a table, with their names in the table of strings. A name is
looked for by a number computed from it, in one of two forms of table. Symbols may belong to
versions of their library, and so may what another library asks for.
-/

namespace PluginHost

open Processor (Memory Width)

/-- A row of a table of symbols. -/
structure Symbol where
  name : Bytes
  binding : Nat
  kind : Nat
  reach : Nat
  part : Nat
  value : UInt64
  size : UInt64
  deriving DecidableEq, Repr

namespace Symbol

/-- The number of bytes that describe a symbol. -/
def rowLength : UInt64 := 24

/-- The number for no part of the file at all, and the one for a value that does not move. -/
def noPart : Nat := 0

def fixedPart : Nat := 0xFFF1

/-! Kinds: what each thread has for itself, and a function that chooses another one. -/

def threadKind : Nat := 6

def choosingKind : Nat := 10

/-- Kinds: none, object, function, common object, thread object, choosing function. -/
def namedKinds : List Nat := [0, 1, 2, 5, threadKind, choosingKind]

/-! Bindings: seen by nobody else, by all, by all if there is nothing better, and only once. -/

def localBinding : Nat := 0

def globalBinding : Nat := 1

def weakBinding : Nat := 2

def uniqueBinding : Nat := 10

def sharedBindings : List Nat := [globalBinding, weakBinding, uniqueBinding]

/-! Reaches: not beyond the library in two degrees, and beyond it without being replaced. -/

def innerReach : Nat := 1

def hiddenReach : Nat := 2

def protectedReach : Nat := 3

def isHidden (symbol : Symbol) : Bool := symbol.reach = innerReach || symbol.reach = hiddenReach

def isFixed (symbol : Symbol) : Bool := symbol.part = fixedPart

/-- Whether a symbol says where something is. What is to be called must be in the library. -/
def isDefinition (symbol : Symbol) (isCalled : Bool) : Bool :=
  (symbol.value ≠ 0 || symbol.isFixed || symbol.kind = threadKind) &&
    !(isCalled && symbol.part = noPart) && namedKinds.contains symbol.kind

/-- Whether others may be bound to the symbol. -/
def isShared (symbol : Symbol) : Bool := !symbol.isHidden && sharedBindings.contains symbol.binding

end Symbol

/-- A version of a library, with the number under which it is compared first. -/
structure Version where
  number : UInt64
  name : Bytes
  deriving DecidableEq, Repr

/-- A name that is looked for. -/
structure Wanted where
  name : Bytes
  version : Option Version
  /-- Whether a symbol without a version is not good for one that is asked for. -/
  isStrict : Bool
  /-- Whether it is looked for in order to be called. -/
  isCalled : Bool
  /-- Whether the newest version is good if none is asked for; else the oldest is. -/
  isNewest : Bool

namespace Object

/-- The string at an offset in the table of strings. -/
def string (object : Object) (memory : Memory) (offset : UInt64) : Bytes :=
  ((object.stated? Statements.strings).bind fun table => memory.string? (table + offset)).getD []

/-- The strings whose offsets are stated for a tag. -/
def strings (object : Object) (memory : Memory) (tag : UInt64) : List Bytes :=
  (object.statements.all tag).map (object.string memory)

/-- The symbol with a number. -/
def symbol? (object : Object) (memory : Memory) (index : UInt64) : Option Symbol := do
  let row := (← object.stated? Statements.symbols) + Symbol.rowLength * index
  let name ← memory.load? .double row
  let what ← memory.load? .byte (row + 4)
  let reach ← memory.load? .byte (row + 5)
  let part ← memory.load? .word (row + 6)
  let value ← memory.load? .quad (row + 8)
  let size ← memory.load? .quad (row + 16)
  return ⟨object.string memory name, (what >>> 4).toNat, (what &&& 15).toNat, (reach &&& 3).toNat,
    part.toNat, value, size⟩

/-! ## Tables of names -/

/-- The number of a name in a plain table. -/
def plainNumber (name : Bytes) : UInt64 :=
  name.foldl
    (fun number byte =>
      let number := (number <<< 4) + byte.toUInt64
      let high := number &&& 0xF0000000
      ((number ^^^ (high >>> 24)) &&& ~~~high) &&& 0xFFFFFFFF)
    0

/-- The number of a name in a table of chains. -/
def chainedNumber (name : Bytes) : UInt64 :=
  name.foldl (fun number byte => (number * 33 + byte.toUInt64) &&& 0xFFFFFFFF) 5381

/-- No list of symbols under one number is longer. -/
def longestList : Nat := 0x10000

/-- The symbols in a list of a plain table: each leads to the next. -/
def plainList (memory : Memory) (links : UInt64) : Nat → UInt64 → List UInt64
  | 0, _ => []
  | _, 0 => []
  | count + 1, index =>
      index :: plainList memory links count (memory.peek .double (links + 4 * index))

/-- The symbols that a plain table has under the number of a name. -/
def plainCandidates (memory : Memory) (table : UInt64) (name : Bytes) : List UInt64 :=
  let count := memory.peek .double table
  if count = 0 then []
  else
    let heads : UInt64 := table + 8
    let first := memory.peek .double (heads + 4 * (plainNumber name % count))
    plainList memory (heads + 4 * count) longestList first

/-- The symbols in a chain whose numbers are that of the name, but for the lowest bit, which marks
the end. -/
def chainedList (memory : Memory) (chains number : UInt64) : Nat → UInt64 → List UInt64
  | 0, _ => []
  | count + 1, index =>
      let word := memory.peek .double (chains + 4 * index)
      let rest := if word &&& 1 = 1 then [] else chainedList memory chains number count (index + 1)
      if (word ^^^ number) >>> 1 = 0 then index :: rest else rest

/-- The symbols that a table of chains has under the number of a name. A filter comes first: two
bits in one of its words show that there may be any. -/
def chainedCandidates (memory : Memory) (table : UInt64) (name : Bytes) : List UInt64 :=
  let number := chainedNumber name
  let count := memory.peek .double table
  let first := memory.peek .double (table + 4)
  let filterCount := memory.peek .double (table + 8)
  let distance := memory.peek .double (table + 12)
  let place : UInt64 := (number >>> 6) &&& (filterCount - 1)
  let filter := memory.peek .quad (table + 16 + 8 * place)
  let isThere (place : UInt64) : Bool := (filter >>> (place &&& 63)) &&& 1 = 1
  if count = 0 || !isThere number || !isThere (number >>> (distance &&& 31)) then []
  else
    let heads := table + 16 + 8 * filterCount
    let chains := heads + 4 * count - 4 * first
    match memory.peek .double (heads + 4 * (number % count)) with
    | 0 => []
    | index => chainedList memory chains number longestList index

/-- The symbols that may bear a name. -/
def candidates (object : Object) (memory : Memory) (name : Bytes) : List UInt64 :=
  match object.stated? Statements.chainedHash, object.stated? Statements.hash with
  | some table, _ => chainedCandidates memory table name
  | none, some table => plainCandidates memory table name
  | none, none => []

/-! ## Versions -/

/-- The number of the version of a symbol, and whether that is hidden from those who ask for
none. -/
def versionNumber? (object : Object) (memory : Memory) (index : UInt64) : Option (UInt64 × Bool) :=
  let stated := [Statements.versions, Statements.versionsNeeded].filterMap object.stated?
  match object.stated? Statements.versionNumbers, stated with
  | some table, _ :: _ =>
      let word := memory.peek .word (table + 2 * index)
      some (word &&& 0x7FFF, word &&& 0x8000 ≠ 0)
  | _, _ => none

/-- A row in a list of which each row says how far the next one is. -/
def rows (memory : Memory) (nextPlace : UInt64) : Nat → UInt64 → List UInt64
  | 0, _ => []
  | count + 1, address =>
      match memory.peek .double (address + nextPlace) with
      | 0 => [address]
      | distance => address :: rows memory nextPlace count (address + distance)

/-- No list of versions is longer. -/
def longestVersions : Nat := 0x1000

/-- A version that a library defines of itself. -/
structure DefinedVersion where
  index : UInt64
  version : Version
  /-- Whether it stands for the library as a whole, and not for a version of symbols. -/
  isBase : Bool

def definedVersions (object : Object) (memory : Memory) : List DefinedVersion :=
  match object.stated? Statements.versions with
  | none => []
  | some table =>
      (rows memory 16 longestVersions table).map fun row =>
        let name := memory.peek .double (row + memory.peek .double (row + 12))
        { index := memory.peek .word (row + 4) &&& 0x7FFF
          version := ⟨memory.peek .double (row + 8), object.string memory name⟩
          isBase := memory.peek .word (row + 2) &&& 1 = 1 }

/-- A version that is needed of another library. -/
structure NeededVersion where
  library : Bytes
  index : UInt64
  version : Version
  /-- Whether it may be missing. -/
  isWeak : Bool
  isHidden : Bool

def neededVersions (object : Object) (memory : Memory) : List NeededVersion :=
  match object.stated? Statements.versionsNeeded with
  | none => []
  | some table =>
      (rows memory 12 longestVersions table).flatMap fun row =>
        let library := object.string memory (memory.peek .double (row + 4))
        (rows memory 12 longestVersions (row + memory.peek .double (row + 8))).map fun entry =>
          let index := memory.peek .word (entry + 6)
          { library
            index := index &&& 0x7FFF
            version :=
              ⟨memory.peek .double entry, object.string memory (memory.peek .double (entry + 8))⟩
            isWeak := memory.peek .word (entry + 4) &&& 2 ≠ 0
            isHidden := index &&& 0x8000 ≠ 0 }

/-- The version that an index stands for in a library, and whether that is hidden. A version whose
number is zero is none. -/
def version? (object : Object) (memory : Memory) (index : UInt64) : Option (Version × Bool) :=
  let defined := (object.definedVersions memory).filter fun row => row.index = index && !row.isBase
  let needed := (object.neededVersions memory).filter (·.index = index)
  let found := match defined.getLast?, needed.getLast? with
    | some row, _ => some (row.version, false)
    | none, some row => some (row.version, row.isHidden)
    | none, none => none
  found.filter fun found => found.1.number ≠ 0

/-! ## Finding symbols -/

/-- What a candidate is for one who looks for a name: the symbol, one of several versions of it, or
something else. -/
inductive Match where
  | whole
  | oneVersion
  | other

def matchOf (object : Object) (memory : Memory) (wanted : Wanted) (index : UInt64)
    (symbol : Symbol) : Match :=
  if !symbol.isDefinition wanted.isCalled || symbol.name ≠ wanted.name then .other
  else
    match object.versionNumber? memory index, wanted.version with
    | none, _ => .whole
    | some (own, isHidden), some version =>
        match object.version? memory own with
        | some (own, _) => if own = version then .whole else .other
        | none => if isHidden || wanted.isStrict then .other else .whole
    | some (own, isHidden), none =>
        if own < (if wanted.isNewest then 2 else 3) then .whole
        else if isHidden then .other
        else .oneVersion

/-- The first symbol that is meant, or the only version of one. -/
def select (object : Object) (memory : Memory) (wanted : Wanted) :
    List UInt64 → List Symbol → Option Symbol
  | [], [only] => some only
  | [], _ => none
  | index :: rest, versions =>
      match object.symbol? memory index with
      | none => select object memory wanted rest versions
      | some symbol =>
          match object.matchOf memory wanted index symbol with
          | .whole => some symbol
          | .oneVersion => select object memory wanted rest (symbol :: versions)
          | .other => select object memory wanted rest versions

/-- The definition that an object has for a name, with its binding. -/
def find? (object : Object) (memory : Memory) (wanted : Wanted) : Option (Definition × Nat) :=
  match object.body with
  | .library library =>
      let isKnown :=
        library.versions = [] ||
          wanted.version.all fun version => library.versions.contains version.name
      if !isKnown then none
      else
        (library.index? wanted.name).map fun index =>
          (⟨object.id, 2, false, object.serviceAddress index - object.base, 8⟩,
            Symbol.globalBinding)
  | .image .. =>
      match object.select memory wanted (object.candidates memory wanted.name) [] with
      | some symbol =>
          if symbol.isShared then
            some (⟨object.id, symbol.kind, symbol.isFixed, symbol.value, symbol.size⟩,
              symbol.binding)
          else none
      | none => none

end Object

namespace Process

/-- The first definition of a name in some objects. One of which there is only one is the same
wherever it is found, and its library stays. -/
def lookup (process : Process) (wanted : Wanted) :
    List ObjectId → Option Definition × Process
  | [] => (none, process)
  | id :: rest =>
      let object? := (process.object? id).filter (!·.isRemoved)
      match object?.bind fun object => object.find? process.memory wanted with
      | none => lookup process wanted rest
      | some (definition, binding) =>
          if binding ≠ Symbol.uniqueBinding then (some definition, process)
          else
            match process.unique.lookup wanted.name with
            | some known => (some known, process)
            | none =>
                let unique := (wanted.name, definition) :: process.unique
                (some definition,
                  { process with unique }.changeObject id fun object =>
                    { object with stays := true })

/-- Where a definition is. -/
def addressOf (process : Process) (definition : Definition) : UInt64 :=
  if definition.isFixed then definition.value
  else (((process.object? definition.object).map Object.base).getD 0) + definition.value

/-- The objects that are there for all: the program, which is the first, and its group. -/
def initialObjects (process : Process) : List ObjectId :=
  (process.objects.head?.map Object.group).getD []

end Process

end PluginHost
