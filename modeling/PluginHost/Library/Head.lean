import PluginHost.Bytes

/-!
# Heads of libraries

A shared library begins with a head that names the machine it is made for and leads to the table of
its segments. A file whose head or table is not in order cannot be loaded; what is found first is
told.
-/

namespace PluginHost.Library

/-- What keeps the content of a file from being loaded. -/
inductive ContentFault where
  | tooShort
  | noMagic
  | wordSize
  | byteOrder
  | formatVersion
  | system
  | systemVersion
  | padding
  | version
  | machine
  | kind
  | entrySize
  | tableNowhere
  | tableCutOff
  | misaligned
  | nothingToLoad
  | program
  | notDynamic
  | noRoom
  | noZeros
  | movableProgram
  | notOpenable
  deriving DecidableEq, Repr

namespace ContentFault

def text : ContentFault → String
  | tooShort => "file too short"
  | noMagic => "invalid ELF header"
  | wordSize => "wrong ELF class: ELFCLASS32"
  | byteOrder => "ELF file data encoding not little-endian"
  | formatVersion => "ELF file version ident does not match current one"
  | system => "ELF file OS ABI invalid"
  | systemVersion => "ELF file ABI version invalid"
  | padding => "nonzero padding in e_ident"
  | version => "ELF file version does not match current one"
  | machine => "cannot open shared object file: No such file or directory"
  | kind => "only ET_DYN and ET_EXEC can be loaded"
  | entrySize => "ELF file's phentsize not the expected size"
  | tableNowhere => "cannot read file data: Invalid argument"
  | tableCutOff => "cannot read file data"
  | misaligned => "ELF load command address/offset not page-aligned"
  | nothingToLoad => "object file has no loadable segments"
  | program => "cannot dynamically load executable"
  | notDynamic => "object file has no dynamic section"
  | noRoom => "failed to map segment from shared object"
  | noZeros => "cannot map zero-fill pages"
  | movableProgram => "cannot dynamically load position-independent executable"
  | notOpenable => "shared object cannot be dlopen()ed"

/-- A file for a machine of another kind is passed over while a library is looked for. -/
def isForeign : ContentFault → Bool
  | wordSize | machine => true
  | _ => false

end ContentFault

/-- A segment of a file, by its place in the file and in memory. -/
structure Segment where
  kind : Nat
  /-- What may be done with the bytes, as three bits: execute, write, read. -/
  rights : Nat
  offset : Nat
  address : Nat
  fileLength : Nat
  memoryLength : Nat
  alignment : Nat
  deriving DecidableEq, Repr

namespace Segment

/-- A segment to load, the one in which a library says what it needs and exports, the one that each
thread has for itself, and the one that is not written any more once the library is bound. -/
def loadedKind : Nat := 1

def dynamicKind : Nat := 2

def threadKind : Nat := 7

def sealedKind : Nat := 0x6474E552

def pageLength : Nat := 0x1000

/-- The number of bytes that describe a segment. -/
def rowLength : Nat := 56

def ofRow (row : Bytes) : Segment where
  kind := row.number 0 4
  rights := row.number 4 4
  offset := row.number 8 8
  address := row.number 16 8
  fileLength := row.number 32 8
  memoryLength := row.number 40 8
  alignment := row.number 48 8

/-- So many segments from a table. -/
def ofTable : Nat → Bytes → List Segment
  | 0, _ => []
  | count + 1, table => ofRow table :: ofTable count (table.drop rowLength)

def isLoaded (segment : Segment) : Bool := segment.kind = loadedKind

def isAligned (segment : Segment) : Bool :=
  segment.offset % pageLength = segment.address % pageLength

end Segment

namespace Head

/-- The number of bytes of a head. -/
def length : Nat := 64

def magic : Bytes := [0x7F, 0x45, 0x4C, 0x46]

/-- The number of a plain system, and of the one that has versions of its own. -/
def plainSystem : Nat := 0

def versionedSystem : Nat := 3

def isSystem (system : Nat) : Bool := system = plainSystem || system = versionedSystem

def isSystemVersion (system version : Nat) : Bool :=
  version = 0 || (system = versionedSystem && version < 4)

/-- The kinds of files that have segments to load: programs and libraries. -/
def programKind : Nat := 2

def libraryKind : Nat := 3

def isProgram (content : Bytes) : Bool := content.number 16 2 = programKind

def isLibrary (content : Bytes) : Bool := content.number 16 2 = libraryKind

def isForMachine (content : Bytes) : Bool := content.number 18 2 = 62

/-- What is wrong with the bytes that identify a file, after its magic and its word size. -/
def identityFault? (content : Bytes) : Option ContentFault :=
  let system := content.number 7 1
  if content.number 5 1 ≠ 1 then some .byteOrder
  else if content.number 6 1 ≠ 1 then some .formatVersion
  else if !isSystem system then some .system
  else if !isSystemVersion system (content.number 8 1) then some .systemVersion
  else if content.number 9 7 ≠ 0 then some .padding
  else none

/-- What is wrong with a head that is there. A file for another machine is not told what else is
wrong with its identity. -/
def fault? (content : Bytes) : Option ContentFault :=
  if content.length < length then some .tooShort
  else if content.take 4 ≠ magic then some .noMagic
  else if content.number 4 1 ≠ 2 then some .wordSize
  else
    match identityFault? content with
    | some fault => some (if isForMachine content then fault else .machine)
    | none =>
        if content.number 20 4 ≠ 1 then some .version
        else if !isForMachine content then some .machine
        else if !isLibrary content && !isProgram content then some .kind
        else if content.number 54 2 ≠ Segment.rowLength then some .entrySize
        else none

/-- So many bytes of a file are held in memory while its head is looked at. -/
def heldLength (content : Bytes) : Nat := min 832 content.length

/-- What stands in memory for so many bytes before the bytes that are held: their number, in the
last eight. -/
def before (distance held : Nat) : Bytes :=
  List.replicate (distance - 8) 0 ++ (Bytes.ofNumber 8 held).drop (8 - distance)

/-- Numbers for places in files stay below this. -/
def placeCount : Nat := 0x10000000000000000

/-- No place in a file is as far from its start. -/
def unreachable : Nat := 0x8000000000000000

/-- The bytes from the table of segments on. A place so high that the end of the table comes back to
the bytes held in memory is one before them. -/
def table (content : Bytes) : Except ContentFault Bytes :=
  let start := content.number 32 8
  let length := Segment.rowLength * content.number 56 2
  let held := heldLength content
  if (start + length) % placeCount ≤ held then
    if start < unreachable then .ok (content.drop start)
    else .ok (before (placeCount - start) held ++ content)
  else if unreachable ≤ start ∨ (length ≠ 0 ∧ unreachable ≤ start + length) then
    .error .tableNowhere
  else if length ≠ 0 ∧ content.length < start + length then .error .tableCutOff
  else .ok (content.drop start)

def segments (content : Bytes) : Except ContentFault (List Segment) := do
  return Segment.ofTable (content.number 56 2) (← table content)

end Head

end PluginHost.Library
