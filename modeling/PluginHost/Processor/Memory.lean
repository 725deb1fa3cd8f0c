import PluginHost.Bytes
import PluginHost.Processor.Width
import Std.Data.TreeMap

/-!
# Memory

The memory of a process: regions of addresses, each with the words that it begins with, and what
has been changed since. A word has eight bytes, the lowest first. A region begins at a multiple of
eight and holds zeros after its words.
-/

namespace PluginHost.Processor

/-- What may be done with the bytes of a region. -/
structure Access where
  isReadable : Bool
  isWritable : Bool
  isExecutable : Bool
  deriving DecidableEq, Repr

structure Region where
  start : UInt64
  length : UInt64
  words : Array UInt64
  access : Access

namespace Region

def holds (region : Region) (address : UInt64) : Bool :=
  region.start ≤ address && address - region.start < region.length

/-- The word that some bytes make; after them come zeros. -/
def wordOf (bytes : Bytes) : UInt64 :=
  bytes.foldr (fun byte value => (value <<< 8) ||| byte.toUInt64) 0

/-- The words that bytes make, one behind the other. -/
def wordsOf : Bytes → List UInt64
  | a :: b :: c :: d :: e :: f :: g :: h :: rest => wordOf [a, b, c, d, e, f, g, h] :: wordsOf rest
  | [] => []
  | few => [wordOf few]

/-- The word at an offset, which is zero after the last. -/
def wordAt (region : Region) (offset : Nat) : UInt64 := region.words.getD (offset / 8) 0

/-- The words from one offset to another. -/
def wordsBetween (region : Region) (first last : Nat) : Array UInt64 :=
  region.words.extract (first / 8) ((last + 7) / 8)

end Region

/-- Of several regions that hold an address the first counts. -/
structure Memory where
  regions : List Region
  /-- Words that are not what they were at first, by their address divided by eight. -/
  changed : Std.TreeMap UInt64 UInt64

namespace Memory

def empty : Memory := ⟨[], {}⟩

def region? (memory : Memory) (address : UInt64) : Option Region :=
  memory.regions.find? (·.holds address)

/-- Whether so many bytes from an address on are there and may be used in a way. -/
def allows (memory : Memory) (use : Access → Bool) (address : UInt64) (length : Nat) : Bool :=
  let last := address + (length.toUInt64 - 1)
  match memory.region? address with
  | none => false
  | some region =>
      use region.access &&
        (region.holds last || (memory.region? last).any fun other => use other.access)

/-- The word with a number: eight bytes at a multiple of eight. -/
def word (memory : Memory) (number : UInt64) : UInt64 :=
  match memory.changed[number]? with
  | some word => word
  | none =>
      match memory.region? (number <<< 3) with
      | none => 0
      | some region => region.wordAt ((number <<< 3) - region.start).toNat

/-- The distance of an address from the word that holds it, in bits. -/
def shift (address : UInt64) : UInt64 := (address &&& 7) <<< 3

/-- Whether a value at an address goes on in the next word. -/
def goesOn (width : Width) (address : UInt64) : Bool := 64 < shift address + width.bits

/-- The value at an address, whether or not it may be read. -/
def peek (memory : Memory) (width : Width) (address : UInt64) : UInt64 :=
  let low := memory.word (address >>> 3) >>> shift address
  if goesOn width address then
    width.cut (low ||| (memory.word ((address >>> 3) + 1) <<< (64 - shift address)))
  else width.cut low

/-- Change some bits of a word. -/
def change (memory : Memory) (number mask value : UInt64) : Memory :=
  let word := (memory.word number &&& ~~~mask) ||| (value &&& mask)
  { memory with changed := memory.changed.insert number word }

/-- Change the value at an address, whether or not it may be written. -/
def poke (memory : Memory) (width : Width) (address value : UInt64) : Memory :=
  let number := address >>> 3
  let distance := shift address
  let memory := memory.change number (width.mask <<< distance) (value <<< distance)
  if goesOn width address then
    memory.change (number + 1) (width.mask >>> (64 - distance))
      (width.cut value >>> (64 - distance))
  else memory

def load? (memory : Memory) (width : Width) (address : UInt64) : Option UInt64 :=
  if memory.allows Access.isReadable address width.length then some (memory.peek width address)
  else none

def store? (memory : Memory) (width : Width) (address value : UInt64) : Option Memory :=
  if memory.allows Access.isWritable address width.length then
    some (memory.poke width address value)
  else none

/-- The bytes from an address on that are there, up to a number of them, last first. -/
def bytesBackward (memory : Memory) : Nat → UInt64 → Bytes → Bytes
  | 0, _, found => found
  | count + 1, address, found =>
      match memory.load? .byte address with
      | none => found
      | some value => bytesBackward memory count (address + 1) (value.toUInt8 :: found)

/-- So many bytes from an address on, or as many of them as may be read. -/
def bytes (memory : Memory) (address : UInt64) (count : Nat) : Bytes :=
  (memory.bytesBackward count address []).reverse

/-- No string is as long. -/
def stringLimit : Nat := 0x1000000

/-- The bytes from an address to the next NUL, last first, if they may all be read. -/
def stringBackward (memory : Memory) : Nat → UInt64 → Bytes → Option Bytes
  | 0, _, _ => none
  | count + 1, address, found =>
      match memory.load? .byte address with
      | none => none
      | some 0 => some found
      | some value => stringBackward memory count (address + 1) (value.toUInt8 :: found)

/-- The string at an address. -/
def string? (memory : Memory) (address : UInt64) : Option Bytes :=
  (memory.stringBackward stringLimit address []).map List.reverse

/-- Write bytes from an address on. -/
def storeBytes? (memory : Memory) (address : UInt64) : Bytes → Option Memory
  | [] => some memory
  | byte :: rest =>
      match memory.store? .byte address byte.toUInt64 with
      | none => none
      | some memory => storeBytes? memory (address + 1) rest

def addRegion (memory : Memory) (region : Region) : Memory :=
  { memory with regions := region :: memory.regions }

/-- Take away the regions that begin in a stretch of addresses. -/
def removeRegions (memory : Memory) (start length : UInt64) : Memory :=
  { memory with
    regions := memory.regions.filter fun region => !(region.start - start < length) }

end Memory

end PluginHost.Processor
