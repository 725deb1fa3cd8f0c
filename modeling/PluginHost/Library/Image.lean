import PluginHost.Library.Head
import PluginHost.Processor.Memory

/-!
# Images of libraries

The image of a library is what its file becomes in memory: its segments, each at its distance from
an address that is chosen when the library is loaded.
-/

namespace PluginHost.Library

open Processor (Access Region)

structure Image where
  content : Bytes
  /-- The segments to load, in the order of the table. -/
  segments : List Segment
  /-- The address of the dynamic section. -/
  dynamic : Nat
  /-- What each thread has for itself. -/
  thread : Option Segment
  /-- What is not written any more once the library is bound. -/
  sealed : Option Segment

namespace Segment

/-- The last multiple of a page that is not above a number, and the first not below it. -/
def pageBelow (address : Nat) : Nat := address - address % pageLength

def pageAbove (address : Nat) : Nat := pageBelow (address + (pageLength - 1))

def start (segment : Segment) : Nat := pageBelow segment.address

/-- Where the bytes end that a segment has in the file. After the last address comes zero. -/
def fileEnd (segment : Segment) : Nat := (segment.address + segment.fileLength) % Head.placeCount

/-- From here on, addresses in an image are those below its base. -/
def below : Nat := Head.placeCount - 0x400000000000

/-- Where the bytes end that a segment has in memory. -/
def memoryEnd (segment : Segment) : Nat :=
  let address := (segment.address + segment.memoryLength) % Head.placeCount
  if below ≤ address then 0 else address

/-- Where the pages end that show the file at a segment. -/
def finish (segment : Segment) : Nat := pageAbove segment.fileEnd % Head.placeCount

/-- Where the pages end that belong to a segment. -/
def memoryFinish (segment : Segment) : Nat :=
  max segment.finish (pageAbove segment.memoryEnd)

/-- Whether so many bytes can be shown from the place of a segment in the file. -/
def isReachable (segment : Segment) (length : Nat) : Bool :=
  pageBelow segment.offset + pageAbove length < Head.unreachable

/-- How much of the file can be seen at a segment: whole pages. -/
def shownLength (segment : Segment) : Nat := segment.finish - segment.start

/-- The bytes of a file that are shown at a segment, over so many bytes. Zeros stand where the
segment goes on after what it has in the file. -/
def shown (segment : Segment) (content : Bytes) (length : Nat) : Bytes :=
  let bytes := (content.drop (pageBelow segment.offset)).take length
  let fileEnd := segment.fileEnd - segment.start
  let memoryEnd := segment.memoryEnd - segment.start
  if fileEnd < memoryEnd then
    bytes.take fileEnd ++ List.replicate (min memoryEnd bytes.length - fileEnd) 0 ++
      bytes.drop memoryEnd
  else bytes

/-- What may be done with a segment. What may be written or executed may be read. -/
def access (segment : Segment) : Access where
  isReadable := segment.rights % 8 ≠ 0
  isWritable := segment.rights / 2 % 2 = 1
  isExecutable := segment.rights % 2 = 1

/-- The region of a segment that shows so many bytes of a file, in an image whose addresses begin at
a base and end before a last one. -/
def region (segment : Segment) (content : Bytes) (length : Nat) (base : UInt64) (last : Nat) :
    Region where
  start := base + segment.start.toUInt64
  length := (min (max (segment.start + length) segment.memoryFinish) last - segment.start).toUInt64
  words := (Region.wordsOf (segment.shown content length)).toArray
  access := segment.access

/-- The address of the dynamic section. Of several the last counts that is in the file, and no
library has one at the address zero. -/
def dynamicAddress (segments : List Segment) : Nat :=
  let found := segments.filter fun segment =>
    segment.kind = Segment.dynamicKind && segment.fileLength ≠ 0
  (found.getLast?.map Segment.address).getD 0

/-- What each thread has for itself; nothing, if it has no length. -/
def threadSegment? (segments : List Segment) : Option Segment :=
  (segments.filter fun segment =>
    segment.kind = Segment.threadKind && segment.memoryLength ≠ 0).getLast?

/-- What is not written any more once the library is bound; nothing, if the last one has no
length. -/
def sealedSegment? (segments : List Segment) : Option Segment :=
  (segments.filter (·.kind = Segment.sealedKind)).getLast?.filter (·.memoryLength ≠ 0)

/-- The greatest alignment of the segments. What is no power of two is none. -/
def greatestAlignment (segments : List Segment) : Nat :=
  let isPower (number : Nat) : Bool := number &&& (number - 1) = 0
  ((segments.map alignment).filter isPower).foldl max 0

end Segment

namespace Image

/-- No stretch of memory that is free is as long. -/
def roomLength : Nat := 0x550000000000

/-- The length of a stretch of memory, from the start of one segment to the end of another. -/
def stretch (first last : Segment) : Nat :=
  (last.address + last.memoryLength + Head.placeCount - first.start) % Head.placeCount

/-- The length of the stretch that is asked for, in which one of a length can be aligned. -/
def roomFor (alignment length : Nat) : Nat :=
  if alignment ≤ Segment.pageLength then length
  else (if alignment ≤ length then length + alignment else 2 * alignment) % Head.placeCount

/-- Whether each segment ends where the next one starts. -/
def isGapless : List Segment → Bool
  | first :: second :: rest => first.finish = second.start && isGapless (second :: rest)
  | _ => true

/-- No address is as far after an image. -/
def farLength : Nat := 0x10000000000

/-- What keeps zeros from being put after what a segment has in the file, in an image that ends at
an address. -/
def zerosFault? (finish : Nat) (segment : Segment) : Option ContentFault :=
  if segment.finish < segment.memoryFinish && finish + farLength ≤ segment.memoryFinish then
    some .noZeros
  else none

/-- What keeps a segment from being put into its place. -/
def placeFault? (finish : Nat) (segment : Segment) : Option ContentFault :=
  if segment.shownLength ≠ 0 && !segment.isReachable segment.shownLength then some .noRoom
  else zerosFault? finish segment

/-- What keeps segments from being put into memory. One stretch is taken for all of them, and then
each is put into its place. With gaps between them, the last must come after the first. -/
def memoryFault? (segments : List Segment) : Option ContentFault :=
  match segments.head?, segments.getLast? with
  | some first, some last =>
      let length := stretch first last
      let room := roomFor (Segment.greatestAlignment segments) length
      if length = 0 || room = 0 || roomLength ≤ room || !first.isReachable length then some .noRoom
      else if !isGapless segments && last.start < first.finish then some .misaligned
      else
        let finish := first.start + length
        (zerosFault? finish first).or (segments.tail.findSome? (placeFault? finish))
  | _, _ => some .nothingToLoad

/-- The image of a file, or what is found wrong with it first. -/
def ofContent (content : Bytes) : Except ContentFault Image := do
  if let some fault := Head.fault? content then throw fault
  let segments ← Head.segments content
  let loaded := segments.filter Segment.isLoaded
  let dynamic := Segment.dynamicAddress segments
  if !loaded.all Segment.isAligned then throw .misaligned
  else if loaded.isEmpty then throw .nothingToLoad
  else if Head.isProgram content then throw .program
  else if dynamic = 0 then throw .notDynamic
  else if let some fault := memoryFault? loaded then throw fault
  else
    return ⟨content, loaded, dynamic, Segment.threadSegment? segments,
      Segment.sealedSegment? segments⟩

/-- The distance of the first page of an image from its base, and the length of all its pages. -/
def start (image : Image) : Nat := (image.segments.head?.map Segment.start).getD 0

def length (image : Image) : Nat :=
  match image.segments.head?, image.segments.getLast? with
  | some first, some last => Segment.pageAbove (stretch first last)
  | _, _ => 0

/-- How much of the file a segment shows. The only one shows as much as the image is long. -/
def shownLength (image : Image) (segment : Segment) : Nat :=
  if image.segments.length = 1 then image.length else segment.shownLength

/-- The regions of an image. What comes later in the table covers what came before, and nothing goes
on after the last page of the image. -/
def regions (image : Image) (base : UInt64) : List Region :=
  (image.segments.map fun segment =>
    segment.region image.content (image.shownLength segment) base
      (image.start + image.length)).reverse

end Image

end PluginHost.Library
