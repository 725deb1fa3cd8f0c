import PluginHost.Process.Routine.Basic

/-!
# Characters

The classes of characters, and the tables in which programs look them up: of the classes that a
character is in, and of the small and the big letters that go with it. The tables have a value for
each number from -128 to 255.
-/

namespace PluginHost

open Library (CharacterClass CharacterTable)
open Processor (Region Width)

namespace Library.CharacterClass

def isDigit (byte : UInt8) : Bool := 48 ≤ byte && byte ≤ 57

def isSmall (byte : UInt8) : Bool := 97 ≤ byte && byte ≤ 122

def isCapital (byte : UInt8) : Bool := 65 ≤ byte && byte ≤ 90

def isSpace (byte : UInt8) : Bool := byte = 32 || (9 ≤ byte && byte ≤ 13)

def isGraphic (byte : UInt8) : Bool := 33 ≤ byte && byte ≤ 126

def isAlphanumeric (byte : UInt8) : Bool := isDigit byte || isSmall byte || isCapital byte

/-- The characters of a class. -/
def holds (characterClass : CharacterClass) (byte : UInt8) : Bool :=
  match characterClass with
  | alphanumeric => isAlphanumeric byte
  | alphabetic => isSmall byte || isCapital byte
  | ascii => byte < 128
  | blank => byte = 32 || byte = 9
  | control => byte < 32 || byte = 127
  | digit => isDigit byte
  | graphic => isGraphic byte
  | small => isSmall byte
  | printable => 32 ≤ byte && byte ≤ 126
  | punctuation => isGraphic byte && !isAlphanumeric byte
  | space => isSpace byte
  | capital => isCapital byte
  | hexadecimal =>
      isDigit byte || (65 ≤ byte && byte ≤ 70) || (97 ≤ byte && byte ≤ 102)

/-- The class of characters that lies at each bit of a mark. -/
def places : List (UInt64 × CharacterClass) :=
  [(0x001, blank), (0x002, control), (0x004, punctuation), (0x008, alphanumeric), (0x100, capital),
    (0x200, small), (0x400, alphabetic), (0x800, digit), (0x1000, hexadecimal), (0x2000, space),
    (0x4000, printable), (0x8000, graphic), (1, ascii)]

/-- What is answered of a character that is in the class. -/
def mark (characterClass : CharacterClass) : UInt64 :=
  ((places.find? fun place => place.2 = characterClass).map Prod.fst).getD 1

/-- The marks of all classes that a character is in, but for the one that has no bit of its own. -/
def marks (byte : UInt8) : UInt64 :=
  places.foldl
    (fun marks place =>
      if place.2 ≠ .ascii && place.2.holds byte then marks ||| place.1 else marks)
    0

end Library.CharacterClass

namespace Library.CharacterTable

open CharacterClass (isSmall isCapital)

/-- The width of a value in a table. -/
def width : CharacterTable → Width
  | classes => .word
  | small | capital => .double

def smallLetter (byte : UInt8) : UInt8 := if isCapital byte then byte + 32 else byte

def capitalLetter (byte : UInt8) : UInt8 := if isSmall byte then byte - 32 else byte

/-- What stands for a character. -/
def valueOf (table : CharacterTable) (byte : UInt8) : UInt64 :=
  match table with
  | classes => CharacterClass.marks byte
  | small => (smallLetter byte).toUInt64
  | capital => (capitalLetter byte).toUInt64

/-- What stands for -1, which is the end of a file and no character. -/
def endValue : CharacterTable → UInt64
  | classes => 0
  | small | capital => Width.double.mask

/-- The values of a table. Below zero stands what is in the upper half of the bytes. -/
def values (table : CharacterTable) : List UInt64 :=
  let upper := (List.range 127).map fun index => table.valueOf (index.toUInt8 + 128)
  let all := (List.range 256).map fun index => table.valueOf index.toUInt8
  upper ++ table.endValue :: all

/-- The value for a number. -/
def value? (table : CharacterTable) (number : Int) : Option UInt64 :=
  if -128 ≤ number && number < 256 then table.values[(number + 128).toNat]? else none

/-! Where the tables are in memory: first where each begins, at the value for zero, and then their
values. -/

def tablePlace : UInt64 := 0x7DFF00000000

def all : List CharacterTable := [classes, small, capital]

def number : CharacterTable → UInt64
  | classes => 0
  | small => 1
  | capital => 2

/-- Where the address of a table stands. -/
def place (table : CharacterTable) : UInt64 := tablePlace + 8 * table.number

/-- The distance between the values of one table and those of the next. -/
def tableLength : UInt64 := 0x800

def start (table : CharacterTable) : UInt64 := tablePlace + (table.number + 1) * tableLength

def bytes (table : CharacterTable) : Bytes :=
  let values := table.values.flatMap fun value => Bytes.ofNumber table.width.length value.toNat
  values ++ List.replicate (tableLength.toNat - values.length) 0

def content : Bytes :=
  let places := all.flatMap fun table =>
    Bytes.ofNumber 8 (table.start + 128 * table.width.length.toUInt64).toNat
  let head := places ++ List.replicate (tableLength.toNat - places.length) 0
  head ++ all.flatMap bytes

/-- The memory in which all tables are. -/
def region : Region :=
  ⟨tablePlace, 4 * tableLength, (Region.wordsOf content).toArray, ⟨true, false, false⟩⟩

end Library.CharacterTable

namespace Process

def classify (process : Process) (characterClass : CharacterClass) : Performed :=
  let value := (process.argument 0).toUInt32
  let isInside := value < 256 && characterClass.holds value.toUInt8
  some (if isInside then characterClass.mark else 0, process)

/-- Make a character small or big; other numbers stay as they are. -/
def changeCase (process : Process) (table : CharacterTable) : Performed :=
  let value := process.argument 0
  some ((table.value? (Width.double.toInt value)).getD value, process)

end Process

end PluginHost
