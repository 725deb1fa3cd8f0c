/-!
# Statements of libraries

What a stored library says of itself in its dynamic section: a list of statements, each a tag and a
value.
-/

namespace PluginHost

/-- The statements of a dynamic section. -/
abbrev Statements := List (UInt64 × UInt64)

namespace Statements

/-! Tags of statements. -/

def needed : UInt64 := 1

def laterLength : UInt64 := 2

def firstSlot : UInt64 := 3

def hash : UInt64 := 4

def strings : UInt64 := 5

def symbols : UInt64 := 6

def relocations : UInt64 := 7

def relocationsLength : UInt64 := 8

def start : UInt64 := 12

def finish : UInt64 := 13

def ownName : UInt64 := 14

def searchPath : UInt64 := 15

def bindsSelf : UInt64 := 16

def laterKind : UInt64 := 20

def rewritesCode : UInt64 := 22

def laterRelocations : UInt64 := 23

def bindsNow : UInt64 := 24

def starts : UInt64 := 25

def finishes : UInt64 := 26

def startsLength : UInt64 := 27

def finishesLength : UInt64 := 28

def laterSearchPath : UInt64 := 29

def flags : UInt64 := 30

def earlyStarts : UInt64 := 32

def earlyStartsLength : UInt64 := 33

def packedLength : UInt64 := 35

def packed : UInt64 := 36

def chainedHash : UInt64 := 0x6FFFFEF5

def versionNumbers : UInt64 := 0x6FFFFFF0

def plainRelocations : UInt64 := 0x6FFFFFF9

def moreFlags : UInt64 := 0x6FFFFFFB

def versions : UInt64 := 0x6FFFFFFC

def versionsNeeded : UInt64 := 0x6FFFFFFE

/-- All values that are stated for a tag. -/
def all (statements : Statements) (tag : UInt64) : List UInt64 :=
  (statements.filter (·.1 = tag)).map Prod.snd

/-- The value that is stated last for a tag. -/
def last? (statements : Statements) (tag : UInt64) : Option UInt64 :=
  (statements.all tag).getLast?

def hasFlag (statements : Statements) (tag flag : UInt64) : Bool :=
  (statements.last? tag).any fun flags => flags &&& flag ≠ 0

/-! Flags, of which there are two words. -/

/-- Symbols are looked for in the library itself first. -/
def prefersSelf (statements : Statements) : Bool :=
  (statements.last? bindsSelf).isSome || statements.hasFlag flags 0x2

/-- What may not be written otherwise is written while the library is bound. -/
def isRewritten (statements : Statements) : Bool :=
  (statements.last? rewritesCode).isSome || statements.hasFlag flags 0x4

/-- Nothing is bound later. -/
def isBoundNow (statements : Statements) : Bool :=
  (statements.last? bindsNow).isSome || statements.hasFlag flags 0x8 ||
    statements.hasFlag moreFlags 0x1

/-- The library stays when nobody needs it any more. -/
def stays (statements : Statements) : Bool := statements.hasFlag moreFlags 0x8

/-- The library is started before those that it needs. -/
def startsFirst (statements : Statements) : Bool := statements.hasFlag moreFlags 0x20

/-- A library that is not to be opened by a running program. -/
def isNotOpenable (statements : Statements) : Bool := statements.hasFlag moreFlags 0x40

/-- What the library needs is not looked for in the directories of the system. -/
def avoidsSystem (statements : Statements) : Bool := statements.hasFlag moreFlags 0x800

def programFlag : UInt64 := 0x8000000

def isProgram (statements : Statements) : Bool := statements.hasFlag moreFlags programFlag

end Statements

end PluginHost
