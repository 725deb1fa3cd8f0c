/-!
# Routines

Functions of the C library that machine code can call, by what they do.
-/

namespace PluginHost.Library

/-- What a copy or an append answers with: where it began, or where it ended. -/
inductive CopyAnswer where
  | start
  | finish
  deriving DecidableEq, Repr

/-- How two strings are compared. -/
structure Comparison where
  /-- Whether small and big letters are the same. -/
  folds : Bool
  /-- Whether the third argument bounds what is compared. -/
  isBounded : Bool
  deriving DecidableEq, Repr

/-- What is looked for in a string. -/
inductive Search where
  | firstByte
  | lastByte
  /-- The first byte, or else the end. -/
  | byteOrEnd
  | firstString (folds : Bool)
  | anyOf
  deriving DecidableEq, Repr

/-- Where a text that is put together goes. -/
inductive TextTarget where
  /-- What the library keeps for standard output. -/
  | output
  /-- The stream, or the file by its number, that is named first. -/
  | stream
  | file
  /-- Memory, bounded by the second argument or not. -/
  | memory (isBounded : Bool)
  deriving DecidableEq, Repr

/-- The classes of characters. -/
inductive CharacterClass where
  | alphanumeric
  | alphabetic
  | ascii
  | blank
  | control
  | digit
  | graphic
  | small
  | printable
  | punctuation
  | space
  | capital
  | hexadecimal
  deriving DecidableEq, Repr

/-- Tables with a value for each character. -/
inductive CharacterTable where
  | classes
  | small
  | capital
  deriving DecidableEq, Repr

inductive Routine where
  | copyBytes (answer : CopyAnswer)
  | fillBytes
  | clearBytes
  | compareBytes
  | findByte
  | findByteBackward
  | findByteSurely
  | length
  | boundedLength
  | compare (comparison : Comparison)
  | search (what : Search)
  | span (ofMembers : Bool)
  | copy (answer : CopyAnswer)
  | boundedCopy (answer : CopyAnswer)
  | append
  | boundedAppend
  | duplicate
  | boundedDuplicate
  | nextToken (hasPlace : Bool)
  | toNumber
  | readNumber (signed : Bool)
  | absolute (isLong : Bool)
  | classify (characterClass : CharacterClass)
  | changeCase (table : CharacterTable)
  /-- Tell where the address of a table stands. -/
  | characterTable (table : CharacterTable)
  | allocate
  | allocateCleared
  | reallocate
  | release
  | writeFile
  | readFile
  | putLine
  | putByte
  | putByteTo
  | putString
  | putBytes
  /-- Print the arguments that follow a format, or those that a list after it leads to. -/
  | print (target : TextTarget) (isChecked isListed : Bool)
  | flush
  | exit
  | exitAtOnce
  /-- Find the value of a variable. -/
  | variable
  /-- Register what is to be called before the end. -/
  | addFarewell
  /-- Call what a library has registered. -/
  | bidFarewell
  | abort
  | errorPlace
  | threadAddress
  | answer (value : UInt64)
  deriving DecidableEq, Repr

end PluginHost.Library
