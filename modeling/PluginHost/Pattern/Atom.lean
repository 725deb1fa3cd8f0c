import PluginHost.Pattern.Modes
import PluginHost.Text.Hexadecimal

/-!
# Atoms of patterns

Characters, escapes and places. Some can be read but not used: no table of Unicode is at hand that
tells its letters, their cases and its word characters, and a pattern that is about bytes must not
match a part of a character.
-/

namespace PluginHost.Pattern

open PluginHost.Text

inductive Atom where
  /-- A character, which may be written as the number of a byte. -/
  | literal (char : Char) (isByte : Bool)
  /-- Any character of a line. -/
  | anything
  /-- A digit, a blank or a word character, or a character that is none. -/
  | shorthand (negated : Bool)
  /-- A place, which may be one that depends on word characters. -/
  | place (atWord : Bool)
  deriving DecidableEq, Repr

namespace Atom

def isAscii (char : Char) : Bool := char.toNat < 0x80

def isSupported (modes : Modes) : Atom → Bool
  | literal char isByte => if modes.unicode then !modes.ignoreCase else isAscii char || !isByte
  | anything => modes.unicode
  | shorthand negated => !modes.unicode && !negated
  | place atWord => !(modes.unicode && atWord)

/-- In a set only characters and shorthands have a meaning. -/
def isSupportedInSet (modes : Modes) : Atom → Bool
  | literal char _ => if modes.unicode then !modes.ignoreCase else isAscii char
  | shorthand negated => !modes.unicode && !negated
  | anything | place _ => false

/-- Small and capital letters are alike in numbers. -/
def hexValue? (char : Char) : Option Nat := Hexadecimal.digitValue? char.toLower

/-- Read so many hexadecimal digits, after a number read before. -/
def readHex (modes : Modes) : Nat → Nat → List Char → Option (Nat × List Char)
  | 0, value, text => some (value, text)
  | count + 1, value, text =>
      match modes.skip text with
      | [] => none
      | char :: rest => do readHex modes count (value * 16 + (← hexValue? char)) rest

/-- Read the number of a character. -/
def readCode (modes : Modes) (digits : Nat) (isByte : Bool) (text : List Char) :
    Option (Atom × List Char) := do
  let (code, rest) ← readHex modes digits 0 text
  if code.isValidChar then return (.literal (Char.ofNat code) isByte, rest) else none

/-- Read what follows a backslash. Properties of Unicode would need tables, and a number in braces
would have to be closed by a brace, which no pattern holds. -/
def readEscape (modes : Modes) : List Char → Option (Atom × List Char)
  | [] => none
  | char :: rest =>
      match char with
      | 'x' => readCode modes 2 true rest
      | 'u' => readCode modes 4 false rest
      | 'U' => readCode modes 8 false rest
      | 'd' | 's' | 'w' => some (.shorthand false, rest)
      | 'D' | 'S' | 'W' => some (.shorthand true, rest)
      | 'A' | 'z' => some (.place false, rest)
      | 'b' | 'B' | '<' | '>' => some (.place true, rest)
      | 'a' => some (.literal '\x07' false, rest)
      | 'f' => some (.literal '\x0c' false, rest)
      | 't' => some (.literal '\t' false, rest)
      | 'n' => some (.literal '\n' false, rest)
      | 'r' => some (.literal '\r' false, rest)
      | 'v' => some (.literal '\x0b' false, rest)
      | _ => if isAscii char && !char.isAlphanum then some (.literal char false, rest) else none

/-- Read an atom outside of sets. -/
def read (modes : Modes) : List Char → Option (Atom × List Char)
  | [] => none
  | char :: rest =>
      match char with
      | '\\' => readEscape modes rest
      | '.' => some (.anything, rest)
      | '^' | '$' => some (.place false, rest)
      | _ => some (.literal char false, rest)

/-- Read an atom in a set. -/
def readInSet (modes : Modes) : List Char → Option (Atom × List Char)
  | [] => none
  | char :: rest => if char = '\\' then readEscape modes rest else some (.literal char false, rest)

end Atom

end PluginHost.Pattern
