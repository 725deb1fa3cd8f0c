import PluginHost.Text.Blank

/-!
# Modes of patterns

Patterns are regular expressions for the values of fields. Here they are only checked, and matched
nowhere. Modes change how a pattern is read and what it may hold; flags in the pattern change the
modes.
-/

namespace PluginHost.Pattern

open PluginHost.Text

structure Modes where
  /-- A pattern is about the characters of Unicode, and not about bytes. -/
  unicode : Bool
  ignoreCase : Bool
  /-- Blanks and comments in the pattern do not count. -/
  verbose : Bool
  deriving DecidableEq, Repr

namespace Modes

def initial : Modes := ⟨true, false, false⟩

/-- The text after blanks and comments, read from outside or from inside a comment. A comment goes
from a number sign to the end of its line. -/
def skipBlanks : Bool → List Char → List Char
  | _, [] => []
  | true, char :: rest => skipBlanks (char ≠ '\n') rest
  | false, char :: rest =>
      if char = '#' then skipBlanks true rest
      else if Blank.isBlank char then skipBlanks false rest
      else char :: rest

/-- The text from the next character on that counts. -/
def skip (modes : Modes) (text : List Char) : List Char :=
  if modes.verbose then skipBlanks false text else text

/-- The flags, some of which change nothing that is checked here. -/
def flagLetters : List Char := ['i', 'm', 's', 'U', 'u', 'R', 'x']

/-- Flags are different letters; a hyphen may be among them, but not at the end. -/
def areFlags (text : List Char) : Bool :=
  text.length ≤ flagLetters.length + 1 && decide text.Nodup &&
    text.all (fun char => char = '-' || flagLetters.contains char) && text.getLast? != some '-'

/-- Set the flags before the hyphen and clear those after it. -/
def withFlags (modes : Modes) (flags : List Char) : Modes :=
  let value (letter : Char) (before : Bool) : Bool :=
    if flags.contains letter then (flags.takeWhile (· ≠ '-')).contains letter else before
  ⟨value 'u' modes.unicode, value 'i' modes.ignoreCase, value 'x' modes.verbose⟩

end Modes

end PluginHost.Pattern
