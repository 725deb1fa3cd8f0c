import PluginHost.CommandLine.Setting
import PluginHost.Text.Terminal

/-!
# Command line faults

Why a command line is refused, and the first paragraph of the message that says so.
-/

namespace PluginHost.CommandLine

open PluginHost.Text

inductive Fault where
  /-- An argument that is no option and no option's value, as far as it was read. -/
  | unexpected (argument : Bytes)
  /-- Help was asked for with a value attached. -/
  | helpValue (value : Bytes)
  | missingValue (setting : Setting)
  | repeated (setting : Setting)
  | notText
  | invalidHeader (error : InvalidHeader)
  /-- Two settings that exclude each other, in the order in which they were given. -/
  | conflict (first second : Setting)
  | missingPlugin
  deriving DecidableEq, Repr

namespace Fault

/-- An argument as a message for a terminal shows it. The style around it ends whatever control
sequence the argument leaves open. -/
def shownArgument (argument : Bytes) : String := Terminal.bold (Utf8.lossy argument)

/-- The message for a terminal. -/
def styledMessage : Fault → String
  | unexpected argument => s!"error: unexpected argument '{shownArgument argument}' found"
  | helpValue value =>
      s!"error: unexpected value '{shownArgument value}' for '--help' found; " ++
        "no more were expected"
  | missingValue setting =>
      s!"error: a value is required for '{setting.shown}' but none was supplied"
  | repeated setting => s!"error: the argument '{setting.shown}' cannot be used multiple times"
  | notText => "error: invalid UTF-8 was detected in one or more arguments"
  | invalidHeader error =>
      s!"error: invalid value '{Terminal.bold error.raw}' for '{Setting.header.shown}': " ++
        error.message
  | conflict first second =>
      s!"error: the argument '{first.shown}' cannot be used with '{second.shown}'"
  | missingPlugin =>
      s!"error: the following required arguments were not provided:\n  {Setting.plugin.shown}"

/-- The text before the first blank line. -/
def firstParagraph : List Char → List Char
  | [] => []
  | '\n' :: '\n' :: _ => []
  | char :: rest => char :: firstParagraph rest

def message (fault : Fault) : String :=
  String.ofList (firstParagraph (Terminal.strip fault.styledMessage).toList)

/-- The message as it is printed. -/
def printed (fault : Fault) : String :=
  String.ofList (firstParagraph (Terminal.stripUnderway fault.styledMessage).toList)

end Fault

end PluginHost.CommandLine
