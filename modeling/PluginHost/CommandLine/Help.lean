import PluginHost.CommandLine.Fault
import PluginHost.CommandLine.Parser
import PluginHost.FileTree.Basic

/-!
# Help

The text that explains the command line, for the name the program was called by and the variables of
its environment.
-/

namespace PluginHost.CommandLine

open PluginHost.Text
open Terminal (bold)

def defaultName : String := "trigger-runner"

/-- The last name in the path by which the program was called, if that path ends in a name that is
text. -/
def programName (path : Bytes) : String :=
  match ((FileTree.names path).filter (· ≠ FileTree.here)).getLast? with
  | none => defaultName
  | some name =>
      if name = FileTree.up then defaultName else (Utf8.decode? name).getD defaultName

/-- The column in which explanations begin. -/
def explanationColumn : Nat := 31

def blanks (count : Nat) : String := String.ofList (List.replicate count ' ')

/-- A variable and its value, as help shows them. Line breaks in the value are indented to the
column of the explanations. -/
def shownVariable (name : String) (value : Option Bytes) : String :=
  let lines := split '\n' (Utf8.lossy (value.getD [])).toList
  let indented := ("\n" ++ blanks explanationColumn).intercalate (lines.map String.ofList)
  s!"[env: {name}={indented}]"

/-- The line about an option: its letter, its name, what stands for its value, and what it is for.
Letter and name are bold. -/
def optionLine (letter : Option Char) (name placeholder explanation : String) : String :=
  let start := match letter with
    | none => blanks 6
    | some letter => blanks 2 ++ bold s!"-{letter}" ++ ", "
  let width := 8 + name.length + placeholder.length
  start ++ bold s!"--{name}" ++ placeholder ++ blanks (explanationColumn - width) ++
    explanation ++ "\n"

def settingLine (setting : Setting) (explanation : String) : String :=
  optionLine setting.letter? setting.name s!" <{setting.placeholder}>" explanation

/-- Help for a terminal. A control sequence in the value of a variable goes on until it ends by
itself or the next bold name begins. -/
def styledHelp (path : Bytes) (presets : Presets) : String :=
  let symbolValue := shownVariable "TRIGGER_SYMBOL" presets.symbol
  "Run a miss-demeanor trigger plugin against one request\n\n" ++
  s!"Usage: {bold (programName path)} [OPTIONS] --plugin <PLUGIN>\n\n" ++
  "Options:\n" ++
  settingLine .plugin ("Path to the trigger plugin shared library " ++
    shownVariable "TRIGGER_PLUGIN" presets.plugin) ++
  settingLine .symbol s!"Exported symbol to call {symbolValue} [default: trigger]" ++
  settingLine .method "Request method [default: GET]" ++
  settingLine .uri "Request URI (path and query) [default: /]" ++
  settingLine .header "Request header as `Name: value`; may be repeated" ++
  settingLine .body "Request body" ++
  settingLine .bodyFile "Read the request body from a file" ++
  optionLine (some 'h') "help" "" "Print help"

/-- Help without style. -/
def helpText (path : Bytes) (presets : Presets) : String :=
  Terminal.strip (styledHelp path presets)

end PluginHost.CommandLine
