import PluginHost.Process.Basic
import PluginHost.Process.Strings

/-!
# Arguments and variables in memory

A program finds the strings that it was started with in memory. The variables are put there when
something is read for the first time that may be among them; this is how the code in a process asks
for all of them.
-/

namespace PluginHost

open Processor (Region)

namespace Process

/-- The addresses of the tables of arguments and of variables. -/
def argumentTable : UInt64 := 0x7FFFFF900000

def variableTable : UInt64 := Library.variablePlace

/-- The memory in which strings and the table of their addresses are. -/
def stringsRegion (start : UInt64) (texts : List Bytes) : Region :=
  let content := Strings.table start texts
  plainRegion start (alignUp content.length.toUInt64 pageLength) content

def seesVariables (process : Process) : Bool := (process.memory.region? variableTable).isSome

def showVariables (process : Process) : Process :=
  let region := stringsRegion variableTable process.outside.environment.strings
  (process.ask .environment).changeMemory (·.addRegion region)

/-- Where something cannot be read, it may be one of the variables. They are shown then, for another
attempt; a process that has seen them crashes. -/
def lookAgain (process : Process) : Process :=
  if process.seesVariables then process.crash else process.showVariables

end Process

end PluginHost
