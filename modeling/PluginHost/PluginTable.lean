import PluginHost.Plugin
import PluginHost.Process.Start

/-!
# Tables of plugins

A table keeps plugins under numbers, with the process that has loaded them.
-/

namespace PluginHost

structure PluginTable where
  process : Process
  plugins : List (Nat × Plugin)

namespace PluginTable

/-- An empty table, in a process that has just been started. -/
def start (machine : Machine) (arguments : List Bytes) (stdout : Stdout)
    (environment : Environment) : PluginTable :=
  ⟨.start machine arguments stdout environment, []⟩

def find? (table : PluginTable) (number : Nat) : Option Plugin := table.plugins.lookup number

/-- Give up the plugin that has a number. -/
def clear (table : PluginTable) (number : Nat) : PluginTable :=
  match table.find? number with
  | none => table
  | some plugin =>
      ⟨plugin.close table.process, table.plugins.filter fun entry => entry.1 ≠ number⟩

/-- Load a plugin under a number. The one that had it is given up first. -/
def load (table : PluginTable) (number : Nat) (path : Bytes) (symbol : String) :
    Except PluginError Plugin × PluginTable :=
  let table := table.clear number
  match Plugin.load table.process path symbol with
  | (.error error, process) => (.error error, { table with process })
  | (.ok plugin, process) => (.ok plugin, ⟨process, (number, plugin) :: table.plugins⟩)

/-- Invoke a plugin; tell the status and what was printed on the way. -/
def invoke (table : PluginTable) (plugin : Plugin) (request : Request) :
    Int32 × Bytes × PluginTable :=
  let (status, process) := plugin.invoke table.process request
  (status, process.outside.printedSince table.process.outside, { table with process })

end PluginTable

end PluginHost
