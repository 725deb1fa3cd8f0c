import PluginHost.Bytes

/-!
# Header tables

A finite map from header names to values, kept as a list of entries. The order of the entries has no
meaning; two tables are the same if they hold the same entries.
-/

namespace PluginHost

structure HeaderTable where
  entries : List (Bytes × Bytes)
  deriving Repr

namespace HeaderTable

def empty : HeaderTable := ⟨[]⟩

def count (table : HeaderTable) : Nat := table.entries.length

def find? (table : HeaderTable) (name : Bytes) : Option Bytes := table.entries.lookup name

/-- Put the value under the name, in the place of a value already there. -/
def insertEntry (name value : Bytes) : List (Bytes × Bytes) → List (Bytes × Bytes)
  | [] => [(name, value)]
  | entry :: rest =>
      if entry.1 = name then (name, value) :: rest else entry :: insertEntry name value rest

def insert (table : HeaderTable) (name value : Bytes) : HeaderTable :=
  ⟨insertEntry name value table.entries⟩

/-- Equally many entries, and every entry of the first found in the second. -/
def same (first second : HeaderTable) : Bool :=
  first.count == second.count &&
    first.entries.all fun entry => second.find? entry.1 == some entry.2

end HeaderTable

end PluginHost
