import PluginHost.Library.Routine
import PluginHost.Text.Utf8
import PluginHost.Trigger.Basic

/-!
# Shared libraries

A library that is known by what it does exports services by name. Names are bytes and are compared
exactly.
-/

namespace PluginHost

open PluginHost.Text

/-- The parts of a request that are there once. -/
inductive Part where
  | method
  | uri
  | body
  deriving DecidableEq, Repr

/-- What is not stored as machine code, and has an address nevertheless. -/
inductive Service where
  | trigger (trigger : Trigger)
  /-- An accessor that a host hands to its triggers. -/
  | accessor (part : Part)
  | headerAccessor
  /-- A routine; the status is what it answers with when it is called as a trigger. -/
  | routine (status : Int32) (routine : Library.Routine)
  /-- A word in memory. -/
  | cell (value : UInt64)

/-- The address at which a program finds its variables. -/
def Library.variablePlace : UInt64 := 0x7FFFFFC00000

structure Library where
  exports : List (Bytes × Service)
  /-- The name that the library bears in itself. -/
  ownName : Option Bytes
  /-- The libraries that are needed. -/
  needed : List Bytes
  /-- The versions of itself that the library defines. -/
  versions : List Bytes
  /-- The number of the system that the library is made for. -/
  madeFor : UInt8

namespace Library

/-- A library that exports the services under their names. -/
def ofServices (exports : List (String × Service)) : Library :=
  ⟨exports.map fun entry => (Utf8.encode entry.1, entry.2), none, [], [], 0⟩

/-- A library that exports the triggers under their names. -/
def ofList (exports : List (String × Trigger)) : Library :=
  ofServices (exports.map fun entry => (entry.1, .trigger entry.2))

def empty : Library := ofServices []

/-- A library that needs others. -/
def needing (library : Library) (names : List String) : Library :=
  { library with needed := names.map Utf8.encode }

/-- A library that bears a name in itself. -/
def named (library : Library) (name : String) : Library :=
  { library with ownName := some (Utf8.encode name) }

/-- A library that uses what only versions of the system's own have: functions that are chosen when
they are loaded. -/
def versioned (library : Library) : Library := { library with madeFor := 3 }

/-- A library that defines versions of itself. -/
def defining (library : Library) (versions : List String) : Library :=
  { library with versions := versions.map Utf8.encode }

/-- The number of a name among the exports. -/
def index? (library : Library) (symbol : Bytes) : Option Nat :=
  library.exports.findIdx? (·.1 = symbol)

def find? (library : Library) (symbol : Bytes) : Option Service := library.exports.lookup symbol

end Library

end PluginHost
