import PluginHost.Process.Closing
import PluginHost.Process.Lending

/-!
# Plugins

A trigger taken out of a shared library, with the path it came from. The library stays open until
the plugin is given up.
-/

namespace PluginHost

open PluginHost.Text

inductive PluginError where
  | load (path : Bytes) (fault : LoadFault)
  /-- The library found at a path does not export the symbol. -/
  | symbol (name : String) (library : Bytes)
  deriving DecidableEq, Repr

namespace PluginError

def message : PluginError → String
  | load path _ => s!"failed to load plugin {Utf8.lossy path}"
  | symbol name _ => s!"plugin does not export `{name}`"

def cause : PluginError → String
  | load _ fault => fault.message
  | symbol name library => s!"{Utf8.lossy library}: undefined symbol: {name}"

end PluginError

/-- What is called when a plugin is invoked. -/
inductive Callee where
  | service (service : Service)
  | code (address : UInt64)

structure Plugin where
  path : Bytes
  library : ObjectId
  callee : Callee

namespace Plugin

/-- A name without the NUL that may end it; no other NUL may be in it. -/
def unterminated? (name : Bytes) : Option Bytes :=
  let bare := if name.getLast? = some 0 then name.dropLast else name
  if bare.contains 0 then none else some bare

/-- What stands at an address. -/
def calleeAt (process : Process) (address : UInt64) : Callee :=
  match process.service? address with
  | some service => .service service
  | none => .code address

/-- Find a symbol in an open library. A library without it is closed again. -/
def ofLibrary (process : Process) (path : Bytes) (library : ObjectId) (symbol : String) :
    Except PluginError Plugin × Process :=
  let fault := PluginError.symbol symbol (process.pathOf library)
  match unterminated? (Utf8.encode symbol) with
  | none => (.error fault, process.closeLibrary library)
  | some name =>
      match process.symbolAddress? library name with
      | (none, process) => (.error fault, process.closeLibrary library)
      | (some address, process) => (.ok ⟨path, library, calleeAt process address⟩, process)

/-- Open the library at a path and find the symbol in it. -/
def load (process : Process) (path : Bytes) (symbol : String) :
    Except PluginError Plugin × Process :=
  match unterminated? path with
  | none => (.error (.load path .nulInPath), process)
  | some name =>
      match process.openLibrary name with
      | (.error fault, process) => (.error (.load path fault), process)
      | (.ok library, process) => ofLibrary process path library symbol

/-- Call machine code with a request. -/
def callCode (process : Process) (address : UInt64) (request : Request) : Int32 × Process :=
  let (handle, process) := process.lend request
  let (answer, process) := process.call address [handle]
  (answer.toUInt32.toInt32, process.takeBack)

/-- Call the trigger with a request. What has its answer from an address does not succeed. -/
def invoke (plugin : Plugin) (process : Process) (request : Request) : Int32 × Process :=
  match plugin.callee with
  | .service (.trigger trigger) =>
      let reply := trigger (some request) process.outside.stdout
      (reply.status, process.follow reply)
  | .service (.routine status _) => (status, process)
  | .service (.cell _) => (0, process.crash)
  | .service _ => (1, process)
  | .code address => callCode process address request

/-- Give the plugin up. -/
def close (plugin : Plugin) (process : Process) : Process := process.closeLibrary plugin.library

end Plugin

end PluginHost
