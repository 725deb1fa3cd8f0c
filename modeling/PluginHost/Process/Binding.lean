import PluginHost.Library.Fault
import PluginHost.Process.Call
import PluginHost.Process.Symbol

/-!
# Binding references

A reference of an object is bound to the first definition of its name: in the object itself if it
prefers that, in the objects that are there for all, and in the group of objects with which it was
loaded. What only its own object can see is bound there.
-/

namespace PluginHost

open Processor (Memory Register Width)

namespace Symbol

/-- The symbol as a definition of an object. -/
def definition (symbol : Symbol) (object : ObjectId) : Definition :=
  ⟨object, symbol.kind, symbol.isFixed, symbol.value, symbol.size⟩

end Symbol

namespace Object

/-- The version that a reference asks for, and whether one without a version is refused. -/
def askedVersion? (object : Object) (memory : Memory) (index : UInt64) : Option (Version × Bool) :=
  (object.versionNumber? memory index).bind fun found => object.version? memory found.1

/-- What a reference asks for. -/
def wanted (object : Object) (memory : Memory) (index : UInt64) (symbol : Symbol)
    (isCalled : Bool) : Wanted :=
  let asked := object.askedVersion? memory index
  { name := symbol.name
    version := asked.map Prod.fst
    isStrict := (asked.map Prod.snd).getD false
    isCalled
    isNewest := false }

end Object

namespace Process

/-- The objects in which the references of an object are looked for. -/
def scopeOf (process : Process) (object : Object) : List ObjectId :=
  let groups := object.roots.map fun root => ((process.object? root).map Object.group).getD []
  (if object.statements.prefersSelf then [object.id] else []) ++ process.initialObjects ++
    groups.flatten

/-- Remember that an object is bound to another that it does not need by name, and that may go. -/
def bond (process : Process) (object : Object) (other : ObjectId) : Process :=
  let isKnown := other = object.id || (object.needs.getD []).contains other ||
    (process.object? other).all fun other => other.stays || other.isInitial
  if isKnown then process
  else
    process.changeObject object.id fun object =>
      if object.bonds.contains other then object
      else { object with bonds := other :: object.bonds }

/-- Look for a definition for a reference. One that may be replaced by nobody is bound to its own
object whenever another definition is found. -/
def search (process : Process) (object : Object) (index : UInt64) (symbol : Symbol)
    (isCalled : Bool) : Option Definition × Process :=
  let wanted := object.wanted process.memory index symbol isCalled
  match process.lookup wanted (process.scopeOf object) with
  | (none, process) => (none, process)
  | (some found, process) =>
      let isReplaced :=
        if isCalled || symbol.reach ≠ Symbol.protectedReach then found.object ≠ object.id
        else
          let called := { wanted with isCalled := true }
          (process.lookup called (process.scopeOf object)).1.any (·.object ≠ object.id)
      if symbol.reach = Symbol.protectedReach && isReplaced then
        (some (symbol.definition object.id), process)
      else (some found, process.bond object found.object)

/-- Bind a reference to a definition, or to nothing if it need not be bound. -/
def bind (process : Process) (object : Object) (index : UInt64) (symbol : Symbol)
    (isCalled : Bool) : Except LoadFault (Option Definition × Process) :=
  if symbol.binding = Symbol.localBinding || symbol.isHidden then
    .ok (some (symbol.definition object.id), process)
  else
    match process.search object index symbol isCalled with
    | (some found, process) => .ok (some found, process)
    | (none, process) =>
        if symbol.binding = Symbol.weakBinding then .ok (none, process)
        else
          let version := (object.askedVersion? process.memory index).map (·.1.name)
          .error (.undefined object.path symbol.name version)

/-- Where a definition leads. A function that chooses another one is called for that, with a way to
let the process proceed. -/
def leadWith (proceed : Process → Process) (process : Process) (found : Option Definition) :
    UInt64 × Process :=
  match found with
  | none => (0, process)
  | some definition =>
      let address := process.addressOf definition
      if definition.kind = Symbol.choosingKind then process.callWith proceed address []
      else (address, process)

/-! ## Functions that are bound when they are called first -/

/-- A relocation: where, of which kind, by which symbol, and with what added. -/
structure Relocation where
  offset : UInt64
  kind : Nat
  index : UInt64
  addend : UInt64
  deriving DecidableEq, Repr

/-- The number of bytes that describe a relocation. -/
def relocationLength : UInt64 := 24

def relocation? (memory : Memory) (row : UInt64) : Option Relocation := do
  let offset ← memory.load? .quad row
  let what ← memory.load? .quad (row + 8)
  let addend ← memory.load? .quad (row + 16)
  return ⟨offset, (what &&& 0xFFFFFFFF).toNat, what >>> 32, addend⟩

/-- The name by which the program is called in what the system says. -/
def programName : String := "trigger-runner"

/-- The exit code when a library turns out not to be usable. -/
def unusableCode : Nat := 127

/-- End the process because a function that is called is nowhere. -/
def missCall (process : Process) (fault : LoadFault) : Process :=
  let text := Text.Utf8.encode s!"{programName}: symbol lookup error: {fault.message}\n"
  (process.tell (.text text)).leave ⟨unusableCode, false⟩

/-- Bind the function that is being called, write its address where it is called from, and go there.
The mark of the object and the number of the relocation have been put on the stack. -/
def bindCallWith (proceed : Process → Process) (process : Process) : Process :=
  let top := process.core.get Register.stack
  let row? := do
    let object ← process.objectAt? (← process.memory.load? .quad top)
    let number ← process.memory.load? .quad (top + 8)
    let table ← object.stated? Statements.laterRelocations
    let relocation ← relocation? process.memory (table + relocationLength * number)
    let symbol ← object.symbol? process.memory relocation.index
    return (object, relocation, symbol)
  match row? with
  | none => process.crash
  | some (object, relocation, symbol) =>
      let bound :=
        if symbol.reach ≠ 0 then .ok (some (symbol.definition object.id), process)
        else process.bind object relocation.index symbol true
      match bound with
      | .error fault => process.missCall fault
      | .ok (found, process) =>
          let (address, process) := process.leadWith proceed found
          let process := process.write .quad (object.base + relocation.offset) address
          process.changeCore fun core => (core.set Register.stack (top + 16)).goTo address

end Process

end PluginHost
