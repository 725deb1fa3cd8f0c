import PluginHost.Library.Fault
import PluginHost.Library.Image
import PluginHost.Machine.Basic

/-!
# Searching for libraries

How a path leads to a file that may be a library, and how a name is looked for in directories. A
file for another kind of machine is passed over. Where something stands in the way other than that
nothing is there, no further directory of the list is tried.
-/

namespace PluginHost

/-- A file that was found for a name. -/
structure Found where
  path : Bytes
  place : Place
  entry : Entry

/-- What is known while a name is being looked for: why the last attempt failed, and whether a
library of another word size was passed over. -/
structure Seeking where
  reason : PathFault
  isOtherSize : Bool

namespace Seeking

def start : Seeking := ⟨.missing, false⟩

/-- The fault of a search that found nothing. -/
def fault (seeking : Seeking) (name : Bytes) : LoadFault :=
  if seeking.isOtherSize then .content name .wordSize else .cannotOpen name seeking.reason

end Seeking

namespace Machine

/-- What shows that an entry is a library for another kind of machine. -/
def foreignFault? : Entry → Option Library.ContentFault
  | .file content none =>
      match Library.Image.ofContent content with
      | .error fault => if fault.isForeign then some fault else none
      | .ok _ => none
  | _ => none

/-- Look whether there is a library at a path. -/
def look (machine : Machine) (seeking : Seeking) (path : Bytes) : Except Seeking Found :=
  match machine.files.find path with
  | .error reason => .error { seeking with reason }
  | .ok (place, entry) =>
      match foreignFault? entry with
      | none => .ok ⟨path, place, entry⟩
      | some fault =>
          .error ⟨.missing, seeking.isOtherSize || fault = .wordSize⟩

/-- A directory that is given from the root on counts only if it is there. -/
def counts (machine : Machine) (directory : Bytes) : Bool :=
  directory.head? ≠ some Bytes.slash ||
    match machine.files.locate directory with
    | .ok .directory => true
    | _ => false

/-- Look into a directory and into those of its subdirectories that are for this processor; also
tell whether any of them counts. -/
def lookInto (machine : Machine) (name directory : Bytes) :
    List Bytes → Seeking → Bool → Except (Seeking × Bool) Found
  | [], seeking, isAny => .error (seeking, isAny)
  | subdirectory :: rest, seeking, isAny =>
      let inner := directory ++ subdirectory
      match machine.look seeking (inner ++ name) with
      | .ok found => .ok found
      | .error seeking =>
          lookInto machine name directory rest seeking (isAny || machine.counts inner)

/-- Look into each directory of a list. -/
def search (machine : Machine) (name : Bytes) : Seeking → List Bytes → Except Seeking Found
  | seeking, [] => .error seeking
  | seeking, directory :: rest =>
      match machine.lookInto name directory (machine.subdirectories ++ [[]]) seeking false with
      | .ok found => .ok found
      | .error (seeking, isAny) =>
          if isAny && seeking.reason ≠ .missing then .error seeking
          else search machine name seeking rest

/-- Look into the directories of several lists, one list after the other. -/
def searchAll (machine : Machine) (name : Bytes) :
    Seeking → List (List Bytes) → Except Seeking Found
  | seeking, [] => .error seeking
  | seeking, directories :: rest =>
      match machine.search name seeking directories with
      | .ok found => .ok found
      | .error seeking => searchAll machine name seeking rest

end Machine

end PluginHost
