import PluginHost.FileTree.Basic
import PluginHost.Library.Head
import PluginHost.Text.Hexadecimal

/-!
# Faults of loading

What keeps a library from being loaded, and how it is told.
-/

namespace PluginHost

open PluginHost.Text

inductive LoadFault where
  | nulInPath
  | cannotOpen (path : Bytes) (reason : PathFault)
  | cannotRead (path : Bytes) (reason : PathFault)
  | content (path : Bytes) (fault : Library.ContentFault)
  /-- What a library needs to be bound is nowhere. -/
  | undefined (path symbol : Bytes) (version : Option Bytes)
  /-- A library does not define a version of itself that another one needs. -/
  | noVersion (path version needer : Bytes)
  /-- A relocation is of a kind that there is not, or not among those that are put off. -/
  | strangeRelocation (path : Bytes) (kind : Nat) (isPutOff : Bool)
  /-- There is no room left for what each thread has for itself. -/
  | noThreadRoom (path : Bytes)
  /-- What is not to be written any more is not in memory. -/
  | cannotSeal (path : Bytes)
  deriving DecidableEq, Repr

namespace LoadFault

/-- The kind of a relocation in two digits, or in eight if two are not enough. -/
def kindText (kind : Nat) : String :=
  let count := if 0xFF < kind then 8 else 2
  String.ofList <| (List.range count).map fun place =>
    Hexadecimal.digit (kind / Nat.pow 16 (count - 1 - place) % 16)

def sealText : String := "cannot apply additional memory protection after relocation"

/-- What is wrong, without the library and without the reason that the system gives. -/
def bareText : LoadFault → String
  | nulInPath => ""
  | cannotOpen .. => "cannot open shared object file"
  | cannotRead .. => "cannot read file data"
  | content _ fault =>
      if fault = .machine then "cannot open shared object file" else fault.text
  | undefined .. => "undefined symbol"
  | noVersion .. => "version not found"
  | strangeRelocation .. => "unexpected reloc type"
  | noThreadRoom .. => "cannot allocate memory in static TLS block"
  | cannotSeal .. => sealText

/-- At what a program fails to start. -/
def occasion : LoadFault → String
  | undefined .. => "symbol lookup error"
  | noVersion .. => "version lookup error"
  | _ => "error while loading shared libraries"

def message : LoadFault → String
  | nulInPath => "could not create a C string from bytes"
  | cannotOpen path reason =>
      s!"{Utf8.lossy path}: cannot open shared object file: {reason.text}"
  | cannotRead path reason => s!"{Utf8.lossy path}: cannot read file data: {reason.text}"
  | content path fault => s!"{Utf8.lossy path}: {fault.text}"
  | undefined path symbol version =>
      let named := match version with
        | none => ""
        | some version => s!", version {Utf8.lossy version}"
      s!"{Utf8.lossy path}: undefined symbol: {Utf8.lossy symbol}{named}"
  | noVersion path version needer =>
      let quoted := "`" ++ Utf8.lossy version ++ "'"
      s!"{Utf8.lossy path}: version {quoted} not found (required by {Utf8.lossy needer})"
  | strangeRelocation path kind isPutOff =>
      let what := if isPutOff then "PLT reloc" else "reloc"
      s!"{Utf8.lossy path}: unexpected {what} type 0x{kindText kind}"
  | noThreadRoom path => s!"{Utf8.lossy path}: cannot allocate memory in static TLS block"
  | cannotSeal path => s!"{Utf8.lossy path}: {sealText}: Cannot allocate memory"

end LoadFault

end PluginHost
