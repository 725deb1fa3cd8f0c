import PluginHost.FileTree.Basic
import PluginHost.Library.Token

/-!
# Machines

What a process finds around it: a file tree, the places where libraries are looked for, and the
program that runs.
-/

namespace PluginHost

structure Machine where
  files : FileTree
  /-- Where the system keeps libraries: what is put before their names. -/
  libraryDirectories : List Bytes
  /-- Where libraries for this very processor are kept in a directory of libraries, best first. -/
  subdirectories : List Bytes
  /-- What the tokens in paths stand for, but for the one of the directory of a file. -/
  tokens : Library.Tokens
  /-- The directory of the running program. -/
  origin : Bytes
  /-- The running program. -/
  program : Library
  /-- The library that loads the others, and its path. -/
  loader : Library
  loaderPath : Bytes
  /-- What the system adds to every process, and its name. -/
  systemPart : Library
  systemName : Bytes

namespace Machine

/-- The token for the directory of the file in which it is used. -/
def originToken : Bytes := [79, 82, 73, 71, 73, 78]

/-- The tokens of a file in a directory. -/
def tokensIn (machine : Machine) (origin : Bytes) : Library.Tokens :=
  (originToken, origin) :: machine.tokens

def expandIn (machine : Machine) (origin path : Bytes) : Bytes :=
  Library.Token.expand (machine.tokensIn origin) path

/-- The path of the current directory. -/
def currentPath (machine : Machine) : Bytes :=
  machine.files.current.flatMap fun name => Bytes.slash :: name

/-- The directory of a file, from the root on. -/
def directoryOf (machine : Machine) (path : Bytes) : Bytes :=
  let whole :=
    if path.head? = some Bytes.slash then path
    else machine.currentPath ++ Bytes.slash :: path
  match (whole.reverse.dropWhile (· ≠ Bytes.slash)).drop 1 with
  | [] => [Bytes.slash]
  | directory => directory.reverse

/-- What is put before a name to find it in a directory: one slash ends it, unless it is empty. -/
def directoryStart (directory : Bytes) : Bytes :=
  match (directory.reverse.dropWhile (· = Bytes.slash)).reverse with
  | [] => if directory = [] then [] else [Bytes.slash]
  | bare => bare ++ [Bytes.slash]

/-- The directories of a list, each once. A directory that is empty only after its tokens have been
replaced is left out. -/
def directoriesOf (machine : Machine) (origin : Bytes) (separators : List UInt8) (list : Bytes) :
    List Bytes :=
  let pieces := separators.foldl (fun pieces separator => pieces.flatMap (split separator)) [list]
  let starts := pieces.filterMap fun piece =>
    let expanded := machine.expandIn origin piece
    if piece ≠ [] && expanded = [] then none else some (directoryStart expanded)
  starts.eraseDups

end Machine

end PluginHost
