import PluginHost.Machine.Basic
import PluginHost.UsualSystem

/-!
# A machine

A machine with a usual system, on which the program runs in a directory of its own. The directory of
the program holds the plugins that come with it; nothing else is stored.
-/

namespace PluginHost.Machine

open PluginHost.Text
open UsualSystem (pathIn)

def programName : String := "trigger-runner"

/-- A name that no path can hold, since it has a NUL in it. -/
def unnamable : String := "\x00"

/-- The directory of the program, and the one in which it runs. Their names are not known. -/
def programDirectory : Bytes := Utf8.encode s!"/{unnamable}"

def currentDirectory : Bytes := Utf8.encode s!"/tmp/{unnamable}"

/-- The running program in its directory, with the plugins that come with it. -/
def putProgram (tree : FileTree) : FileTree :=
  let path := pathIn programDirectory programName
  let tree := tree.putFile path UsualSystem.movableProgram
  let tree := tree.putLibrary (pathIn programDirectory "librequest_logger.so") Library.requestLogger
  let tree := tree.putLibrary (pathIn programDirectory "libfixture.so") Library.probes
  let tree := tree.putFile (Utf8.encode "/proc/self/comm") (Utf8.encode s!"{programName}\n")
  tree.putLink (Utf8.encode "/proc/self/exe") path

/-- The tree before anything is stored; its current directory is empty. -/
def bareFiles : FileTree :=
  let tree := (putProgram UsualSystem.files).putDirectory currentDirectory
  let tree := tree.putLink (Utf8.encode "/proc/self/cwd") currentDirectory
  { tree with current := tree.place currentDirectory }

/-- What the tokens in paths stand for on a machine of this kind. -/
def usualTokens : Library.Tokens :=
  [("PLATFORM", "haswell"), ("LIB", "lib/x86_64-linux-gnu")].map fun token =>
    (Utf8.encode token.1, Utf8.encode token.2)

/-- All paths that are made of some of the names, in their order; the longest come first. -/
def pathsOf : List String → List String
  | [] => [""]
  | name :: rest => (pathsOf rest).map (s!"{name}/" ++ ·) ++ pathsOf rest

/-- Directories of libraries for processors of this kind, and then those of an older custom. -/
def usualSubdirectories : List String :=
  ["glibc-hwcaps/x86-64-v4/", "glibc-hwcaps/x86-64-v3/", "glibc-hwcaps/x86-64-v2/"] ++
    (pathsOf ["tls", "haswell", "avx512_1", "x86_64"]).filter (· ≠ "")

def bare : Machine where
  files := bareFiles
  libraryDirectories :=
    [UsualSystem.libraryDirectory, UsualSystem.loaderDirectory].map directoryStart
  subdirectories := usualSubdirectories.map Utf8.encode
  tokens := usualTokens
  origin := programDirectory
  program := Library.program
  loader := Library.loader
  loaderPath := pathIn UsualSystem.loaderDirectory Library.loaderName
  systemPart := Library.systemPart
  systemName := Utf8.encode "linux-vdso.so.1"

end PluginHost.Machine
