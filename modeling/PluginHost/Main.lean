import PluginHost.Machine
import PluginHost.Runner.Report

/-!
# The program

Collects what a run depends on, and shows its report. A file that bears the name of a library at
hand stands for that library.
-/

namespace PluginHost.Main

open PluginHost.Text

def variableNames : List String :=
  ["TRIGGER_PLUGIN", "TRIGGER_SYMBOL", "RUST_LOG", "LD_LIBRARY_PATH", "LD_BIND_NOW", "LD_PRELOAD"]

def readEnvironment : IO Environment := do
  let found ← variableNames.mapM fun name => return (name, ← IO.getEnv name)
  return found.filterMap fun (name, value) => value.map fun text => (name, Utf8.encode text)

/-- The error number of an attempt to read a directory. -/
def directoryCode : UInt32 := 21

/-- Store what is at a path of the file system at that path of the tree. What the tree has already,
such as a device without an end, is not read. -/
def storeFile (files : FileTree) (path : String) : IO FileTree := do
  if let .ok _ := files.locate (Utf8.encode path) then return files
  try
    let content ← IO.FS.readBinFile path
    return files.putFile (Utf8.encode path) content.toList
  catch
    | .inappropriateType _ code _ =>
        return if code = directoryCode then files.putDirectory (Utf8.encode path) else files
    | _ => return files

def librariesAtHand : List (String × Library) :=
  [("librequest_logger.so", Library.requestLogger), ("libfixture.so", Library.probes)]

/-- Store the library for which a path stands, or else the file at that path. -/
def storePlugin (files : FileTree) (path : String) : IO FileTree := do
  match librariesAtHand.find? fun entry => path.endsWith s!"/{entry.1}" with
  | some (_, library) => return files.putLibrary (Utf8.encode path) library
  | none => storeFile files path

/-- A machine that stores what the arguments refer to. -/
def machineFor (arguments : Arguments) : IO Machine := do
  let files ← match arguments.bodyFile with
    | some path => storeFile Machine.bare.files (Utf8.lossy path)
    | none => pure Machine.bare.files
  let files ← storePlugin files (Utf8.lossy arguments.plugin)
  return { Machine.bare with files }

/-- The error number of a write to a full device. -/
def fullCode : UInt32 := 28

def otherError (text : String) : WriteError := ⟨⟨.other, text⟩, nofun⟩

/-- Print the bytes, or say why they cannot be printed. -/
def tryPrint (bytes : Bytes) : IO Stdout := do
  let output ← IO.getStdout
  try
    output.write (ByteArray.mk bytes.toArray)
    output.flush
    return .accepting
  catch
    | .resourceExhausted _ code _ =>
        return .failing (if code = fullCode then .noSpace else otherError "resource exhausted")
    | error => return .failing (otherError (toString error))

end PluginHost.Main

open PluginHost in
def main (arguments : List String) : IO UInt32 := do
  let environment ← Main.readEnvironment
  let situation : Situation :=
    { arguments := (CommandLine.defaultName :: arguments).map Text.Utf8.encode
      environment
      machine := Machine.bare
      stdout := .accepting }
  let machine ← match Arguments.parse situation.presets situation.arguments.tail with
    | .ok parsed => Main.machineFor parsed
    | .error _ => pure Machine.bare
  let situation := { situation with machine }
  let stdout ← Main.tryPrint situation.report.stdout
  let report := { situation with stdout }.report
  IO.eprint report.stderr
  unless report.stderr.isEmpty || report.stderr.endsWith "\n" do IO.eprintln ""
  return report.exitCode.toUInt32
