import PluginHost.CommandLine.Fault

/-!
# Reading the command line

Arguments are read from left to right. A value is accepted when the next option comes or the
arguments end, unless it is attached to its option: then it is accepted at once. So an argument
that fits nowhere is reported before a value that is refused, if that value stands by itself just
before it.
-/

namespace PluginHost.CommandLine

open PluginHost.Text
open Bytes (hyphen equals)

/-- Why reading ends early. -/
inductive Stop where
  | help
  | fault (fault : Fault)
  deriving DecidableEq, Repr

/-- How far reading has come: the values accepted so far, in order, and the option that waits for
its value or for its value to be accepted. After the closing mark no option is read any more. -/
structure Progress where
  given : List Given
  pending : Option (Setting × Option Bytes)
  closed : Bool

def textValue (raw : Bytes) : Except Fault String :=
  match Utf8.decode? raw with
  | some text => .ok text
  | none => .error .notText

/-- The value that bytes stand for. Paths may be any bytes but none; everything else is text. -/
def Setting.accept (setting : Setting) (raw : Bytes) : Except Fault Given :=
  match setting with
  | .plugin => if raw = [] then .error (.missingValue .plugin) else .ok (.plugin raw)
  | .bodyFile => if raw = [] then .error (.missingValue .bodyFile) else .ok (.bodyFile raw)
  | .symbol => (textValue raw).map .symbol
  | .method => (textValue raw).map .method
  | .uri => (textValue raw).map .uri
  | .body => (textValue raw).map .body
  | .header => do
      let text ← textValue raw
      match Header.parse text with
      | .ok parsed => .ok (.header parsed)
      | .error error => .error (.invalidHeader error)

/-- The settings of accepted values. -/
def settings (given : List Given) : List Setting := given.map Given.setting

namespace Progress

def start : Progress := ⟨[], none, false⟩

/-- Accept a value of a setting. -/
def take (progress : Progress) (setting : Setting) (raw : Bytes) : Except Fault Progress :=
  if setting ∈ settings progress.given ∧ !setting.mayRepeat then .error (.repeated setting)
  else do
    let value ← setting.accept raw
    return { progress with given := progress.given ++ [value] }

/-- Accept the value of the pending option. -/
def settle (progress : Progress) : Except Fault Progress :=
  match progress.pending with
  | none => .ok progress
  | some (setting, none) => .error (.missingValue setting)
  | some (setting, some raw) => { progress with pending := none }.take setting raw

/-- An option with an attached value, or one that waits for its value. -/
def option (progress : Progress) (setting : Setting) (attached : Option Bytes) :
    Except Fault Progress := do
  let progress ← progress.settle
  match attached with
  | some raw => progress.take setting raw
  | none => return { progress with pending := some (setting, none) }

/-- An argument that is no option: the value awaited, if there is one. -/
def value (progress : Progress) (argument : Bytes) : Except Fault Progress :=
  match progress.pending with
  | some (setting, none) => .ok { progress with pending := some (setting, some argument) }
  | _ => .error (.unexpected argument)

def help (progress : Progress) : Except Stop Progress :=
  match progress.settle with
  | .error fault => .error (.fault fault)
  | .ok _ => .error .help

end Progress

/-- The bytes before the first equals sign, and those after it if there is one. -/
def splitEquals (bytes : Bytes) : Bytes × Option Bytes :=
  (bytes.takeWhile (· ≠ equals), (bytes.dropWhile (· ≠ equals)).tail?)

/-- An argument of two hyphens and more. -/
def readLong (progress : Progress) (name : Bytes) (attached : Option Bytes) :
    Except Stop Progress :=
  match Utf8.decode? name, attached with
  | some "help", none => progress.help
  | some "help", some value => .error (.fault (.helpValue value))
  | name?, _ =>
      match name?.bind Setting.ofName? with
      | some setting => (progress.option setting attached).mapError .fault
      | none => .error (.fault (.unexpected (hyphen :: hyphen :: name)))

/-- The value attached to a letter: an equals sign before it does not belong to it. -/
def letterValue : Bytes → Option Bytes
  | [] => none
  | first :: rest => some (if first = equals then rest else first :: rest)

/-- An argument of one hyphen and a first letter. -/
def readLetter (progress : Progress) (rest : Bytes) : Except Stop Progress :=
  match (Utf8.read rest).pieces.getLast? with
  | some (.scalar 'h') => progress.help
  | some (.scalar letter) =>
      match Setting.ofLetter? letter with
      | some setting =>
          let value := letterValue (rest.drop (Utf8.encodeChar letter).length)
          (progress.option setting value).mapError .fault
      | none => .error (.fault (.unexpected (hyphen :: Utf8.encodeChar letter)))
  | _ => .error (.fault (.unexpected (hyphen :: rest)))

/-- Read one argument. -/
def readArgument (progress : Progress) (argument : Bytes) : Except Stop Progress :=
  if progress.closed then .error (.fault (.unexpected argument))
  else
    match argument with
    | [hyphen, hyphen] => .ok { progress with closed := true }
    | hyphen :: hyphen :: rest =>
        let (name, attached) := splitEquals rest
        readLong progress name attached
    | hyphen :: first :: rest => readLetter progress (first :: rest)
    | _ => (progress.value argument).mapError .fault

/-- Accept a setting's value from the environment unless it was given. -/
def fallBack (given : List Given) (setting : Setting) (preset : Option Bytes) :
    Except Fault (List Given) :=
  match preset with
  | none => .ok given
  | some raw =>
      if setting ∈ settings given then .ok given
      else (setting.accept raw).map fun value => given ++ [value]

/-- Body and body file exclude each other. -/
def checkConflict (given : List Given) : Except Fault Unit :=
  match (settings given).filter fun setting => setting = .body ∨ setting = .bodyFile with
  | first :: second :: _ => .error (.conflict first second)
  | _ => .ok ()

/-- The values that the environment gives to settings, for a command line that does not. -/
structure Presets where
  plugin : Option Bytes
  symbol : Option Bytes
  deriving DecidableEq, Repr

/-- Accept what is pending, then what the environment adds, and see that the whole is admissible. -/
def finish (presets : Presets) (progress : Progress) : Except Fault (List Given) := do
  let progress ← progress.settle
  let given ← fallBack progress.given .plugin presets.plugin
  let given ← fallBack given .symbol presets.symbol
  checkConflict given
  if Setting.plugin ∈ settings given then return given else .error .missingPlugin

/-- Read the arguments that follow the program's name. -/
def read (presets : Presets) (arguments : List Bytes) : Except Stop (List Given) := do
  let progress ← arguments.foldlM readArgument Progress.start
  (finish presets progress).mapError .fault

end PluginHost.CommandLine
