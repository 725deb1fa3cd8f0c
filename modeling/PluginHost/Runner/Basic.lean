import PluginHost.CommandLine.Arguments
import PluginHost.CommandLine.Help
import PluginHost.Log.Filter
import PluginHost.Plugin
import PluginHost.Process.Start

/-!
# Runs

A run reads the command line, builds the request, loads the plugin, and calls its trigger; the first
stage that fails ends it. Events are told in the order in which stages pass. What a filter decides
is only which of them become lines; but a setting that cannot be cut into its parts ends the run
before its first stage. What has been loaded may end the run at any time.
-/

namespace PluginHost

open PluginHost.Text
open CommandLine (Fault Stop Presets)

/-- All that a run depends on. The arguments begin with the program's name. -/
structure Situation where
  arguments : List Bytes
  environment : Environment
  machine : Machine
  stdout : Stdout

/-- Why a run fails after the command line has been read. -/
inductive Failure where
  | request (error : BuildError)
  | plugin (path : Bytes) (error : PluginError)
  | status (code : Int32)
  deriving DecidableEq, Repr

/-- How a run ends. -/
inductive Ending where
  /-- The setting of the filters could not be cut into its parts. -/
  | panicked
  /-- Help was asked for; the text is for a terminal. -/
  | help (text : String)
  | refused (fault : Fault)
  | failed (failure : Failure)
  | completed
  /-- The process was ended by what it had loaded. -/
  | left (code : Nat)
  deriving DecidableEq, Repr

/-- The course of a run: what was told before its ending and after it, what was printed, what the
code that was loaded has asked for, last first, and how it ended. -/
structure Course where
  notices : List Notice
  printed : Bytes
  asked : List Question
  ending : Ending
  farewell : List Notice

namespace Course

/-- The course of a process whose program has come to an ending. One that has been ended by what it
has loaded, before or while it is left, has that ending. -/
def ofProcess (process : Process) (ending : Ending) : Course :=
  let told := process.outside.notices
  let finished := process.finish
  let outside := finished.outside
  match finished.ended with
  | some leaving => ⟨outside.notices, outside.printed, outside.asked, .left leaving.code, []⟩
  | none =>
      ⟨told, outside.printed, outside.asked, ending, outside.notices.drop told.length⟩

end Course

namespace Situation

def presets (situation : Situation) : Presets :=
  ⟨situation.environment.find? "TRIGGER_PLUGIN", situation.environment.find? "TRIGGER_SYMBOL"⟩

/-- The path by which the program was called. -/
def calledBy (situation : Situation) : Bytes := situation.arguments.headD []

/-- The variable that sets the filters. -/
def logSetting (situation : Situation) : Option Bytes := situation.environment.find? "RUST_LOG"

/-- The process in which the program runs. -/
def process (situation : Situation) : Process :=
  .start situation.machine situation.arguments situation.stdout situation.environment

/-! The program comes to an ending in a process. Where that has been ended by what is loaded, the
ending counts for nothing. -/

/-- Call the trigger, judge its status, and give the plugin up. -/
def runTrigger (process : Process) (plugin : Plugin) (request : Request) : Ending × Process :=
  let (status, process) := plugin.invoke process request
  if process.ended.isSome then (.completed, process)
  else if status = 0 then
    (.completed, plugin.close (process.tell (.event .triggerCompleted)))
  else (.failed (.status status), plugin.close process)

/-- Load the plugin and go on. -/
def runPlugin (process : Process) (arguments : Arguments) (request : Request) :
    Ending × Process :=
  match Plugin.load process arguments.plugin arguments.symbol with
  | (.error error, process) => (.failed (.plugin arguments.plugin error), process)
  | (.ok plugin, process) =>
      if process.ended.isSome then (.completed, process)
      else
        let process := process.tell (.event (.symbolResolved plugin.path arguments.symbol))
        let process := process.tell (.event (.pluginLoaded plugin.path arguments.symbol))
        runTrigger process plugin request

/-- Build the request and go on. -/
def runArguments (process : Process) (files : FileTree) (arguments : Arguments) :
    Ending × Process :=
  match arguments.request files with
  | .error error => (.failed (.request error), process)
  | .ok request =>
      let built := Log.Event.requestBuilt arguments.method arguments.uri request.headerCount
      runPlugin (process.tell (.event built)) arguments request

/-- Print help for what it is, without what only a terminal understands. -/
def printHelp (process : Process) (text : String) : Process :=
  { process with
    outside := process.outside.print (Utf8.encode (Terminal.stripUnderway text)) }

/-- Read the command line and go on. -/
def runProgram (situation : Situation) (process : Process) : Ending × Process :=
  match Arguments.parse situation.presets situation.arguments.tail with
  | .error .help =>
      let text := CommandLine.styledHelp situation.calledBy situation.presets
      (.help text, printHelp process text)
  | .error (.fault fault) => (.refused fault, process)
  | .ok arguments => runArguments process situation.machine.files arguments

/-- Where the program stops: the ending that it comes to, and the process that it leaves then. -/
def stop (situation : Situation) : Ending × Process :=
  let process := situation.process
  if process.ended.isSome then (.completed, process)
  else if Log.Filter.isCut situation.logSetting then (.panicked, process)
  else situation.runProgram process

def course (situation : Situation) : Course := .ofProcess situation.stop.2 situation.stop.1

end Situation

end PluginHost
