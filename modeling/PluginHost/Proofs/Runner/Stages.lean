import PluginHost.Proofs.CommandLine.NulFree
import PluginHost.Proofs.Process.Output
import PluginHost.Runner.Basic
import PluginHost.Trigger.RequestLogger

/-!
# Stages of a run

A run parses its command line, builds the request, opens the library, resolves the symbol and calls
the trigger. Its ending is that of the first stage that fails, unless what it has loaded ends the
process.
-/

namespace PluginHost

open PluginHost.Text
open CommandLine (Fault Stop Presets)

/-- A library that has been opened for a request. -/
structure Opening where
  arguments : Arguments
  request : Request
  library : ObjectId
  opened : Process

namespace Opening

/-- The address of the symbol in the library, and the process after it has been looked for. -/
def resolution (opening : Opening) : Option UInt64 × Process :=
  opening.opened.symbolAddress? opening.library (Utf8.encode opening.arguments.symbol)

/-- The process after the symbol has been looked for. -/
def resolved (opening : Opening) : Process := opening.resolution.2

/-- The failure of a run whose library does not have the symbol. -/
def missing (opening : Opening) : Failure :=
  .plugin opening.arguments.plugin
    (.symbol opening.arguments.symbol (opening.opened.pathOf opening.library))

end Opening

/-- A trigger that is about to be called. -/
structure Invocation where
  opening : Opening
  address : UInt64

namespace Invocation

def plugin (invocation : Invocation) : Plugin :=
  ⟨invocation.opening.arguments.plugin, invocation.opening.library,
    Plugin.calleeAt invocation.opening.resolved invocation.address⟩

/-- It is the trigger of the request logger. -/
def CallsLogger (invocation : Invocation) : Prop :=
  invocation.plugin.callee = .service (.trigger RequestLogger.trigger)

/-- The process in which the trigger is called. -/
def process (invocation : Invocation) : Process :=
  let arguments := invocation.opening.arguments
  let resolved := invocation.opening.resolved.tell
    (.event (.symbolResolved arguments.plugin arguments.symbol))
  resolved.tell (.event (.pluginLoaded arguments.plugin arguments.symbol))

/-- What the call gives back. -/
def outcome (invocation : Invocation) : Int32 × Process :=
  invocation.plugin.invoke invocation.process invocation.opening.request

/-- The process after the call. -/
def called (invocation : Invocation) : Process := invocation.outcome.2

end Invocation

namespace Situation

variable (situation : Situation)

def parsed : Except Stop Arguments := Arguments.parse situation.presets situation.arguments.tail

def helpText : String := CommandLine.styledHelp situation.calledBy situation.presets

/-- The process when a request has been built. -/
def ready (arguments : Arguments) (request : Request) : Process :=
  situation.process.tell
    (.event (.requestBuilt arguments.method arguments.uri request.headerCount))

/-- The program begins its work. -/
structure Begins : Prop where
  goesOn : situation.process.ended = none
  uncut : Log.Filter.isCut situation.logSetting = false

/-- The run comes to the request. -/
structure Builds (arguments : Arguments) (request : Request) : Prop where
  parsed : situation.parsed = .ok arguments
  built : arguments.request situation.machine.files = .ok request

/-- The run comes to the library. -/
structure Opens (opening : Opening) : Prop where
  builds : situation.Builds opening.arguments opening.request
  opens : (situation.ready opening.arguments opening.request).openLibrary opening.arguments.plugin =
    (.ok opening.library, opening.opened)

/-- The run comes to the call of the trigger. -/
structure Invokes (invocation : Invocation) : Prop where
  opens : situation.Opens invocation.opening
  resolves : invocation.opening.resolution.1 = some invocation.address

/-- The trigger is called: the run comes to it, and nothing has ended the process before. -/
structure Calls (invocation : Invocation) : Prop where
  begins : situation.Begins
  invokes : situation.Invokes invocation
  goesOn : invocation.opening.resolved.ended = none

/-- The ending of the first stage that does not pass. -/
inductive EndsIn : Ending → Prop where
  | help (asked : situation.parsed = .error .help) : EndsIn (.help situation.helpText)
  | refused {fault : Fault} (refused : situation.parsed = .error (.fault fault)) :
      EndsIn (.refused fault)
  | request {arguments : Arguments} {error : BuildError} (parsed : situation.parsed = .ok arguments)
      (fails : arguments.request situation.machine.files = .error error) :
      EndsIn (.failed (.request error))
  | library {arguments : Arguments} {request : Request} {fault : LoadFault}
      (builds : situation.Builds arguments request)
      (fails : ((situation.ready arguments request).openLibrary arguments.plugin).1 =
        .error fault) :
      EndsIn (.failed (.plugin arguments.plugin (.load arguments.plugin fault)))
  | symbol {opening : Opening} (opens : situation.Opens opening)
      (fails : opening.resolution.1 = none) :
      EndsIn (.failed opening.missing)
  | status {invocation : Invocation} (invokes : situation.Invokes invocation)
      (nonzero : invocation.outcome.1 ≠ 0) :
      EndsIn (.failed (.status invocation.outcome.1))
  | completed {invocation : Invocation} (invokes : situation.Invokes invocation)
      (zero : invocation.outcome.1 = 0) :
      EndsIn .completed

/-- The ways in which the program stops before a trigger is called, and the process that it leaves
then. What is loaded may end the process before. -/
inductive StopsEarly : Ending → Process → Prop where
  | ended (ends : situation.process.ended ≠ none) : StopsEarly .completed situation.process
  | panicked (goesOn : situation.process.ended = none)
      (cut : Log.Filter.isCut situation.logSetting = true) :
      StopsEarly .panicked situation.process
  | help (begins : situation.Begins) (asked : situation.parsed = .error .help) :
      StopsEarly (.help situation.helpText) (printHelp situation.process situation.helpText)
  | refused (begins : situation.Begins) {fault : Fault}
      (refused : situation.parsed = .error (.fault fault)) :
      StopsEarly (.refused fault) situation.process
  | request (begins : situation.Begins) {arguments : Arguments} {error : BuildError}
      (parsed : situation.parsed = .ok arguments)
      (fails : arguments.request situation.machine.files = .error error) :
      StopsEarly (.failed (.request error)) situation.process
  | library (begins : situation.Begins) {arguments : Arguments} {request : Request}
      {fault : LoadFault} {after : Process} (builds : situation.Builds arguments request)
      (fails : (situation.ready arguments request).openLibrary arguments.plugin =
        (.error fault, after)) :
      StopsEarly (.failed (.plugin arguments.plugin (.load arguments.plugin fault))) after
  | symbol (begins : situation.Begins) {opening : Opening} (opens : situation.Opens opening)
      (fails : opening.resolution.1 = none) :
      StopsEarly (.failed opening.missing) (opening.resolved.closeLibrary opening.library)
  | resolved (begins : situation.Begins) {invocation : Invocation}
      (invokes : situation.Invokes invocation)
      (ends : invocation.opening.resolved.ended ≠ none) :
      StopsEarly .completed invocation.opening.resolved

/-- The ways in which the program stops. -/
inductive Stops : Ending → Process → Prop where
  | early {ending : Ending} {process : Process} (stops : situation.StopsEarly ending process) :
      Stops ending process
  | called {invocation : Invocation} (calls : situation.Calls invocation)
      (ends : invocation.called.ended ≠ none) :
      Stops .completed invocation.called
  | status {invocation : Invocation} (calls : situation.Calls invocation)
      (returns : invocation.called.ended = none) (nonzero : invocation.outcome.1 ≠ 0) :
      Stops (.failed (.status invocation.outcome.1))
        (invocation.called.closeLibrary invocation.opening.library)
  | completed {invocation : Invocation} (calls : situation.Calls invocation)
      (returns : invocation.called.ended = none) (zero : invocation.outcome.1 = 0) :
      Stops .completed
        ((invocation.called.tell (.event .triggerCompleted)).closeLibrary
          invocation.opening.library)

/-- Nothing that is loaded ends the process, neither before it is left nor when it is. -/
def Survives : Prop := situation.stop.2.finish.ended = none

/-- What the system delivers to a program holds no NUL. -/
structure NulFree : Prop where
  arguments : ∀ argument ∈ situation.arguments, 0 ∉ argument
  environment : ∀ entry ∈ situation.environment, 0 ∉ entry.2

end Situation

/-! ## Loading -/

namespace Plugin

theorem unterminated?_eq {name : Bytes} (nulFree : 0 ∉ name) : unterminated? name = some name := by
  have noneLast : name.getLast? ≠ some 0 := fun last => nulFree (List.mem_of_getLast? last)
  have noneInside : name.contains 0 = false := by simpa using nulFree
  rw [unterminated?, if_neg noneLast, noneInside]
  rfl

theorem load_of_closed {process after : Process} {path : Bytes} {symbol : String}
    {fault : LoadFault} (pathFree : 0 ∉ path)
    (fails : process.openLibrary path = (.error fault, after)) :
    load process path symbol = (.error (.load path fault), after) := by
  simp only [load, unterminated?_eq pathFree, fails]

theorem load_of_opened {process opened : Process} {path : Bytes} {symbol : String}
    {library : ObjectId} (pathFree : 0 ∉ path)
    (opens : process.openLibrary path = (.ok library, opened)) :
    load process path symbol = ofLibrary opened path library symbol := by
  simp only [load, unterminated?_eq pathFree, opens]

theorem ofLibrary_of_missing {opened after : Process} {path : Bytes} {symbol : String}
    {library : ObjectId} (symbolFree : 0 ∉ Utf8.encode symbol)
    (missing : opened.symbolAddress? library (Utf8.encode symbol) = (none, after)) :
    ofLibrary opened path library symbol =
      (.error (.symbol symbol (opened.pathOf library)), after.closeLibrary library) := by
  simp only [ofLibrary, unterminated?_eq symbolFree, missing]

theorem ofLibrary_of_found {opened after : Process} {path : Bytes} {symbol : String}
    {library : ObjectId} {address : UInt64} (symbolFree : 0 ∉ Utf8.encode symbol)
    (found : opened.symbolAddress? library (Utf8.encode symbol) = (some address, after)) :
    ofLibrary opened path library symbol =
      (.ok ⟨path, library, calleeAt after address⟩, after) := by
  simp only [ofLibrary, unterminated?_eq symbolFree, found]

end Plugin

namespace Process

/-- A process that has been ended stays so when it is left. -/
theorem ended_of_finish {process : Process} (goesOn : process.finish.ended = none) :
    process.ended = none := by
  rcases isEnded : process.ended with _ | ⟨code, _ | _⟩
  · rfl
  · rw [finish, isEnded] at goesOn
    exact isEnded.symm.trans goesOn
  · rw [finish, isEnded] at goesOn
    cases goesOn

end Process

namespace Situation

variable {situation : Situation} {ending : Ending} {process : Process}

/-! ## Where the program stops -/

theorem parsed_nulFree (nulFree : situation.NulFree) {arguments : Arguments}
    (parsed : situation.parsed = .ok arguments) : arguments.NulFree := by
  have inEnvironment {name : String} {raw : Bytes}
      (found : situation.environment.find? name = some raw) : 0 ∉ raw := by
    obtain ⟨first, last, split, _⟩ := List.lookup_eq_some_iff.mp found
    exact nulFree.environment (name, raw) (split ▸ by simp)
  exact Arguments.parse_nulFree ⟨fun _ => inEnvironment, fun _ => inEnvironment⟩
    (fun argument member => nulFree.arguments argument (List.mem_of_mem_tail member)) parsed

theorem Begins.stop_eq (begins : situation.Begins) :
    situation.stop = situation.runProgram situation.process := by
  simp only [stop, begins.goesOn, begins.uncut, Option.isSome_none, Bool.false_eq_true, ↓reduceIte]

theorem Begins.stop_of_parsed (begins : situation.Begins) {arguments : Arguments}
    (parsed : situation.parsed = .ok arguments) :
    situation.stop = runArguments situation.process situation.machine.files arguments := by
  rw [Situation.parsed] at parsed
  rw [begins.stop_eq, runProgram, parsed]

theorem Begins.stop_of_builds (begins : situation.Begins) {arguments : Arguments}
    {request : Request} (builds : situation.Builds arguments request) :
    situation.stop = runPlugin (situation.ready arguments request) arguments request := by
  rw [begins.stop_of_parsed builds.parsed, runArguments, builds.built]
  rfl

theorem Begins.stop_of_missing (begins : situation.Begins) (nulFree : situation.NulFree)
    {opening : Opening} (opens : situation.Opens opening) (missing : opening.resolution.1 = none) :
    situation.stop =
      (.failed opening.missing, opening.resolved.closeLibrary opening.library) := by
  have argumentsFree := parsed_nulFree nulFree opens.builds.parsed
  have resolution : opening.opened.symbolAddress? opening.library
      (Utf8.encode opening.arguments.symbol) = (none, opening.resolved) :=
    Prod.ext missing rfl
  rw [begins.stop_of_builds opens.builds, runPlugin,
    Plugin.load_of_opened argumentsFree.plugin opens.opens,
    Plugin.ofLibrary_of_missing argumentsFree.symbol resolution]
  rfl

/-- A process that is ended while the trigger is looked for does not call it. -/
theorem Begins.stop_of_found (begins : situation.Begins) (nulFree : situation.NulFree)
    {invocation : Invocation} (invokes : situation.Invokes invocation) :
    situation.stop =
      if invocation.opening.resolved.ended.isSome then
        (.completed, invocation.opening.resolved)
      else runTrigger invocation.process invocation.plugin invocation.opening.request := by
  have opens := invokes.opens
  have argumentsFree := parsed_nulFree nulFree opens.builds.parsed
  have resolution : invocation.opening.opened.symbolAddress? invocation.opening.library
      (Utf8.encode invocation.opening.arguments.symbol) =
        (some invocation.address, invocation.opening.resolved) :=
    Prod.ext invokes.resolves rfl
  rw [begins.stop_of_builds opens.builds, runPlugin,
    Plugin.load_of_opened argumentsFree.plugin opens.opens,
    Plugin.ofLibrary_of_found argumentsFree.symbol resolution]
  rfl

theorem Calls.stop_eq (nulFree : situation.NulFree) {invocation : Invocation}
    (calls : situation.Calls invocation) :
    situation.stop =
      if invocation.called.ended.isSome then (.completed, invocation.called)
      else if invocation.outcome.1 = 0 then
        (.completed, (invocation.called.tell (.event .triggerCompleted)).closeLibrary
          invocation.opening.library)
      else
        (.failed (.status invocation.outcome.1),
          invocation.called.closeLibrary invocation.opening.library) := by
  rw [calls.begins.stop_of_found nulFree calls.invokes, calls.goesOn, if_neg (by simp)]
  rfl

theorem StopsEarly.stop_eq (stops : situation.StopsEarly ending process)
    (nulFree : situation.NulFree) : situation.stop = (ending, process) := by
  cases stops with
  | ended ends => rw [stop, if_pos (Option.isSome_iff_ne_none.mpr ends)]
  | panicked goesOn cut =>
      simp only [stop, goesOn, cut, Option.isSome_none, Bool.false_eq_true, ↓reduceIte]
  | help begins asked =>
      rw [parsed] at asked
      rw [begins.stop_eq, runProgram, asked]
      rfl
  | refused begins refused =>
      rw [parsed] at refused
      rw [begins.stop_eq, runProgram, refused]
  | request begins parsed fails => rw [begins.stop_of_parsed parsed, runArguments, fails]
  | library begins builds fails =>
      rw [begins.stop_of_builds builds, runPlugin,
        Plugin.load_of_closed (parsed_nulFree nulFree builds.parsed).plugin fails]
  | symbol begins opens fails => exact begins.stop_of_missing nulFree opens fails
  | resolved begins invokes ends =>
      rw [begins.stop_of_found nulFree invokes, if_pos (Option.isSome_iff_ne_none.mpr ends)]

/-- The program stops in one way only. -/
theorem Stops.stop_eq (stops : situation.Stops ending process) (nulFree : situation.NulFree) :
    situation.stop = (ending, process) := by
  cases stops with
  | early stops => exact stops.stop_eq nulFree
  | called calls ends => rw [calls.stop_eq nulFree, if_pos (Option.isSome_iff_ne_none.mpr ends)]
  | status calls returns nonzero =>
      rw [calls.stop_eq nulFree, returns, if_neg (by simp), if_neg nonzero]
  | completed calls returns zero =>
      rw [calls.stop_eq nulFree, returns, if_neg (by simp), if_pos zero]

theorem Calls.stops {invocation : Invocation} (calls : situation.Calls invocation) :
    ∃ ending process, situation.Stops ending process := by
  by_cases returns : invocation.called.ended = none
  · by_cases zero : invocation.outcome.1 = 0
    · exact ⟨_, _, .completed calls returns zero⟩
    · exact ⟨_, _, .status calls returns zero⟩
  · exact ⟨_, _, .called calls returns⟩

theorem Begins.stops_of_opens (begins : situation.Begins) {opening : Opening}
    (opens : situation.Opens opening) : ∃ ending process, situation.Stops ending process := by
  cases found : opening.resolution.1 with
  | none => exact ⟨_, _, .early (.symbol begins opens found)⟩
  | some address =>
      have invokes : situation.Invokes ⟨opening, address⟩ := ⟨opens, found⟩
      by_cases goesOn : opening.resolved.ended = none
      · exact Calls.stops ⟨begins, invokes, goesOn⟩
      · exact ⟨_, _, .early (.resolved begins invokes goesOn)⟩

theorem Begins.stops (begins : situation.Begins) :
    ∃ ending process, situation.Stops ending process := by
  rcases outcome : situation.parsed with (_ | fault) | arguments
  · exact ⟨_, _, .early (.help begins outcome)⟩
  · exact ⟨_, _, .early (.refused begins outcome)⟩
  · cases built : arguments.request situation.machine.files with
    | error error => exact ⟨_, _, .early (.request begins outcome built)⟩
    | ok request =>
        have builds : situation.Builds arguments request := ⟨outcome, built⟩
        rcases opens : (situation.ready arguments request).openLibrary arguments.plugin with
          ⟨fault | library, after⟩
        · exact ⟨_, _, .early (.library begins builds opens)⟩
        · have opens : situation.Opens ⟨arguments, request, library, after⟩ := ⟨builds, opens⟩
          exact begins.stops_of_opens opens

/-- All that can become of the program. -/
theorem stops (nulFree : situation.NulFree) :
    situation.Stops situation.stop.1 situation.stop.2 := by
  have some : ∃ ending process, situation.Stops ending process := by
    by_cases goesOn : situation.process.ended = none
    · cases uncut : Log.Filter.isCut situation.logSetting with
      | true => exact ⟨_, _, .early (.panicked goesOn uncut)⟩
      | false => exact Begins.stops ⟨goesOn, uncut⟩
    · exact ⟨_, _, .early (.ended goesOn)⟩
  obtain ⟨ending, process, stops⟩ := some
  rw [stops.stop_eq nulFree]
  exact stops

/-! ## Runs that survive -/

theorem StopsEarly.endsIn (stops : situation.StopsEarly ending process)
    (goesOn : process.ended = none) (uncut : Log.Filter.isCut situation.logSetting = false) :
    situation.EndsIn ending := by
  cases stops with
  | ended ends => exact absurd goesOn ends
  | panicked _ cut => cases uncut.symm.trans cut
  | help _ asked => exact .help asked
  | refused _ refused => exact .refused refused
  | request _ parsed fails => exact .request parsed fails
  | library _ builds fails => exact .library builds (congrArg Prod.fst fails)
  | symbol _ opens fails => exact .symbol opens fails
  | resolved _ _ ends => exact absurd goesOn ends

section Survives

variable (nulFree : situation.NulFree) (survives : situation.Survives)

include nulFree survives

/-- No process ends in which the program would stop. -/
theorem Stops.goesOn (stops : situation.Stops ending process) : process.ended = none := by
  rw [Survives, stops.stop_eq nulFree] at survives
  exact Process.ended_of_finish survives

theorem begins_of_survives (uncut : Log.Filter.isCut situation.logSetting = false) :
    situation.Begins := by
  refine ⟨Classical.not_not.mp fun ends => ?_, uncut⟩
  exact ends (Stops.goesOn nulFree survives (.early (.ended ends)))

variable {invocation : Invocation}

theorem Invokes.calls (invokes : situation.Invokes invocation) (begins : situation.Begins) :
    situation.Calls invocation := by
  refine ⟨begins, invokes, Classical.not_not.mp fun ends => ?_⟩
  exact ends (Stops.goesOn nulFree survives (.early (.resolved begins invokes ends)))

theorem Calls.returns (calls : situation.Calls invocation) : invocation.called.ended = none :=
  Classical.not_not.mp fun ends => ends (Stops.goesOn nulFree survives (.called calls ends))

/-- The ending of the first stage that does not pass is that of the program. -/
theorem EndsIn.stops (endsIn : situation.EndsIn ending) (begins : situation.Begins) :
    ∃ process, situation.Stops ending process := by
  cases endsIn with
  | help asked => exact ⟨_, .early (.help begins asked)⟩
  | refused refused => exact ⟨_, .early (.refused begins refused)⟩
  | request parsed fails => exact ⟨_, .early (.request begins parsed fails)⟩
  | library builds fails => exact ⟨_, .early (.library begins builds (Prod.ext fails rfl))⟩
  | symbol opens fails => exact ⟨_, .early (.symbol begins opens fails)⟩
  | status invokes nonzero =>
      have calls := invokes.calls nulFree survives begins
      exact ⟨_, .status calls (calls.returns nulFree survives) nonzero⟩
  | completed invokes zero =>
      have calls := invokes.calls nulFree survives begins
      exact ⟨_, .completed calls (calls.returns nulFree survives) zero⟩

theorem Stops.endsIn (stops : situation.Stops ending process)
    (uncut : Log.Filter.isCut situation.logSetting = false) : situation.EndsIn ending := by
  have goesOn := stops.goesOn nulFree survives
  cases stops with
  | early stops => exact stops.endsIn goesOn uncut
  | called _ ends => exact absurd goesOn ends
  | status calls _ nonzero => exact .status calls.invokes nonzero
  | completed calls _ zero => exact .completed calls.invokes zero

end Survives

/-! ## The course of a run -/

theorem course_of_survives (survives : situation.Survives) :
    situation.course.ending = situation.stop.1 := by
  rw [Survives] at survives
  rw [course, Course.ofProcess, survives]

theorem course_printed : situation.course.printed = situation.stop.2.finish.outside.printed := by
  unfold course Course.ofProcess
  dsimp only
  split <;> rfl

theorem course_asked : situation.course.asked = situation.stop.2.finish.outside.asked := by
  unfold course Course.ofProcess
  dsimp only
  split <;> rfl

theorem ending_iff (nulFree : situation.NulFree) (survives : situation.Survives)
    (uncut : Log.Filter.isCut situation.logSetting = false) :
    situation.course.ending = ending ↔ situation.EndsIn ending := by
  rw [course_of_survives survives]
  constructor
  · rintro rfl
    exact (stops nulFree).endsIn nulFree survives uncut
  · intro endsIn
    obtain ⟨process, stops⟩ :=
      endsIn.stops nulFree survives (begins_of_survives nulFree survives uncut)
    rw [stops.stop_eq nulFree]

/-! ## What the code of a run does -/

theorem process_runsOn (situation : Situation) : situation.process.RunsOn situation.machine :=
  (Process.start_proceeds _ _ _ _).runsOn

theorem ready_runsOn (situation : Situation) (arguments : Arguments) (request : Request) :
    (situation.ready arguments request).RunsOn situation.machine :=
  situation.process_runsOn.tell _

variable {opening : Opening}

theorem Opens.proceeds (opens : situation.Opens opening) :
    Process.Proceeds situation.machine (situation.ready opening.arguments opening.request)
      opening.opened := by
  have proceeds := Process.openLibrary_proceeds
    (situation.ready_runsOn opening.arguments opening.request) opening.arguments.plugin
  rw [opens.opens] at proceeds
  exact proceeds

theorem Opens.resolves (opens : situation.Opens opening) :
    Process.Proceeds situation.machine opening.opened opening.resolved :=
  Process.symbolAddress?_proceeds opens.proceeds.runsOn _ _

theorem StopsEarly.runsOn (stops : situation.StopsEarly ending process) :
    process.RunsOn situation.machine := by
  cases stops with
  | ended | panicked | refused | request => exact situation.process_runsOn
  | help =>
      exact ⟨situation.process_runsOn.onMachine, situation.process_runsOn.offered⟩
  | @library _ arguments request _ _ _ fails =>
      have opens := Process.openLibrary_proceeds (situation.ready_runsOn arguments request)
        arguments.plugin
      rw [fails] at opens
      exact opens.runsOn
  | symbol _ opens => exact (Process.closeLibrary_proceeds opens.resolves.runsOn _).runsOn
  | resolved _ invokes => exact invokes.opens.resolves.runsOn

end Situation

end PluginHost
