import PluginHost.Proofs.Process.Services
import PluginHost.Proofs.Runner.Stages

/-!
# Runs with services

Where all libraries are libraries of services, and what is called is a trigger, there is no code
that could end the process or ask for something.
-/

namespace PluginHost

open PluginHost.Text

namespace Process

/-- A process in which there are only libraries of services, and to which no others come. -/
structure HoldsServices (process : Process) : Prop where
  withoutImages : process.machine.files.WithoutImages
  farewells : process.farewells = []
  goesOn : process.ended = none
  builtin : ∀ object ∈ process.objects, object.IsBuiltin
  unasking : process.outside.asked = []

variable {reference process : Process}

namespace HoldsServices

theorem inert (holds : process.HoldsServices) : Inert process process :=
  ⟨rfl, rfl, rfl, rfl, holds.builtin⟩

theorem withOutside (holds : process.HoldsServices) {outside : Outside}
    (unasking : outside.asked = []) : ({ process with outside } : Process).HoldsServices :=
  ⟨holds.withoutImages, holds.farewells, holds.goesOn, holds.builtin, unasking⟩

theorem tell (holds : process.HoldsServices) (notice : Notice) :
    (process.tell notice).HoldsServices :=
  holds.withOutside holds.unasking

theorem follow (holds : process.HoldsServices) (reply : Reply) :
    (process.follow reply).HoldsServices := by
  refine holds.withOutside ?_
  rw [Outside.follow_eq]
  exact holds.unasking

theorem print (holds : process.HoldsServices) (bytes : Bytes) :
    ({ process with outside := process.outside.print bytes } : Process).HoldsServices :=
  holds.withOutside ((process.outside.print_sameBut bytes).asked.trans holds.unasking)

end HoldsServices

theorem Inert.holdsServices (inert : Inert reference process) (holds : reference.HoldsServices) :
    process.HoldsServices :=
  ⟨inert.machine ▸ holds.withoutImages, inert.farewells.trans holds.farewells,
    inert.ended.trans holds.goesOn, inert.builtin,
    (congrArg Outside.asked inert.outside).trans holds.unasking⟩

theorem HoldsServices.openLibrary (holds : process.HoldsServices) (name : Bytes) :
    (process.openLibrary name).2.HoldsServices :=
  (holds.inert.openLibrary holds.withoutImages name).holdsServices holds

theorem HoldsServices.closeLibrary (holds : process.HoldsServices) (id : ObjectId) :
    (process.closeLibrary id).HoldsServices :=
  (holds.inert.closeLibrary id).holdsServices holds

/-- Services do not end a process that is left, and ask nothing then. -/
theorem HoldsServices.finish (holds : process.HoldsServices) :
    process.finish.ended = none ∧ process.finish.outside.asked = [] := by
  obtain ⟨goesOn, outside⟩ := holds.inert.finish holds.goesOn holds.farewells
  refine ⟨goesOn, ?_⟩
  rw [outside]
  exact process.outside.flush_sameBut.asked.trans holds.unasking

end Process

namespace Situation

variable {situation : Situation}

/-- The opening that the run comes to. -/
def opening? (situation : Situation) : Option Opening := do
  let arguments ← situation.parsed.toOption
  let request ← (arguments.request situation.machine.files).toOption
  let opened := (situation.ready arguments request).openLibrary arguments.plugin
  let library ← opened.1.toOption
  return ⟨arguments, request, library, opened.2⟩

/-- The invocation that the run comes to. -/
def invocation? (situation : Situation) : Option Invocation := do
  let opening ← situation.opening?
  let address ← opening.resolution.1
  return ⟨opening, address⟩

theorem toOption_eq_some_iff {ε α : Type} {outcome : Except ε α} {result : α} :
    outcome.toOption = some result ↔ outcome = .ok result := by
  cases outcome <;> simp [Except.toOption]

theorem opening?_eq_some_iff {opening : Opening} :
    situation.opening? = some opening ↔ situation.Opens opening := by
  simp only [opening?, Option.bind_eq_bind, Option.bind_eq_some_iff, toOption_eq_some_iff]
  constructor
  · rintro ⟨arguments, parsed, request, built, library, opens, ⟨⟩⟩
    exact ⟨⟨parsed, built⟩, Prod.ext opens rfl⟩
  · rintro ⟨⟨parsed, built⟩, opens⟩
    refine ⟨_, parsed, _, built, _, congrArg Prod.fst opens, ?_⟩
    rw [opens]
    rfl

theorem invocation?_eq_some_iff {invocation : Invocation} :
    situation.invocation? = some invocation ↔ situation.Invokes invocation := by
  simp only [invocation?, Option.bind_eq_bind, Option.bind_eq_some_iff, opening?_eq_some_iff]
  constructor
  · rintro ⟨opening, opens, address, resolves, ⟨⟩⟩
    exact ⟨opens, resolves⟩
  · rintro ⟨opens, resolves⟩
    exact ⟨_, opens, _, resolves, rfl⟩

theorem Opens.unique {first second : Opening} (opensFirst : situation.Opens first)
    (opensSecond : situation.Opens second) : first = second := by
  rw [← opening?_eq_some_iff] at opensFirst opensSecond
  exact Option.some.inj (opensFirst.symm.trans opensSecond)

theorem Invokes.unique {first second : Invocation} (invokesFirst : situation.Invokes first)
    (invokesSecond : situation.Invokes second) : first = second := by
  rw [← invocation?_eq_some_iff] at invokesFirst invokesSecond
  exact Option.some.inj (invokesFirst.symm.trans invokesSecond)

/-- A program that stops early calls nothing. -/
theorem StopsEarly.uncalled {ending : Ending} {process : Process}
    (stops : situation.StopsEarly ending process) :
    ¬∃ invocation, situation.Calls invocation := by
  rintro ⟨invocation, calls⟩
  have opens := calls.invokes.opens
  have builds := opens.builds
  cases stops with
  | ended ends => exact ends calls.begins.goesOn
  | panicked _ cut => cases cut.symm.trans calls.begins.uncut
  | help _ asked => cases asked.symm.trans builds.parsed
  | refused _ refused => cases refused.symm.trans builds.parsed
  | request _ parsed fails =>
      cases Except.ok.inj (parsed.symm.trans builds.parsed)
      cases fails.symm.trans builds.built
  | library _ buildsOther fails =>
      cases Except.ok.inj (buildsOther.parsed.symm.trans builds.parsed)
      cases Except.ok.inj (buildsOther.built.symm.trans builds.built)
      cases fails.symm.trans opens.opens
  | symbol _ opensOther fails =>
      cases opensOther.unique opens
      cases fails.symm.trans calls.invokes.resolves
  | resolved _ invokes ends =>
      cases invokes.unique calls.invokes
      exact ends calls.goesOn

/-- A run with nothing but services: no file is an image, nothing is loaded before the program, and
if anything is called, it is a trigger. -/
structure UsesServices (situation : Situation) : Prop where
  withoutImages : situation.machine.files.WithoutImages
  noneBefore : situation.environment.find? "LD_PRELOAD" = none
  calls : ∀ invocation, situation.Invokes invocation →
    ∃ trigger, invocation.plugin.callee = .service (.trigger trigger)

namespace UsesServices

theorem process (uses : situation.UsesServices) : situation.process.HoldsServices :=
  (Process.start_inert uses.withoutImages situation.arguments situation.stdout
    uses.noneBefore).holdsServices ⟨uses.withoutImages, rfl, rfl, by simp [Process.bare], rfl⟩

theorem ready (uses : situation.UsesServices) (arguments : Arguments) (request : Request) :
    (situation.ready arguments request).HoldsServices :=
  uses.process.tell _

theorem opened (uses : situation.UsesServices) {opening : Opening}
    (opens : situation.Opens opening) : opening.opened.HoldsServices := by
  have holds := (uses.ready opening.arguments opening.request).openLibrary opening.arguments.plugin
  rw [opens.opens] at holds
  exact holds

theorem resolved (uses : situation.UsesServices) {opening : Opening}
    (opens : situation.Opens opening) : opening.resolved = opening.opened :=
  (uses.opened opens).inert.symbolAddress? _ _

theorem resolves (uses : situation.UsesServices) {opening : Opening}
    (opens : situation.Opens opening) : opening.resolved.HoldsServices :=
  uses.resolved opens ▸ uses.opened opens

theorem called (uses : situation.UsesServices) {invocation : Invocation}
    (invokes : situation.Invokes invocation) : invocation.called.HoldsServices := by
  obtain ⟨trigger, called⟩ := uses.calls invocation invokes
  have holds : invocation.process.HoldsServices := ((uses.resolves invokes.opens).tell _).tell _
  rw [Invocation.called, Invocation.outcome, Plugin.invoke, called]
  exact holds.follow _

theorem stopsEarly (uses : situation.UsesServices) {ending : Ending} {process : Process}
    (stops : situation.StopsEarly ending process) : process.HoldsServices := by
  cases stops with
  | ended | panicked | refused | request => exact uses.process
  | help => exact uses.process.print _
  | @library _ arguments request fault after builds fails =>
      have holds := (uses.ready arguments request).openLibrary arguments.plugin
      rw [fails] at holds
      exact holds
  | symbol _ opens => exact (uses.resolves opens).closeLibrary _
  | resolved _ invokes => exact uses.resolves invokes.opens

/-- Wherever the program stops, there are only services. -/
theorem stops (uses : situation.UsesServices) {ending : Ending} {process : Process}
    (stops : situation.Stops ending process) : process.HoldsServices := by
  cases stops with
  | early stops => exact uses.stopsEarly stops
  | called calls => exact uses.called calls.invokes
  | status calls => exact (uses.called calls.invokes).closeLibrary _
  | completed calls => exact ((uses.called calls.invokes).tell _).closeLibrary _

/-- Nothing ends the process of such a run. -/
theorem survives (uses : situation.UsesServices) (nulFree : situation.NulFree) :
    situation.Survives :=
  (uses.stops (Situation.stops nulFree)).finish.1

end UsesServices

end Situation

/-- A machine with some files, and nothing of the system. -/
def Machine.ofFiles (files : FileTree) : Machine where
  files := files
  libraryDirectories := []
  subdirectories := []
  tokens := []
  origin := []
  program := .empty
  loader := .empty
  loaderPath := []
  systemPart := .empty
  systemName := []

namespace Situation

/-- A run with the request logger as its plugin, and with a line feed for a body. -/
def loggingSituation : Situation where
  arguments := ["runner", "-XPUT", "--body", "\n", "-H", "A: b"].map Utf8.encode
  environment := [("TRIGGER_PLUGIN", Utf8.encode "/p.so")]
  machine := .ofFiles ((FileTree.mk [] [] []).putLibrary (Utf8.encode "/p.so")
    (.ofList [("trigger", RequestLogger.trigger)]))
  stdout := .accepting

end Situation

end PluginHost
