import PluginHost.Proofs.Process.Likeness
import PluginHost.Proofs.Runner.Services

/-!
# Runs side by side

Two situations with one machine and one command line may have outsides that are alike. As long as
nothing is asked for that is withheld, one run comes to all that the other comes to.
-/

namespace PluginHost

open Process (Like LoadSettings)

namespace Process

variable {machine : Machine} {likeness : Likeness} {before after : Process}

theorem Asks.later (asks : before.Asks likeness) (proceeds : Proceeds machine before after) :
    after.Asks likeness :=
  let ⟨question, asked, withheld⟩ := asks
  ⟨question, proceeds.asked asked, withheld⟩

end Process

namespace Situation

variable {situation : Situation} {likeness : Likeness}

/-- What has been asked for before a library is opened has been asked for after it. -/
theorem unasking_before {arguments : Arguments} {request : Request}
    {outcome : Except LoadFault ObjectId} {after : Process}
    (opens : (situation.ready arguments request).openLibrary arguments.plugin = (outcome, after))
    (unasking : ¬after.Asks likeness) : ¬situation.process.Asks likeness := by
  have proceeds := Process.openLibrary_proceeds (situation.ready_runsOn arguments request)
    arguments.plugin
  rw [opens] at proceeds
  intro asks
  have inReady : (situation.ready arguments request).Asks likeness := asks
  exact unasking (inReady.later proceeds)

theorem Opens.unasking {opening : Opening} (opens : situation.Opens opening)
    (unasking : ¬opening.resolved.Asks likeness) : ¬situation.process.Asks likeness :=
  unasking_before opens.opens fun asks => unasking (asks.later opens.resolves)

/-- Something that is withheld is asked for in the run. -/
def Asks (situation : Situation) (likeness : Likeness) : Prop :=
  ∃ question ∈ situation.course.asked, likeness.withheld question

/-- Where a run asks for nothing that is withheld, nothing has been asked for when the process is
left. -/
theorem Stops.unasking {ending : Ending} {process : Process}
    (stops : situation.Stops ending process) (nulFree : situation.NulFree)
    (unasking : ¬situation.Asks likeness) : ¬process.finish.Asks likeness := by
  rw [Asks, course_asked, stops.stop_eq nulFree] at unasking
  exact unasking

theorem StopsEarly.unasking {ending : Ending} {process : Process}
    (stops : situation.StopsEarly ending process) (nulFree : situation.NulFree)
    (unasking : ¬situation.Asks likeness) : ¬process.Asks likeness := fun asks =>
  Stops.unasking (.early stops) nulFree unasking
    (asks.later (Process.finish_proceeds stops.runsOn))

/-- Two situations that differ in nothing that the program itself looks at, and in front of outsides
that are alike. -/
structure Kindred (likeness : Likeness) (first second : Situation) : Prop where
  arguments : second.arguments = first.arguments
  machine : second.machine = first.machine
  presets : second.presets = first.presets
  settings : LoadSettings.ofEnvironment second.environment = .ofEnvironment first.environment
  isCut : Log.Filter.isCut second.logSetting = Log.Filter.isCut first.logSetting
  alike : likeness.holds (.initial first.stdout first.environment)
    (.initial second.stdout second.environment)

namespace Kindred

variable {first second : Situation}

theorem parsed_eq (kindred : Kindred likeness first second) : second.parsed = first.parsed := by
  rw [parsed, parsed, kindred.presets, kindred.arguments]

theorem helpText_eq (kindred : Kindred likeness first second) :
    second.helpText = first.helpText := by
  rw [helpText, helpText, kindred.presets, calledBy, kindred.arguments, calledBy]

theorem builds (kindred : Kindred likeness first second) {arguments : Arguments}
    {request : Request} (builds : first.Builds arguments request) :
    second.Builds arguments request :=
  ⟨kindred.parsed_eq.trans builds.parsed, kindred.machine ▸ builds.built⟩

theorem process_like (kindred : Kindred likeness first second)
    (unasking : ¬first.process.Asks likeness) :
    Like first.machine likeness first.process second.process := by
  rw [process, process, kindred.machine, kindred.arguments]
  exact Process.start_like kindred.alike kindred.settings unasking

theorem begins (kindred : Kindred likeness first second)
    (unasking : ¬first.process.Asks likeness) (begins : first.Begins) : second.Begins :=
  ⟨(kindred.process_like unasking).ended_eq.trans begins.goesOn,
    kindred.isCut.trans begins.uncut⟩

theorem ready_like (kindred : Kindred likeness first second)
    (unasking : ¬first.process.Asks likeness) (arguments : Arguments) (request : Request) :
    Like first.machine likeness (first.ready arguments request)
      (second.ready arguments request) :=
  (kindred.process_like unasking).tell _

/-- What comes of opening the library. -/
theorem openLibrary (kindred : Kindred likeness first second) {arguments : Arguments}
    {request : Request} {outcome : Except LoadFault ObjectId} {after : Process}
    (opens : (first.ready arguments request).openLibrary arguments.plugin = (outcome, after))
    (unasking : ¬after.Asks likeness) :
    ∃ there, (second.ready arguments request).openLibrary arguments.plugin = (outcome, there) ∧
      Like first.machine likeness after there := by
  have like := kindred.ready_like (unasking_before opens unasking) arguments request
  obtain ⟨there, same, likeLater⟩ := like.acts (Process.openLibrary_acts arguments.plugin) (by
    rw [opens]
    exact unasking)
  rw [opens] at same likeLater
  exact ⟨there, same, likeLater⟩

variable {opening : Opening} {invocation : Invocation}

theorem opens (kindred : Kindred likeness first second) (opens : first.Opens opening)
    (unasking : ¬opening.opened.Asks likeness) :
    ∃ there, second.Opens { opening with opened := there } ∧
      Like first.machine likeness opening.opened there := by
  obtain ⟨there, opensThere, like⟩ := kindred.openLibrary opens.opens unasking
  exact ⟨there, ⟨kindred.builds opens.builds, opensThere⟩, like⟩

/-- What comes of looking for the symbol. -/
theorem resolves (kindred : Kindred likeness first second) (opens : first.Opens opening)
    (unasking : ¬opening.resolved.Asks likeness) :
    ∃ other, second.Opens other ∧ other.arguments = opening.arguments ∧
      other.request = opening.request ∧ other.library = opening.library ∧
      other.missing = opening.missing ∧ other.resolution.1 = opening.resolution.1 ∧
      Like first.machine likeness opening.resolved other.resolved := by
  obtain ⟨there, opensThere, like⟩ :=
    kindred.opens opens fun asks => unasking (asks.later opens.resolves)
  obtain ⟨resolved, same, likeLater⟩ := like.acts (Process.symbolAddress?_acts _ _) unasking
  let other : Opening := { opening with opened := there }
  have resolution : other.resolution = (opening.resolution.1, resolved) := same
  have isResolved : other.resolved = resolved := congrArg Prod.snd resolution
  have missing : other.missing = opening.missing := by
    obtain ⟨outside, rfl, _⟩ := like.facing
    rfl
  refine ⟨other, opensThere, rfl, rfl, rfl, missing, ?_, ?_⟩
  · rw [resolution]
  · rw [isResolved]
    exact likeLater

/-- A run comes to the call of the same trigger with the same request. -/
theorem invokes (kindred : Kindred likeness first second) (invokes : first.Invokes invocation)
    (unasking : ¬invocation.opening.resolved.Asks likeness) :
    ∃ other, second.Invokes other ∧ other.plugin = invocation.plugin ∧
      other.opening.request = invocation.opening.request ∧
      other.opening.library = invocation.opening.library ∧
      Like first.machine likeness invocation.opening.resolved other.opening.resolved ∧
      Like first.machine likeness invocation.process other.process := by
  obtain ⟨other, opens, arguments, request, library, _, resolution, like⟩ :=
    kindred.resolves invokes.opens unasking
  refine ⟨⟨other, invocation.address⟩, ⟨opens, resolution.trans invokes.resolves⟩, ?_, request,
    library, like, ?_⟩
  · obtain ⟨outside, isFacing, _⟩ := like.facing
    rw [Invocation.plugin, Invocation.plugin, arguments, library, isFacing]
    rfl
  · have calls := (like.tell (.event (.symbolResolved other.arguments.plugin
      other.arguments.symbol))).tell (.event (.pluginLoaded other.arguments.plugin
        other.arguments.symbol))
    rw [Invocation.process, Invocation.process, ← arguments]
    exact calls

theorem calls (kindred : Kindred likeness first second) (calls : first.Calls invocation)
    (unasking : ¬invocation.opening.resolved.Asks likeness) :
    ∃ other, second.Calls other ∧ other.plugin = invocation.plugin ∧
      other.opening.request = invocation.opening.request ∧
      other.opening.library = invocation.opening.library ∧
      Like first.machine likeness invocation.process other.process := by
  obtain ⟨other, invokes, plugin, request, library, like, called⟩ :=
    kindred.invokes calls.invokes unasking
  have begins := kindred.begins (calls.invokes.opens.unasking unasking) calls.begins
  exact ⟨other, ⟨begins, invokes, like.ended_eq.trans calls.goesOn⟩, plugin, request, library,
    called⟩

/-- What stops one run before a trigger is called stops the other one. -/
theorem stopsEarly (kindred : Kindred likeness first second) {ending : Ending} {process : Process}
    (stops : first.StopsEarly ending process) (unasking : ¬process.Asks likeness) :
    ∃ there, second.StopsEarly ending there ∧ Like first.machine likeness process there := by
  cases stops with
  | ended ends =>
      have like := kindred.process_like unasking
      exact ⟨_, .ended (like.ended_eq ▸ ends), like⟩
  | panicked goesOn cut =>
      have like := kindred.process_like unasking
      exact ⟨_, .panicked (like.ended_eq.trans goesOn) (kindred.isCut.trans cut), like⟩
  | help begins asked =>
      have unaskingBefore : ¬first.process.Asks likeness := fun asks => unasking <| by
        obtain ⟨question, asked, withheld⟩ := asks
        refine ⟨question, ?_, withheld⟩
        rw [printHelp, (Outside.print_sameBut _ _).asked]
        exact asked
      have like := kindred.process_like unaskingBefore
      rw [← kindred.helpText_eq]
      exact ⟨_, .help (kindred.begins unaskingBefore begins) (kindred.parsed_eq.trans asked),
        like.print _⟩
  | refused begins refused =>
      exact ⟨_, .refused (kindred.begins unasking begins) (kindred.parsed_eq.trans refused),
        kindred.process_like unasking⟩
  | request begins parsed fails =>
      refine ⟨_, .request (kindred.begins unasking begins) (kindred.parsed_eq.trans parsed) ?_,
        kindred.process_like unasking⟩
      rw [kindred.machine]
      exact fails
  | library begins builds fails =>
      obtain ⟨there, failsThere, like⟩ := kindred.openLibrary fails unasking
      have beginsThere := kindred.begins (unasking_before fails unasking) begins
      exact ⟨there, .library beginsThere (kindred.builds builds) failsThere, like⟩
  | @symbol begins opening opens fails =>
      have closes := Process.closeLibrary_proceeds opens.resolves.runsOn opening.library
      have unaskingResolved : ¬opening.resolved.Asks likeness :=
        fun asks => unasking (asks.later closes)
      obtain ⟨other, opensThere, _, _, library, missing, resolution, like⟩ :=
        kindred.resolves opens unaskingResolved
      have beginsThere := kindred.begins (opens.unasking unaskingResolved) begins
      have stops := StopsEarly.symbol beginsThere opensThere (resolution.trans fails)
      rw [missing, library] at stops
      exact ⟨_, stops, like.closeLibrary opening.library unasking⟩
  | resolved begins invokes ends =>
      obtain ⟨other, invokesThere, _, _, _, like, _⟩ := kindred.invokes invokes unasking
      have beginsThere := kindred.begins (invokes.opens.unasking unasking) begins
      exact ⟨_, .resolved beginsThere invokesThere (like.ended_eq ▸ ends), like⟩

end Kindred

end Situation

end PluginHost
