import PluginHost.Proofs.Process.Events
import PluginHost.Proofs.Runner.Report

/-!
# Events of a run

How far a run comes decides which events it tells, in the order of its stages. Other events are
those of triggers that loaded code calls.
-/

namespace PluginHost

open PluginHost.Text

/-! ## What a run tells -/

/-- All events of a course, in order. -/
def Course.events (course : Course) : List Log.Event :=
  (course.notices ++ course.farewell).filterMap Notice.event?

def Arguments.builtEvent (arguments : Arguments) (request : Request) : Log.Event :=
  .requestBuilt arguments.method arguments.uri request.headerCount

def Arguments.loadedEvents (arguments : Arguments) : List Log.Event :=
  [.symbolResolved arguments.plugin arguments.symbol,
    .pluginLoaded arguments.plugin arguments.symbol]

/-- What a call of the plugin tells: what its trigger replies, or what triggers reply that are
called by its code. -/
def Plugin.Answers (plugin : Plugin) (has : Trigger → Prop) (stdout : Stdout) (request : Request)
    (events : List Log.Event) : Prop :=
  match plugin.callee with
  | .service (.trigger trigger) => events = (trigger (some request) stdout).events
  | _ => Replies has stdout events

theorem Plugin.Answers.mono {plugin : Plugin} {has more : Trigger → Prop} {stdout : Stdout}
    {request : Request} {events : List Log.Event}
    (answers : plugin.Answers has stdout request events)
    (weaker : ∀ trigger, has trigger → more trigger) :
    plugin.Answers more stdout request events := by
  unfold Plugin.Answers at answers ⊢
  split at answers
  · exact answers
  · exact answers.mono weaker

namespace Situation

/-- Other code than the program may call a trigger on the machine if it turns to standard output. -/
def MayCall (situation : Situation) (trigger : Trigger) : Prop :=
  situation.machine.Has trigger ∧ .output ∈ situation.course.asked

/-- Other code than the program calls triggers that reply so. -/
def Overhears (situation : Situation) (events : List Log.Event) : Prop :=
  Replies situation.MayCall situation.stdout events

/-- The events up to the end of the call. Code that is put into the process may call triggers before
the request is built, and while the plugin is loaded. -/
def CallTells (situation : Situation) (invocation : Invocation) (events : List Log.Event) : Prop :=
  let opening := invocation.opening
  ∃ early loading called,
    situation.Overhears early ∧ situation.Overhears loading ∧
      invocation.plugin.Answers situation.MayCall situation.stdout opening.request called ∧
      events = early ++ [opening.arguments.builtEvent opening.request] ++ loading ++
        opening.arguments.loadedEvents ++ called

/-- The events of a run that comes so far and no farther. Triggers may also be called by code that
is put into the process or taken out of it. -/
inductive Tells (situation : Situation) : List Log.Event → Prop where
  | unbuilt {others : List Log.Event}
      (fails : ∀ arguments request, situation.Builds arguments request → ¬situation.Begins)
      (overhears : situation.Overhears others) :
      Tells situation others
  | unloaded {arguments : Arguments} {request : Request} {early late : List Log.Event}
      (begins : situation.Begins) (builds : situation.Builds arguments request)
      (fails : ∀ invocation, ¬situation.Calls invocation)
      (overhears : situation.Overhears early) (overhearsLater : situation.Overhears late) :
      Tells situation (early ++ [arguments.builtEvent request] ++ late)
  | uncompleted {invocation : Invocation} {events late : List Log.Event}
      (calls : situation.Calls invocation)
      (fails : invocation.called.ended ≠ none ∨ invocation.outcome.1 ≠ 0)
      (tells : situation.CallTells invocation events) (overhears : situation.Overhears late) :
      Tells situation (events ++ late)
  | completed {invocation : Invocation} {events late : List Log.Event}
      (calls : situation.Calls invocation) (returns : invocation.called.ended = none)
      (succeeds : invocation.outcome.1 = 0) (tells : situation.CallTells invocation events)
      (overhears : situation.Overhears late) :
      Tells situation (events ++ [.triggerCompleted] ++ late)

/-- A process of a run has told so many events since it was bare. -/
structure HasTold (situation : Situation) (process : Process) (events : List Log.Event) : Prop where
  runsOn : process.RunsOn situation.machine
  told : (Process.bare situation.machine situation.arguments
    (.initial situation.stdout situation.environment)).Tells process events

/-- What has been asked for in a process is asked for in the run. -/
def Leads (situation : Situation) (process : Process) : Prop :=
  process.outside.asked ⊆ situation.course.asked

/-! ## How a course is told -/

/-- All that is told by a process is told by the time it is left. -/
theorem ofProcess_events {start process : Process} (ending : Ending)
    (silent : start.outside.notices = []) {events later : List Log.Event}
    (tells : start.Tells process events) (tellsLater : process.Tells process.finish later) :
    (Course.ofProcess process ending).events = events ++ later := by
  obtain ⟨told, notices, rfl⟩ := tells.told
  obtain ⟨more, finished, rfl⟩ := tellsLater.told
  rw [silent, List.nil_append] at notices
  have whole : (Course.ofProcess process ending).notices ++
      (Course.ofProcess process ending).farewell = told ++ more := by
    rw [notices] at finished
    unfold Course.ofProcess
    dsimp only
    split <;> simp [finished, notices]
  rw [Course.events, whole, List.filterMap_append]

variable {situation : Situation} {ending : Ending} {before after process : Process}
  {events : List Log.Event}

theorem Leads.earlier (leads : situation.Leads after)
    (proceeds : Process.Proceeds situation.machine before after) : situation.Leads before :=
  List.Subset.trans proceeds.asked leads

namespace HasTold

theorem tell (whole : situation.HasTold process events) (event : Log.Event) :
    situation.HasTold (process.tell (.event event)) (events ++ [event]) :=
  ⟨whole.runsOn.tell _, whole.told.trans (.event _ _)⟩

theorem proceeds (whole : situation.HasTold before events)
    (proceeds : Process.Proceeds situation.machine before after) (leads : situation.Leads after) :
    ∃ more, situation.Overhears more ∧ situation.HasTold after (events ++ more) := by
  obtain ⟨more, replies, tells⟩ := proceeds.relays
  rw [whole.told.stdout_eq] at replies
  refine ⟨more, replies.mono fun trigger holds => ⟨holds.1, leads holds.2⟩, proceeds.runsOn,
    whole.told.trans tells⟩

/-- A process is left as it is. -/
theorem leave (whole : situation.HasTold process events) (stops : situation.Stops ending process)
    (nulFree : situation.NulFree) :
    ∃ late, situation.Overhears late ∧ situation.course.events = events ++ late := by
  have finishes := Process.finish_proceeds whole.runsOn
  have leads : situation.Leads process.finish := by
    rw [Leads, course_asked, stops.stop_eq nulFree]
    exact List.Subset.refl _
  obtain ⟨late, replies, tells⟩ := finishes.relays
  rw [whole.told.stdout_eq] at replies
  refine ⟨late, replies.mono fun trigger holds => ⟨holds.1, leads holds.2⟩, ?_⟩
  rw [course, stops.stop_eq nulFree]
  exact ofProcess_events ending rfl whole.told tells

end HasTold

theorem started (leads : situation.Leads situation.process) :
    ∃ early, situation.Overhears early ∧ situation.HasTold situation.process early := by
  have bare : situation.HasTold (Process.bare situation.machine situation.arguments
      (.initial situation.stdout situation.environment)) [] :=
    ⟨.bare _ _ _, .of_outside rfl⟩
  exact bare.proceeds (Process.start_proceeds _ _ _ _) leads

theorem ready_hasTold (leads : situation.Leads situation.process) (arguments : Arguments)
    (request : Request) :
    ∃ early, situation.Overhears early ∧ situation.HasTold (situation.ready arguments request)
      (early ++ [arguments.builtEvent request]) := by
  obtain ⟨early, replies, started⟩ := started leads
  exact ⟨early, replies, started.tell _⟩

theorem Opens.hasTold {opening : Opening} (opens : situation.Opens opening)
    (leads : situation.Leads opening.resolved) :
    ∃ early loading, situation.Overhears early ∧ situation.Overhears loading ∧
      situation.HasTold opening.resolved
        (early ++ [opening.arguments.builtEvent opening.request] ++ loading) := by
  have leadsOpened := leads.earlier opens.resolves
  have leadsReady := leadsOpened.earlier opens.proceeds
  obtain ⟨early, replies, ready⟩ :=
    ready_hasTold leadsReady opening.arguments opening.request
  obtain ⟨first, repliesOpening, opened⟩ := ready.proceeds opens.proceeds leadsOpened
  obtain ⟨second, repliesLater, resolved⟩ := opened.proceeds opens.resolves leads
  rw [List.append_assoc] at resolved
  exact ⟨early, first ++ second, replies, repliesOpening.append repliesLater, resolved⟩

/-- What a call tells, and what it asks for. -/
theorem invoke_tells {machine : Machine} {process : Process} (runsOn : process.RunsOn machine)
    (plugin : Plugin) (request : Request) :
    let after := (plugin.invoke process request).2
    after.RunsOn machine ∧ process.outside.asked ⊆ after.outside.asked ∧ ∃ events,
      plugin.Answers (fun trigger => machine.Has trigger ∧ .output ∈ after.outside.asked)
        process.outside.stdout request events ∧ process.Tells after events := by
  obtain ⟨path, library, callee⟩ := plugin
  have whole {after : Process} (proceeds : Process.Proceeds machine process after) :
      after.RunsOn machine ∧ process.outside.asked ⊆ after.outside.asked ∧ ∃ events,
        Replies (fun trigger => machine.Has trigger ∧ .output ∈ after.outside.asked)
          process.outside.stdout events ∧ process.Tells after events :=
    ⟨proceeds.runsOn, proceeds.asked, proceeds.relays⟩
  cases callee with
  | code address =>
      exact whole ((Process.callCode_acts address request).proceeds runsOn List.mem_cons_self)
  | service service =>
      cases service with
      | trigger trigger =>
          refine ⟨runsOn.follow _, ?_, _, rfl, .follow _ _⟩
          change process.outside.asked ⊆ (process.outside.follow _).asked
          rw [Outside.follow_eq]
          exact List.Subset.refl _
      | cell =>
          exact whole ((Process.Acts.ofOnCore Process.crash_onCore).proceeds runsOn
            List.mem_cons_self)
      | accessor | headerAccessor | routine => exact whole (.of_same runsOn rfl)

theorem Calls.runsOn {invocation : Invocation} (calls : situation.Calls invocation) :
    invocation.called.RunsOn situation.machine :=
  (invoke_tells calls.invokes.hasPrinted.runsOn invocation.plugin invocation.opening.request).1

theorem Calls.hasTold {invocation : Invocation} (calls : situation.Calls invocation)
    (leads : situation.Leads invocation.called) :
    ∃ events, situation.CallTells invocation events ∧
      situation.HasTold invocation.called events := by
  have opens := calls.invokes.opens
  obtain ⟨runsOn, asked, called, answers, tells⟩ :=
    invoke_tells calls.invokes.hasPrinted.runsOn invocation.plugin invocation.opening.request
  have leadsResolved : situation.Leads invocation.opening.resolved := List.Subset.trans asked leads
  obtain ⟨early, loading, overhears, overhearsLater, resolved⟩ := opens.hasTold leadsResolved
  let arguments := invocation.opening.arguments
  have loaded : situation.HasTold invocation.process _ :=
    (resolved.tell (.symbolResolved arguments.plugin arguments.symbol)).tell
      (.pluginLoaded arguments.plugin arguments.symbol)
  rw [loaded.told.stdout_eq] at answers
  have answersHere : invocation.plugin.Answers situation.MayCall situation.stdout
      invocation.opening.request called :=
    answers.mono fun trigger holds => ⟨holds.1, leads holds.2⟩
  refine ⟨_, ⟨early, loading, called, overhears, overhearsLater, answersHere, rfl⟩, runsOn, ?_⟩
  have whole := loaded.told.trans tells
  simp only [List.append_assoc] at whole ⊢
  exact whole

theorem Stops.runsOn (stops : situation.Stops ending process) :
    process.RunsOn situation.machine := by
  cases stops with
  | early stops => exact stops.runsOn
  | called calls => exact calls.runsOn
  | status calls => exact (Process.closeLibrary_proceeds calls.runsOn _).runsOn
  | completed calls => exact (Process.closeLibrary_proceeds (calls.runsOn.tell _) _).runsOn

theorem Stops.leads (stops : situation.Stops ending process) (nulFree : situation.NulFree) :
    situation.Leads process := by
  refine Leads.earlier ?_ (Process.finish_proceeds stops.runsOn)
  rw [Leads, course_asked, stops.stop_eq nulFree]
  exact List.Subset.refl _

/-- A program that stops before it calls a trigger. -/
theorem StopsEarly.tells (stops : situation.StopsEarly ending process)
    (nulFree : situation.NulFree) : situation.Tells situation.course.events := by
  have runsOn := stops.runsOn
  have leads := Stops.leads (.early stops) nulFree
  have uncalled := not_exists.mp stops.uncalled
  have unbuilt (whole : ∃ early, situation.Overhears early ∧ situation.HasTold process early)
      (fails : ∀ arguments request, situation.Builds arguments request → ¬situation.Begins) :
      situation.Tells situation.course.events := by
    obtain ⟨early, overhears, told⟩ := whole
    obtain ⟨late, overhearsLater, events⟩ := told.leave (.early stops) nulFree
    rw [events]
    exact .unbuilt fails (overhears.append overhearsLater)
  have unloaded {arguments : Arguments} {request : Request} (begins : situation.Begins)
      (builds : situation.Builds arguments request)
      (whole : ∃ early late, situation.Overhears early ∧ situation.Overhears late ∧
        situation.HasTold process (early ++ [arguments.builtEvent request] ++ late)) :
      situation.Tells situation.course.events := by
    obtain ⟨early, loading, overhears, overhearsLoading, told⟩ := whole
    obtain ⟨late, overhearsLater, events⟩ := told.leave (.early stops) nulFree
    rw [events, List.append_assoc]
    exact .unloaded begins builds uncalled overhears (overhearsLoading.append overhearsLater)
  cases stops with
  | ended ends => exact unbuilt (started leads) fun _ _ _ begins => ends begins.goesOn
  | panicked _ cut =>
      exact unbuilt (started leads) fun _ _ _ begins => nomatch cut.symm.trans begins.uncut
  | help _ asked =>
      have same := situation.process.outside.print_sameBut
        (Utf8.encode (Terminal.stripUnderway situation.helpText))
      have leadsBefore : situation.Leads situation.process := by
        rw [Leads, ← same.asked]
        exact leads
      obtain ⟨early, overhears, told⟩ := started leadsBefore
      have silent : situation.process.Tells (printHelp situation.process situation.helpText) [] :=
        .of_silent same.stdout (congrArg List.reverse same.told)
      refine unbuilt ⟨early, overhears, runsOn, ?_⟩ fun _ _ builds =>
        nomatch asked.symm.trans builds.parsed
      rw [← List.append_nil early]
      exact told.told.trans silent
  | refused _ refused =>
      exact unbuilt (started leads) fun _ _ builds => nomatch refused.symm.trans builds.parsed
  | request _ parsed fails =>
      refine unbuilt (started leads) fun _ _ builds => ?_
      cases Except.ok.inj (parsed.symm.trans builds.parsed)
      exact nomatch fails.symm.trans builds.built
  | @library begins arguments request _ _ builds fails =>
      have opens := Process.openLibrary_proceeds (situation.ready_runsOn arguments request)
        arguments.plugin
      rw [fails] at opens
      have leadsReady := leads.earlier opens
      obtain ⟨early, overhears, ready⟩ := ready_hasTold leadsReady arguments request
      obtain ⟨late, overhearsLater, told⟩ := ready.proceeds opens leads
      exact unloaded begins builds ⟨early, late, overhears, overhearsLater, told⟩
  | @symbol begins opening opens fails =>
      have closes := Process.closeLibrary_proceeds opens.resolves.runsOn opening.library
      obtain ⟨early, loading, overhears, overhearsLoading, told⟩ :=
        opens.hasTold (leads.earlier closes)
      obtain ⟨late, overhearsLater, closed⟩ := told.proceeds closes leads
      rw [List.append_assoc] at closed
      exact unloaded begins opens.builds
        ⟨early, loading ++ late, overhears, overhearsLoading.append overhearsLater, closed⟩
  | resolved begins invokes ends =>
      exact unloaded begins invokes.opens.builds (invokes.opens.hasTold leads)

/-- The events of a run, by how far it comes. -/
theorem Stops.tells (stops : situation.Stops ending process) (nulFree : situation.NulFree) :
    situation.Tells situation.course.events := by
  cases stops with
  | early stops => exact stops.tells nulFree
  | called calls ends =>
      have stops := Stops.called calls ends
      obtain ⟨events, tells, told⟩ := calls.hasTold (stops.leads nulFree)
      obtain ⟨late, overhears, whole⟩ := told.leave stops nulFree
      exact whole ▸ .uncompleted calls (.inl ends) tells overhears
  | @status invocation calls returns nonzero =>
      have stops := Stops.status calls returns nonzero
      have closes := Process.closeLibrary_proceeds calls.runsOn invocation.opening.library
      have leads := stops.leads nulFree
      obtain ⟨events, tells, told⟩ := calls.hasTold (leads.earlier closes)
      obtain ⟨late, overhears, closed⟩ := told.proceeds closes leads
      obtain ⟨last, overhearsLast, whole⟩ := closed.leave stops nulFree
      rw [List.append_assoc] at whole
      exact whole ▸ .uncompleted calls (.inr nonzero) tells (overhears.append overhearsLast)
  | @completed invocation calls returns zero =>
      have stops := Stops.completed calls returns zero
      have closes := Process.closeLibrary_proceeds
        (calls.runsOn.tell (.event .triggerCompleted)) invocation.opening.library
      have leads := stops.leads nulFree
      have leadsCalled := leads.earlier closes
      obtain ⟨events, tells, told⟩ := calls.hasTold leadsCalled
      obtain ⟨late, overhears, closed⟩ := (told.tell .triggerCompleted).proceeds closes leads
      obtain ⟨last, overhearsLast, whole⟩ := closed.leave stops nulFree
      rw [List.append_assoc] at whole
      exact whole ▸ .completed calls returns zero tells (overhears.append overhearsLast)

end Situation

end PluginHost
