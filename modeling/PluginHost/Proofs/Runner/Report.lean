import PluginHost.Proofs.CommandLine.Building
import PluginHost.Proofs.Runner.Services
import PluginHost.Proofs.Trigger.Succession
import PluginHost.Runner.Report

/-!
# What a run shows

The exit code tells whether a run failed at its first stage, at a later one, or not at all, unless
what it has loaded ends the process. Standard output is left to the trigger, unless other code turns
to it.
-/

namespace PluginHost

open PluginHost.Text

/-! ## What is told of an ending -/

namespace Failure

/-- The lines about a failure that has two causes. -/
def block (head first second : String) : String :=
  "Error: " ++ head ++ "\n\nCaused by:\n" ++ indent "    0: " 7 first ++ "\n" ++
    indent "    1: " 7 second ++ "\n"

theorem indent_of_line {text : String} (oneLine : '\n' ∉ text.toList) (head : String)
    (width : Nat) : indent head width text = head ++ text := by
  have kept : text.toList.flatMap (fun char =>
      if char = '\n' then '\n' :: List.replicate width ' ' else [char]) = text.toList := by
    calc text.toList.flatMap _ = text.toList.flatMap fun char => [char] :=
          List.flatMap_congr fun char member => if_neg (ne_of_mem_of_not_mem member oneLine)
      _ = text.toList := List.flatMap_singleton' _
  rw [indent, kept, String.ofList_toList]

theorem text_of_two {failure : Failure} {head first second : String}
    (chain : failure.chain = [head, first, second]) :
    failure.text = block head first second := by
  have blank (rest : String) : "\n" ++ ("\n" ++ ("Caused by:\n" ++ rest)) =
      "\n\nCaused by:\n" ++ rest := by
    rw [← String.append_assoc, ← String.append_assoc]
    rfl
  simp [text, chain, block, causeLines, numbered, String.append_assoc, blank]
  rfl

/-- Causes of one line each stand in a line of their own. -/
theorem block_of_lines {first second : String} (firstLine : '\n' ∉ first.toList)
    (secondLine : '\n' ∉ second.toList) (head : String) :
    block head first second =
      s!"Error: {head}\n\nCaused by:\n    0: {first}\n    1: {second}\n" := by
  simp [block, indent_of_line firstLine, indent_of_line secondLine, String.append_assoc]
  rfl

end Failure

namespace CommandLine.Fault

theorem styledMessage_begins (fault : Fault) :
    "error: ".toList <+: fault.styledMessage.toList := by
  have begins {text more : String} (first : "error: ".toList <+: text.toList) :
      "error: ".toList <+: (text ++ more).toList := by
    rw [String.toList_append]
    exact first.trans (List.prefix_append _ _)
  cases fault with
  | notText => decide
  | missingPlugin => exact begins (by decide)
  | unexpected | missingValue | repeated => exact begins (begins (by decide))
  | helpValue => exact begins (begins (begins (by decide)))
  | conflict => exact begins (begins (begins (begins (by decide))))
  | invalidHeader => exact begins (begins (begins (begins (begins (by decide)))))

/-- What is printed begins as the message does, whatever the message shows of an argument. -/
theorem printed_begins (fault : Fault) : ∃ rest, fault.printed = "error: " ++ rest := by
  obtain ⟨rest, whole⟩ := fault.styledMessage_begins
  have shown : firstParagraph (Terminal.stripUnderway fault.styledMessage).toList =
      "error: ".toList ++ firstParagraph (Terminal.visibleUnderway .plain true rest) := by
    rw [Terminal.stripUnderway, String.toList_ofList, ← whole]
    rfl
  refine ⟨String.ofList (firstParagraph (Terminal.visibleUnderway .plain true rest)), ?_⟩
  rw [printed, shown, String.ofList_append, String.ofList_toList]

end CommandLine.Fault

/-- What standard error holds of an ending, besides what was told. -/
inductive Ending.Says : Ending → String → Prop where
  | help (text : String) : Says (.help text) ""
  | refused {fault : CommandLine.Fault} {rest : String}
      (begins : fault.printed = "error: " ++ rest) :
      Says (.refused fault) fault.printed
  | request (error : BuildError) :
      Says (.failed (.request error))
        (Failure.block "Failed to build request" error.message error.cause)
  | plugin (path : Bytes) (error : PluginError) :
      Says (.failed (.plugin path error))
        (Failure.block s!"Failed to load trigger from {Utf8.lossy path}" error.message error.cause)
  | status (code : Int32) :
      Says (.failed (.status code)) s!"Error: trigger returned status {code.toInt}\n"
  | completed : Says .completed ""

theorem Failure.says (failure : Failure) : (Ending.failed failure).Says failure.text := by
  cases failure with
  | request error =>
      have chain : (Failure.request error).chain =
        ["Failed to build request", error.message, error.cause] := rfl
      rw [text_of_two chain]
      exact .request error
  | plugin path error =>
      have chain : (Failure.plugin path error).chain =
        [s!"Failed to load trigger from {Utf8.lossy path}", error.message, error.cause] := rfl
      rw [text_of_two chain]
      exact .plugin path error
  | status code => exact .status code

/-- Unless its code has turned to standard output, a process has printed just these bytes. -/
structure Process.HasPrinted (machine : Machine) (bytes : Bytes) (process : Process) : Prop where
  runsOn : process.RunsOn machine
  printed : .output ∉ process.outside.asked →
    process.outside.printed = bytes ∧ process.outside.waiting = []

namespace Process.HasPrinted

variable {machine : Machine} {bytes : Bytes} {before after : Process}

theorem proceeds (hasPrinted : HasPrinted machine bytes before)
    (proceeds : Proceeds machine before after) : HasPrinted machine bytes after := by
  refine ⟨proceeds.runsOn, fun quiet => ?_⟩
  obtain ⟨printed, settled⟩ := hasPrinted.printed fun asked => quiet (proceeds.asked asked)
  obtain ⟨taken, settledLater⟩ := proceeds.untouched settled quiet
  exact ⟨(congrArg List.reverse taken).trans printed, settledLater⟩

theorem tell (hasPrinted : HasPrinted machine bytes before) (notice : Notice) :
    HasPrinted machine bytes (before.tell notice) :=
  ⟨hasPrinted.runsOn.tell notice, hasPrinted.printed⟩

theorem closeLibrary (hasPrinted : HasPrinted machine bytes before) (id : ObjectId) :
    HasPrinted machine bytes (before.closeLibrary id) :=
  hasPrinted.proceeds (closeLibrary_proceeds hasPrinted.runsOn id)

theorem finish (hasPrinted : HasPrinted machine bytes before) :
    HasPrinted machine bytes before.finish :=
  hasPrinted.proceeds (finish_proceeds hasPrinted.runsOn)

end Process.HasPrinted

namespace Situation

open Process (HasPrinted)

variable {situation : Situation} {ending : Ending} {process : Process} {invocation : Invocation}

/-- What a run shows that nothing ends but its program. -/
structure Passes (situation : Situation) : Prop where
  refused_iff : situation.report.exitCode = 2 ↔ ∃ fault, situation.parsed = .error (.fault fault)
  succeeded_iff : situation.report.exitCode = 0 ↔
    situation.parsed = .error .help ∨
      ∃ invocation, situation.Invokes invocation ∧ invocation.outcome.1 = 0
  failed_otherwise : situation.report.exitCode ≠ 2 → situation.report.exitCode ≠ 0 →
    situation.report.exitCode = 1
  ending_iff : ∀ ending, situation.course.ending = ending ↔ situation.EndsIn ending
  reported : ∃ text, situation.course.ending.Says text ∧
    situation.report.stderr =
      (Filters.ofSetting situation.logSetting).noticesText situation.course.notices ++ text ++
        (Filters.ofSetting situation.logSetting).noticesText situation.course.farewell
  unbuilt_iff : ∀ arguments error, situation.parsed = .ok arguments →
    (arguments.request situation.machine.files = .error error ↔
      arguments.BodyFault situation.machine.files error)
  echoed : ∀ invocation, situation.Invokes invocation → invocation.CallsLogger →
    situation.stdout = .accepting → .output ∉ situation.course.asked →
    situation.report.exitCode = 0 ∧
      ∃ body, invocation.opening.arguments.bodyBytes situation.machine.files = .ok body ∧
        situation.report.stdout =
          RequestLogger.lines (invocation.opening.arguments.draft body).fields

theorem EndsIn.exitCode_cases (endsIn : situation.EndsIn ending) :
    ending.exitCode = 0 ∧ (situation.parsed = .error .help ∨
        ∃ invocation, situation.Invokes invocation ∧ invocation.outcome.1 = 0) ∨
      ending.exitCode = 2 ∧ (∃ fault, situation.parsed = .error (.fault fault)) ∨
      ending.exitCode = 1 := by
  cases endsIn with
  | help asked => exact .inl ⟨rfl, .inl asked⟩
  | refused refused => exact .inr (.inl ⟨rfl, _, refused⟩)
  | request | library | symbol | status => exact .inr (.inr rfl)
  | completed invokes zero => exact .inl ⟨rfl, .inr ⟨_, invokes, zero⟩⟩

theorem EndsIn.says (endsIn : situation.EndsIn ending) : ending.Says ending.errorText := by
  cases endsIn with
  | help => exact .help _
  | @refused fault =>
      obtain ⟨rest, begins⟩ := fault.printed_begins
      exact .refused begins
  | request | library | symbol | status => exact Failure.says _
  | completed => exact .completed

/-! ## Standard output -/

theorem process_hasPrinted (situation : Situation) :
    HasPrinted situation.machine [] situation.process :=
  HasPrinted.proceeds ⟨.bare _ _ _, fun _ => ⟨rfl, rfl⟩⟩ (Process.start_proceeds _ _ _ _)

theorem ready_hasPrinted (situation : Situation) (arguments : Arguments) (request : Request) :
    HasPrinted situation.machine [] (situation.ready arguments request) :=
  situation.process_hasPrinted.tell _

theorem Opens.hasPrinted {opening : Opening} (opens : situation.Opens opening) :
    HasPrinted situation.machine [] opening.resolved :=
  (((situation.ready_hasPrinted _ _).proceeds opens.proceeds).proceeds opens.resolves)

theorem Invokes.hasPrinted (invokes : situation.Invokes invocation) :
    HasPrinted situation.machine [] invocation.process :=
  (invokes.opens.hasPrinted.tell _).tell _

/-- Before a trigger is called nothing but help is printed. -/
theorem StopsEarly.hasPrinted (stops : situation.StopsEarly ending process) :
    situation.parsed = .error .help ∨ HasPrinted situation.machine [] process := by
  cases stops with
  | help _ asked => exact .inl asked
  | ended | panicked | refused | request => exact .inr situation.process_hasPrinted
  | @library _ arguments request _ _ _ fails =>
      have opens := Process.openLibrary_proceeds (situation.ready_runsOn arguments request)
        arguments.plugin
      rw [fails] at opens
      exact .inr ((situation.ready_hasPrinted arguments request).proceeds opens)
  | symbol _ opens => exact .inr (opens.hasPrinted.closeLibrary _)
  | resolved _ invokes => exact .inr invokes.opens.hasPrinted

/-- What has been printed where the program stops is what the run prints. -/
theorem Stops.printed_eq (stops : situation.Stops ending process) (nulFree : situation.NulFree)
    {bytes : Bytes} (hasPrinted : HasPrinted situation.machine bytes process)
    (quiet : .output ∉ situation.course.asked) : situation.report.stdout = bytes := by
  have finished := hasPrinted.finish
  rw [course_asked, stops.stop_eq nulFree] at quiet
  change situation.course.printed = bytes
  rw [course_printed, stops.stop_eq nulFree]
  exact (finished.printed quiet).1

theorem Stops.silent (stops : situation.Stops ending process) (nulFree : situation.NulFree)
    (quiet : .output ∉ situation.course.asked) (shown : situation.report.stdout ≠ []) :
    situation.parsed = .error .help ∨ ∃ invocation, situation.Calls invocation := by
  cases stops with
  | early early =>
      refine early.hasPrinted.imp_right fun hasPrinted => ?_
      exact absurd (Stops.printed_eq (.early early) nulFree hasPrinted quiet) shown
  | called calls | status calls | completed calls => exact .inr ⟨_, calls⟩

theorem Builds.fields_eq {arguments : Arguments} {request : Request}
    (builds : situation.Builds arguments request) :
    ∃ body, arguments.bodyBytes situation.machine.files = .ok body ∧
      Handle.fields (some request) = (arguments.draft body).fields := by
  obtain ⟨body, reads, built⟩ := Outcome.bind_eq_ok.mp builds.built
  exact ⟨body, reads, Draft.fields_of_build (Outcome.mapError_eq_ok.mp built)⟩

theorem Invokes.stdout_eq (invokes : situation.Invokes invocation) :
    invocation.process.outside.stdout = situation.stdout := by
  change invocation.opening.resolved.outside.stdout = _
  rw [invokes.opens.resolves.stdout_eq, invokes.opens.proceeds.stdout_eq]
  exact (Process.start_proceeds _ _ _ _).stdout_eq

/-- The request logger answers with zero, goes on, and has printed its lines. -/
theorem Invokes.logged (invokes : situation.Invokes invocation)
    (accepting : situation.stdout = .accepting) (isLogger : invocation.CallsLogger) :
    invocation.outcome.1 = 0 ∧ invocation.called.ended = invocation.process.ended ∧
      HasPrinted situation.machine
        (RequestLogger.lines (Handle.fields (some invocation.opening.request)))
        invocation.called := by
  have outcome : invocation.outcome = (0, invocation.process.follow
      ⟨0, RequestLogger.lines (Handle.fields (some invocation.opening.request)),
        [.triggerInvoked]⟩) := by
    rw [Invocation.outcome, Plugin.invoke, isLogger]
    dsimp only
    rw [invokes.stdout_eq, accepting, RequestLogger.trigger_accepting]
  rw [Invocation.called, outcome]
  refine ⟨rfl, rfl, ⟨invokes.hasPrinted.runsOn.onMachine, invokes.hasPrinted.runsOn.offered⟩, ?_⟩
  intro quiet
  rw [Process.follow, Outside.follow_eq] at quiet ⊢
  obtain ⟨printed, settled⟩ := invokes.hasPrinted.printed quiet
  refine ⟨?_, settled⟩
  rw [Outside.printed, List.reverse_append, List.reverse_reverse]
  exact congrArg (· ++ _) printed

/-! ## Runs -/

section Survives

variable (nulFree : situation.NulFree) (survives : situation.Survives)
  (uncut : Log.Filter.isCut situation.logSetting = false)

include nulFree survives uncut

theorem echoed (invokes : situation.Invokes invocation) (isLogger : invocation.CallsLogger)
    (accepting : situation.stdout = .accepting) (quiet : .output ∉ situation.course.asked) :
    situation.report.exitCode = 0 ∧
      ∃ body, invocation.opening.arguments.bodyBytes situation.machine.files = .ok body ∧
        situation.report.stdout =
          RequestLogger.lines (invocation.opening.arguments.draft body).fields := by
  have begins := begins_of_survives nulFree survives uncut
  have calls := invokes.calls nulFree survives begins
  obtain ⟨zero, _, hasPrinted⟩ := invokes.logged accepting isLogger
  obtain ⟨body, reads, fields⟩ := invokes.opens.builds.fields_eq
  have stops := Stops.completed calls (calls.returns nulFree survives) zero
  have ends := (ending_iff nulFree survives uncut).mpr (.completed invokes zero)
  refine ⟨congrArg Ending.exitCode ends, body, reads, ?_⟩
  rw [← fields]
  exact stops.printed_eq nulFree ((hasPrinted.tell _).closeLibrary _) quiet

theorem passes : situation.Passes := by
  have ends {ending : Ending} : situation.course.ending = ending ↔ situation.EndsIn ending :=
    ending_iff nulFree survives uncut
  have endsIn : situation.EndsIn situation.course.ending := ends.mp rfl
  have code : situation.report.exitCode = situation.course.ending.exitCode := rfl
  exact {
    refused_iff := by
      rw [code]
      constructor
      · intro two
        rcases endsIn.exitCode_cases with ⟨zero, _⟩ | ⟨_, refused⟩ | one
        · cases two.symm.trans zero
        · exact refused
        · cases two.symm.trans one
      · rintro ⟨fault, refused⟩
        exact congrArg Ending.exitCode (ends.mpr (.refused refused))
    succeeded_iff := by
      rw [code]
      constructor
      · intro zero
        rcases endsIn.exitCode_cases with ⟨_, reason⟩ | ⟨two, _⟩ | one
        · exact reason
        · cases zero.symm.trans two
        · cases zero.symm.trans one
      · rintro (asked | ⟨invocation, invokes, zero⟩)
        · exact congrArg Ending.exitCode (ends.mpr (.help asked))
        · exact congrArg Ending.exitCode (ends.mpr (.completed invokes zero))
    failed_otherwise := by
      intro notTwo notZero
      rcases endsIn.exitCode_cases with ⟨zero, _⟩ | ⟨two, _⟩ | one
      · exact absurd zero notZero
      · exact absurd two notTwo
      · exact one
    ending_iff := fun _ => ends
    reported := ⟨_, endsIn.says, rfl⟩
    unbuilt_iff := fun _ _ parsed => Arguments.request_eq_error_iff (parsed_nulFree nulFree parsed)
    echoed := fun _ invokes isLogger accepting =>
      echoed nulFree survives uncut invokes isLogger accepting }

end Survives

end Situation

/-- A library that a file holds as an image: some machine code, which begins with its trigger, and
the places in it that are called when the library is opened and when it is closed. -/
structure SmallLibrary where
  code : Bytes
  start : Nat
  finish : Nat

namespace SmallLibrary

/-- Where the code stands in the file. -/
def place : Nat := 384

def words (width : Nat) (numbers : List Nat) : Bytes := numbers.flatMap (Bytes.ofNumber width)

def header : Bytes :=
  [0x7F, 69, 76, 70, 2, 1, 1] ++ List.replicate 9 0 ++ words 2 [3, 62] ++ words 4 [1] ++
    words 8 [0, 64, 0] ++ words 4 [0] ++ words 2 [64, 56, 2, 0, 0, 0]

/-- One segment with all that the file holds, and one with its statements. -/
def segments (length : Nat) : Bytes :=
  words 4 [1, 7] ++ words 8 [0, 0, 0, length, length, 0x1000] ++
    words 4 [2, 6] ++ words 8 [176, 176, 176, 128, 128, 8]

/-- Where symbols, their names and their table are, and what is called. -/
def statements (library : SmallLibrary) : Bytes :=
  words 8 [4, 352, 5, 372, 6, 304, 10, 9, 11, 24, 12, place + library.start, 13,
    place + library.finish, 0, 0]

/-- No symbol, and then the trigger. -/
def symbols : Bytes :=
  List.replicate 24 0 ++ words 4 [1] ++ [0x12, 0] ++ words 2 [1] ++ words 8 [place, 0]

/-- A table of two symbols in one list. -/
def table : Bytes := words 4 [1, 2, 1, 0, 0]

def content (library : SmallLibrary) : Bytes :=
  header ++ segments (place + library.code.length) ++ library.statements ++ symbols ++ table ++
    [0] ++ Utf8.encode "trigger" ++ List.replicate 4 0 ++ library.code

/-- The trigger of this library returns 256: `mov eax, 256; ret`. -/
def failing : SmallLibrary := ⟨[184, 0, 1, 0, 0, 195], 5, 5⟩

/-- The trigger of this library returns zero, and when the library is closed it ends the process:
`xor eax, eax; ret`, and `mov edi, 7; mov eax, 231; syscall`. -/
def leaving : SmallLibrary := ⟨[49, 192, 195, 191, 7, 0, 0, 0, 184, 231, 0, 0, 0, 15, 5], 2, 3⟩

end SmallLibrary

namespace Situation

end Situation

end PluginHost
