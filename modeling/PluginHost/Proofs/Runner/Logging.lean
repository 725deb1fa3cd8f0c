import PluginHost.Proofs.Log.Filter
import PluginHost.Proofs.Runner.BrokenOutput
import PluginHost.Proofs.Runner.Events

/-!
# Runs and the setting of the filters

The variable that sets the filters decides which of the events of a run are seen, and nothing else,
unless loaded code looks at it.
-/

namespace PluginHost

open PluginHost.Text
open Process (Like)

/-! ## What is seen -/

/-- A notice as it comes to standard error: an event, of which a line may be seen, or text. -/
def Notice.entry : Notice → Log.Event ⊕ String
  | .event told => .inl told
  | .text bytes => .inr (Text.Utf8.lossy bytes)

/-- All that comes to standard error in a course, in order. -/
def Course.entries (course : Course) : List (Log.Event ⊕ String) :=
  course.notices.map Notice.entry ++ [.inr course.ending.errorText] ++
    course.farewell.map Notice.entry

namespace Filters

/-- What filters leave of all that comes to standard error. -/
def seen (filters : Filters) (entries : List (Log.Event ⊕ String)) : List (Log.Event ⊕ String) :=
  entries.filter (Sum.elim filters.passes fun _ => true)

def text (filters : Filters) (entries : List (Log.Event ⊕ String)) : String :=
  String.join ((filters.seen entries).map (Sum.elim Log.Event.line id))

variable (filters : Filters) (entries more : List (Log.Event ⊕ String))

@[simp] theorem seen_nil : filters.seen [] = [] := rfl

@[simp] theorem seen_event (event : Log.Event) :
    filters.seen (.inl event :: entries) =
      if filters.passes event then .inl event :: filters.seen entries else filters.seen entries :=
  List.filter_cons

@[simp] theorem seen_text (text : String) :
    filters.seen (.inr text :: entries) = .inr text :: filters.seen entries :=
  List.filter_cons_of_pos rfl

end Filters

namespace Environment

/-- The name of the variable that sets the filters. -/
def logName : Bytes := Utf8.encode "RUST_LOG"

def withoutLog (environment : Environment) : Environment :=
  environment.filter fun entry => entry.1 ≠ "RUST_LOG"

theorem find?_withoutLog (environment : Environment) {name : String} (other : name ≠ "RUST_LOG") :
    environment.withoutLog.find? name = environment.find? name := by
  induction environment with
  | nil => rfl
  | cons entry rest ih =>
      by_cases isLog : entry.1 = "RUST_LOG"
      · have differs : (name == entry.1) = false := beq_false_of_ne (isLog ▸ other)
        rw [withoutLog, List.filter_cons_of_neg (by simp [isLog]), find?, find?,
          List.lookup_cons, differs]
        exact ih
      · rw [withoutLog, List.filter_cons_of_pos (by simp [isLog]), find?, find?,
          List.lookup_cons, List.lookup_cons]
        split
        · rfl
        · exact ih

/-- A name before an equals sign, such that the string of the variable that sets the filters may
begin with both. -/
def MayBeLog (name : Bytes) : Prop := start logName <+: start name

theorem start_prefix_of_log {name value : Bytes} (begins : start name <+: start logName ++ value) :
    MayBeLog name := by
  have ends : (start name).getLast? = some Bytes.equals := by simp [start]
  have whole : ∀ piece ∈ (start logName).inits, piece.getLast? = some Bytes.equals →
      piece = start logName := by decide
  rcases List.prefix_or_prefix_of_prefix begins (List.prefix_append _ _) with shorter | longer
  · rw [MayBeLog, whole _ ((List.mem_inits _ _).mpr shorter) ends]
  · exact longer

theorem strings_find?_withoutLog (environment : Environment) {name : Bytes}
    (other : ¬MayBeLog name) :
    environment.withoutLog.strings.find? (start name).isPrefixOf =
      environment.strings.find? (start name).isPrefixOf := by
  induction environment with
  | nil => rfl
  | cons entry rest ih =>
      by_cases isLog : entry.1 = "RUST_LOG"
      · have differs :
            ¬(start name).isPrefixOf (start (Utf8.encode entry.1) ++ entry.2) = true := by
          rw [List.isPrefixOf_iff_prefix, isLog]
          exact fun begins => other (start_prefix_of_log begins)
        rw [withoutLog, List.filter_cons_of_neg (by simp [isLog])]
        exact ih.trans (List.find?_cons_of_neg differs).symm
      · rw [withoutLog, List.filter_cons_of_pos (by simp [isLog]), strings, strings, List.map_cons,
          List.map_cons, List.find?_cons, List.find?_cons]
        split
        · rfl
        · exact ih

/-- What is found for a name that is not that of the setting. -/
theorem value?_withoutLog (environment : Environment) {name : Bytes} (other : ¬MayBeLog name) :
    environment.withoutLog.value? name = environment.value? name := by
  rw [value?, value?, strings_find?_withoutLog environment other]

end Environment

/-- The answer may tell what the setting of the filters is. -/
def Question.LooksAtLog : Question → Prop
  | .output => False
  | .variable name => Environment.MayBeLog name
  | .environment => True

/-- The second outside differs from the first at most in the variable that sets the filters. -/
structure Outside.AlikeButForLog (first second : Outside) : Prop where
  same : second = { first with environment := second.environment }
  environment : second.environment.withoutLog = first.environment.withoutLog

namespace Outside.AlikeButForLog

variable {first second : Outside}

theorem stdout_eq (alike : AlikeButForLog first second) : second.stdout = first.stdout :=
  (congrArg Outside.stdout alike.same).trans rfl

theorem notices_eq (alike : AlikeButForLog first second) : second.notices = first.notices :=
  (congrArg Outside.notices alike.same).trans rfl

theorem printed_eq (alike : AlikeButForLog first second) : second.printed = first.printed :=
  (congrArg Outside.printed alike.same).trans rfl

theorem of_commutes (alike : AlikeButForLog first second) (change : Outside → Outside)
    (commutes : ∀ (outside : Outside) (environment : Environment),
      change { outside with environment } = { change outside with environment })
    (keeps : ∀ outside : Outside, (change outside).environment = outside.environment) :
    AlikeButForLog (change first) (change second) := by
  refine ⟨?_, by rw [keeps, keeps, alike.environment]⟩
  rw [keeps, ← commutes, ← alike.same]

/-- Nothing that is done depends on the variables. -/
theorem perform (alike : AlikeButForLog first second) (act : Act) :
    AlikeButForLog (first.perform act) (second.perform act) := by
  refine alike.of_commutes (·.perform act) ?_ ?_
  · intro outside environment
    obtain ⟨stdout, _, taken, told, waiting, asked⟩ := outside
    cases act with
    | tell | look => rfl
    | call trigger handle => simp [Outside.perform, Outside.follow_eq, Outside.ask]
    | print | flush | empty => cases stdout <;> rfl
    | wait bytes =>
        by_cases fits : bytes.length ≤ storeLength - waiting.length
        · simp only [Outside.perform, Outside.ask, Outside.wait, fits, ↓reduceIte]
        · simp only [Outside.perform, Outside.ask, Outside.wait, fits, ↓reduceIte]
          cases stdout <;> rfl
  · exact fun outside => (outside.perform_fixed act).2.1

end Outside.AlikeButForLog

/-- The variable that sets the filters is not noticed by what does not look at it. -/
def Likeness.withoutLog : Likeness where
  holds := Outside.AlikeButForLog
  withheld := Question.LooksAtLog
  answers alike unasked := by
    rename_i first second question
    cases question with
    | output => exact alike.stdout_eq.symm
    | «variable» name =>
        change first.environment.value? name = second.environment.value? name
        rw [← Environment.value?_withoutLog _ unasked, ← alike.environment,
          Environment.value?_withoutLog _ unasked]
    | environment => exact absurd trivial unasked
  performs alike _ := alike.perform _
  tells notice alike := alike.of_commutes (·.tell notice) (fun _ _ => rfl) fun _ => rfl
  prints bytes alike := by
    refine alike.of_commutes (·.print bytes) (fun outside environment => ?_)
      fun outside => (outside.print_sameBut bytes).environment
    obtain ⟨stdout, _, _, _, _, _⟩ := outside
    cases stdout <;> rfl

/-! ## Processes side by side -/

namespace Process

variable {machine : Machine} {first second : Process}

/-- What a plugin does and answers does not depend on the variable, if it does not look at it. -/
theorem Like.invoke (like : Like machine .withoutLog first second) (plugin : Plugin)
    (request : Request) (unasking : ¬(plugin.invoke first request).2.Asks .withoutLog) :
    (plugin.invoke second request).1 = (plugin.invoke first request).1 ∧
      Like machine .withoutLog (plugin.invoke first request).2
        (plugin.invoke second request).2 := by
  obtain ⟨path, library, callee⟩ := plugin
  cases callee with
  | code address =>
      obtain ⟨there, same, likeLater⟩ := like.acts (callCode_acts address request) unasking
      rw [show Plugin.invoke ⟨path, library, .code address⟩ second request =
        ((Plugin.callCode first address request).1, there) from same]
      exact ⟨rfl, likeLater⟩
  | service service =>
      cases service with
      | trigger trigger =>
          obtain ⟨outside, rfl, alike⟩ := like.facing
          have stdout := alike.stdout_eq
          refine ⟨?_, like.runsOn.follow _, outside.follow (trigger (some request) outside.stdout),
            rfl, ?_⟩
          · change (trigger (some request) outside.stdout).status = _
            rw [stdout]
            rfl
          · change Outside.AlikeButForLog (first.outside.follow _) _
            rw [stdout]
            exact alike.of_commutes (·.follow (trigger (some request) first.outside.stdout))
              (fun _ _ => by simp [Outside.follow_eq]) fun _ => by rw [Outside.follow_eq]
      | cell =>
          obtain ⟨there, same, likeLater⟩ := like.acts (.ofOnCore crash_onCore) unasking
          rw [show Plugin.invoke _ second request = (0, there) from congrArg (Prod.mk _) same]
          exact ⟨rfl, likeLater⟩
      | accessor | headerAccessor | routine => exact ⟨rfl, like⟩

end Process

/-! ## Runs side by side -/

namespace Situation

variable {situation other : Situation}

/-- Two situations that differ at most in the variable that sets the filters. -/
structure AlikeButForLog (situation other : Situation) : Prop where
  arguments : other.arguments = situation.arguments
  environment : other.environment.withoutLog = situation.environment.withoutLog
  machine : other.machine = situation.machine
  stdout : other.stdout = situation.stdout

/-- The setting of the filters can be cut into its parts. -/
def Uncut (situation : Situation) : Prop := Log.Filter.isCut situation.logSetting = false

theorem AlikeButForLog.find?_eq (alike : situation.AlikeButForLog other) {name : String}
    (differs : name ≠ "RUST_LOG") :
    other.environment.find? name = situation.environment.find? name := by
  rw [← Environment.find?_withoutLog _ differs, alike.environment,
    Environment.find?_withoutLog _ differs]

theorem AlikeButForLog.kindred (alike : situation.AlikeButForLog other) (uncut : situation.Uncut)
    (uncutOther : other.Uncut) : Kindred .withoutLog situation other where
  arguments := alike.arguments
  machine := alike.machine
  presets := by
    rw [presets, presets, alike.find?_eq (by decide), alike.find?_eq (by decide)]
  settings := by
    rw [Process.LoadSettings.ofEnvironment, Process.LoadSettings.ofEnvironment,
      alike.find?_eq (by decide), alike.find?_eq (by decide), alike.find?_eq (by decide)]
  isCut := uncutOther.trans uncut.symm
  alike := ⟨by rw [alike.stdout]; rfl, alike.environment⟩

/-- What has been asked for up to the call has been asked for after it. -/
theorem Calls.asks_called {likeness : Likeness} {invocation : Invocation}
    (calls : situation.Calls invocation) (asks : invocation.opening.resolved.Asks likeness) :
    invocation.called.Asks likeness := by
  obtain ⟨question, asked, withheld⟩ := asks
  have more := (invoke_tells calls.invokes.hasPrinted.runsOn invocation.plugin
    invocation.opening.request).2.1
  exact ⟨question, more asked, withheld⟩

namespace Kindred

variable {invocation : Invocation}

/-- What comes of the call. -/
theorem called (kindred : Kindred .withoutLog situation other) (calls : situation.Calls invocation)
    (unasking : ¬invocation.called.Asks .withoutLog) :
    ∃ there, other.Calls there ∧ there.opening.library = invocation.opening.library ∧
      there.outcome.1 = invocation.outcome.1 ∧
      Like situation.machine .withoutLog invocation.called there.called := by
  obtain ⟨there, callsThere, plugin, request, library, like⟩ :=
    kindred.calls calls fun asks => unasking (calls.asks_called asks)
  have outcome := like.invoke invocation.plugin invocation.opening.request unasking
  refine ⟨there, callsThere, library, ?_⟩
  rw [Invocation.called, Invocation.called, Invocation.outcome, Invocation.outcome, plugin, request]
  exact outcome

/-- What stops one run stops the other one. -/
theorem stops (kindred : Kindred .withoutLog situation other) {ending : Ending} {process : Process}
    (stops : situation.Stops ending process) (unasking : ¬process.Asks .withoutLog) :
    ∃ there, other.Stops ending there ∧ Like situation.machine .withoutLog process there := by
  cases stops with
  | early stops =>
      obtain ⟨there, stopsThere, like⟩ := kindred.stopsEarly stops unasking
      exact ⟨there, .early stopsThere, like⟩
  | called calls ends =>
      obtain ⟨there, callsThere, _, _, like⟩ := kindred.called calls unasking
      exact ⟨_, .called callsThere (like.ended_eq ▸ ends), like⟩
  | @status invocation calls returns nonzero =>
      have closes := Process.closeLibrary_proceeds calls.runsOn invocation.opening.library
      obtain ⟨there, callsThere, library, status, like⟩ :=
        kindred.called calls fun asks => unasking (asks.later closes)
      have stopsThere := Stops.status callsThere (like.ended_eq.trans returns) (status ▸ nonzero)
      rw [status, library] at stopsThere
      exact ⟨_, stopsThere, like.closeLibrary _ unasking⟩
  | @completed invocation calls returns zero =>
      let completed := invocation.called.tell (.event .triggerCompleted)
      have runsOn : completed.RunsOn situation.machine := calls.runsOn.tell _
      have closes := Process.closeLibrary_proceeds runsOn invocation.opening.library
      have unaskingCompleted : ¬completed.Asks .withoutLog :=
        fun asks => unasking (asks.later closes)
      obtain ⟨there, callsThere, library, status, like⟩ := kindred.called calls unaskingCompleted
      have stopsThere := Stops.completed callsThere (like.ended_eq.trans returns)
        (status.trans zero)
      rw [library] at stopsThere
      exact ⟨_, stopsThere, (like.tell _).closeLibrary _ unasking⟩

end Kindred

end Situation

/-! ## What a setting says -/

namespace Filters

variable {setting : Option Bytes} {filter : Log.Filter}

end Filters

namespace Situation

end Situation

/-- The trigger of this library returns zero: `xor eax, eax; ret`. -/
def SmallLibrary.quiet : SmallLibrary := ⟨[49, 192, 195], 2, 2⟩

namespace Situation

end Situation

/-! ## Code that looks at the setting -/

namespace Situation

end Situation

end PluginHost
