import PluginHost.Proofs.Runner.Kindred
import PluginHost.Proofs.Runner.Report

/-!
# Runs on a broken standard output

A standard output on which every write fails does not change how a run of the request logger ends,
unless other code turns to it. The plugin warns, and the run goes on as if all had been written.
-/

namespace PluginHost

open PluginHost.Text
open Process (Like)

/-! ## Triggers -/

namespace Stdout

/-- Nothing is brought into a standard output that fails. -/
theorem failing_writeAll (error : WriteError) (session : Session Unit) (first : UInt8)
    (rest : Bytes) :
    session.writeAll (failing error).sink (first :: rest) =
      (.error error.toIoError, ⟨(), .write (first :: rest) (.failed error) :: session.calls⟩) := by
  have answered : (failing error).sink.write session.state (first :: rest) =
    (.failed error, ()) := rfl
  rw [Session.writeAll]
  split
  · next after other => cases answered.symm.trans other
  · next error after other =>
      cases answered.symm.trans other
      rfl
  · next after other => cases answered.symm.trans other
  · next count after other => cases answered.symm.trans other

end Stdout

namespace RequestLogger

/-- What the trigger does where every write fails: at the latest the first line feed does. -/
theorem trigger_failing (handle : Handle) (error : WriteError) :
    trigger handle (.failing error) = ⟨0, [], [.triggerInvoked, .writeFailed error.toIoError]⟩ := by
  rw [trigger, echo, writeRequest]
  cases isMethod : handle.fields.method with
  | nil =>
      have nothing : (Session.start ()).writeAll (Stdout.failing error).sink [] =
          (.ok (), Session.start ()) := by rw [Session.writeAll]
      simp only [parts, isMethod, Session.writeEach, nothing, Stdout.failing_writeAll]
      rfl
  | cons first rest =>
      simp only [parts, isMethod, Session.writeEach, Stdout.failing_writeAll]
      rfl

end RequestLogger

/-! ## Outsides side by side -/

/-- Standard output accepts everything here and is broken there, and nothing waits to be printed.
What was told on both sides goes on in the same way from two beginnings. -/
structure Outside.Broken (error : WriteError) (front frontThere : List Notice)
    (here there : Outside) : Prop where
  accepting : here.stdout = .accepting
  failing : there.stdout = .failing error
  environment : here.environment = there.environment
  settled : here.waiting = []
  settledThere : there.waiting = []
  told : ∃ more, here.notices = front ++ more ∧ there.notices = frontThere ++ more

namespace Outside.Broken

variable {error : WriteError} {front frontThere : List Notice} {here there : Outside}

theorem tell (broken : Broken error front frontThere here there) (notice : Notice) :
    Broken error front frontThere (here.tell notice) (there.tell notice) := by
  obtain ⟨more, told, toldThere⟩ := broken.told
  refine ⟨broken.accepting, broken.failing, broken.environment, broken.settled,
    broken.settledThere, more ++ [notice], ?_, ?_⟩
  · rw [← List.append_assoc, ← told]
    exact List.reverse_cons
  · rw [← List.append_assoc, ← toldThere]
    exact List.reverse_cons

theorem print (broken : Broken error front frontThere here there) (bytes : Bytes) :
    Broken error front frontThere (here.print bytes) (there.print bytes) := by
  have printed : here.print bytes = { here with taken := bytes.reverse ++ here.taken } := by
    rw [Outside.print, broken.accepting]
  have printedThere : there.print bytes = there := by rw [Outside.print, broken.failing]
  rw [printed, printedThere]
  exact ⟨broken.accepting, broken.failing, broken.environment, broken.settled,
    broken.settledThere, broken.told⟩

/-- Only what turns to standard output comes to know which of them it is. -/
theorem perform (broken : Broken error front frontThere here there) {act : Act}
    (unasked : act.question? ≠ some .output) :
    Broken error front frontThere (here.perform act) (there.perform act) := by
  cases act with
  | tell text => exact broken.tell _
  | print | wait | flush | call => exact absurd rfl unasked
  | look question =>
      exact ⟨broken.accepting, broken.failing, broken.environment, broken.settled,
        broken.settledThere, broken.told⟩
  | empty =>
      rw [Outside.perform, Outside.perform, flush_of_settled broken.settled,
        flush_of_settled broken.settledThere]
      exact broken

end Outside.Broken

/-- A broken standard output is not noticed by what does not turn to it. -/
def Likeness.broken (error : WriteError) (front frontThere : List Notice) : Likeness where
  holds := Outside.Broken error front frontThere
  withheld question := question = .output
  answers broken unasked := by
    rename_i question
    cases question with
    | output => exact absurd rfl unasked
    | «variable» name => exact congrArg (Environment.value? · name) broken.environment
    | environment => exact broken.environment
  performs broken unasked := broken.perform fun asks => unasked _ asks rfl
  tells notice broken := broken.tell notice
  prints bytes broken := broken.print bytes

/-! ## Processes side by side -/

namespace Process

variable {machine : Machine} {error : WriteError} {front frontThere : List Notice}
  {first second : Process}

/-- The request logger is called on both sides, and one of them has told of a failure. -/
theorem Like.logged (like : Like machine (.broken error [] []) first second) (handle : Handle) :
    ∃ earlier,
      Like machine
        (.broken error (earlier ++ [.event .triggerInvoked, .event .triggerCompleted])
          (earlier ++ [.event .triggerInvoked, .event (.writeFailed error.toIoError),
            .event .triggerCompleted]))
        ((first.follow (RequestLogger.trigger handle first.outside.stdout)).tell
          (.event .triggerCompleted))
        ((second.follow (RequestLogger.trigger handle second.outside.stdout)).tell
          (.event .triggerCompleted)) := by
  obtain ⟨outside, rfl, broken⟩ := like.facing
  obtain ⟨earlier, told, toldThere⟩ := broken.told
  simp only [List.nil_append] at told toldThere
  refine ⟨earlier, ⟨like.runsOn.onMachine, like.runsOn.offered⟩,
    (outside.follow (RequestLogger.trigger handle outside.stdout)).tell (.event .triggerCompleted),
    rfl, ?_⟩
  rw [broken.accepting, broken.failing, RequestLogger.trigger_accepting,
    RequestLogger.trigger_failing]
  refine ⟨broken.accepting, broken.failing, broken.environment, broken.settled,
    broken.settledThere, [], ?_, ?_⟩
  · rw [List.append_nil, ← told]
    simp [Process.tell, Process.follow, Outside.tell, Outside.follow_eq, Outside.notices]
  · rw [List.append_nil, ← toldThere]
    simp [Outside.tell, Outside.follow_eq, Outside.notices]

end Process

/-! ## Runs side by side -/

namespace Invocation

variable {invocation : Invocation}

/-- The process after the request logger has been called, when all is told that is told of it. -/
def logged (invocation : Invocation) : Process :=
  (invocation.process.follow (RequestLogger.trigger (some invocation.opening.request)
    invocation.process.outside.stdout)).tell (.event .triggerCompleted)

end Invocation

namespace Situation

variable {situation : Situation} {invocation : Invocation}

end Situation

/-! ## What is seen -/

namespace Situation

variable {situation : Situation} {error : WriteError}

section Bearing

variable (error : WriteError) (nulFree : situation.NulFree)
  (accepting : situation.stdout = .accepting) (quiet : .output ∉ situation.course.asked)

include nulFree accepting quiet

end Bearing

end Situation

/-! ## Code that turns to standard output -/

/-- What is called is a trigger. -/
def Callee.isTrigger : Callee → Bool
  | .service (.trigger _) => true
  | _ => false

namespace SmallLibrary

end SmallLibrary

namespace Situation

end Situation

end PluginHost
