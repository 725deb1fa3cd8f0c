import PluginHost.Proofs.Process.Output

/-!
# Processes side by side

Two outsides may be alike in all that code is told, as long as it does not ask for something that is
withheld. Then the same code does the same in front of both of them.
-/

namespace PluginHost

open Carries (processes change)

/-- How outsides are alike, and what must not be asked for that they stay so. -/
structure Likeness where
  holds : Outside → Outside → Prop
  withheld : Question → Prop
  answers : ∀ {first second : Outside} {question : Question}, holds first second →
    ¬withheld question → question.SameAnswer first second
  performs : ∀ {first second : Outside} {act : Act}, holds first second →
    (∀ question ∈ act.question?, ¬withheld question) →
      holds (first.perform act) (second.perform act)
  tells : ∀ {first second : Outside} (notice : Notice), holds first second →
    holds (first.tell notice) (second.tell notice)
  prints : ∀ {first second : Outside} (bytes : Bytes), holds first second →
    holds (first.print bytes) (second.print bytes)

namespace Likeness

variable {likeness : Likeness} {first second : Outside}

theorem performsAll (alike : likeness.holds first second) {acts : List Act}
    (unasked : ∀ act ∈ acts, ∀ question ∈ act.question?, ¬likeness.withheld question) :
    likeness.holds (first.performAll acts) (second.performAll acts) := by
  induction acts generalizing first second with
  | nil => exact alike
  | cons act rest ih =>
      exact ih (likeness.performs alike (unasked act List.mem_cons_self)) fun act member =>
        unasked act (List.mem_cons_of_mem _ member)

end Likeness

namespace Process

/-- Nothing that is withheld has been asked for in a process. -/
def Asks (process : Process) (likeness : Likeness) : Prop :=
  ∃ question ∈ process.outside.asked, likeness.withheld question

/-- The second process is as the first one, in front of an outside that is alike. -/
structure Like (machine : Machine) (likeness : Likeness) (first second : Process) : Prop where
  runsOn : first.RunsOn machine
  facing : ∃ outside, second = first.facing outside ∧ likeness.holds first.outside outside

variable {machine : Machine} {likeness : Likeness} {first second : Process}

namespace Like

variable {M : Type} [CarriesOne M]

/-- Code that asks nothing that is withheld comes to the same in both processes. -/
theorem acts {compute : Process → M} (like : Like machine likeness first second)
    (acts : Acts machine (Act.Known machine.Has) compute)
    (unasking : ¬(CarriesOne.process (compute first)).Asks likeness) :
    ∃ there, compute second = change (fun _ => there) (compute first) ∧
      Like machine likeness (CarriesOne.process (compute first)) there := by
  obtain ⟨acts, does⟩ := acts first like.runsOn
  obtain ⟨outside, rfl, alike⟩ := like.facing
  have only : processes (compute first) = [CarriesOne.process (compute first)] :=
    CarriesOne.processes_eq _
  have member : CarriesOne.process (compute first) ∈ processes (compute first) :=
    only ▸ List.mem_singleton_self _
  have reached := does.outside_eq _ member
  have unasked (act : Act) (among : act ∈ acts) (question : Question)
      (asks : question ∈ act.question?) : ¬likeness.withheld question := fun withheld =>
    unasking ⟨question, reached ▸ Outside.asked_of_act among asks, withheld⟩
  have agrees : first.outside.Agrees acts outside := fun act among question asks =>
    likeness.answers alike (unasked act among question asks)
  refine ⟨(CarriesOne.process (compute first)).facing (outside.performAll acts),
    (does.alike outside agrees).trans (change_only rfl), does.runsOn _ member, _, rfl, ?_⟩
  rw [reached]
  exact Likeness.performsAll alike unasked

theorem tell (like : Like machine likeness first second) (notice : Notice) :
    Like machine likeness (first.tell notice) (second.tell notice) := by
  obtain ⟨outside, rfl, alike⟩ := like.facing
  exact ⟨like.runsOn.tell notice, outside.tell notice, rfl, likeness.tells notice alike⟩

theorem print (like : Like machine likeness first second) (bytes : Bytes) :
    Like machine likeness { first with outside := first.outside.print bytes }
      { second with outside := second.outside.print bytes } := by
  obtain ⟨outside, rfl, alike⟩ := like.facing
  exact ⟨⟨like.runsOn.onMachine, like.runsOn.offered⟩, outside.print bytes, rfl,
    likeness.prints bytes alike⟩

theorem ended_eq (like : Like machine likeness first second) : second.ended = first.ended := by
  obtain ⟨outside, rfl, _⟩ := like.facing
  rfl

theorem holds (like : Like machine likeness first second) :
    likeness.holds first.outside second.outside := by
  obtain ⟨outside, rfl, alike⟩ := like.facing
  exact alike

theorem closeLibrary (like : Like machine likeness first second) (id : ObjectId)
    (unasking : ¬(first.closeLibrary id).Asks likeness) :
    Like machine likeness (first.closeLibrary id) (second.closeLibrary id) := by
  obtain ⟨there, same, likeLater⟩ := like.acts (closeLibrary_acts id) unasking
  rw [show second.closeLibrary id = there from same]
  exact likeLater

theorem finish (like : Like machine likeness first second)
    (unasking : ¬first.finish.Asks likeness) :
    Like machine likeness first.finish second.finish := by
  obtain ⟨there, same, likeLater⟩ := like.acts finish_acts unasking
  rw [show second.finish = there from same]
  exact likeLater

end Like

/-- Two outsides that are alike are found alike when processes have been started. -/
theorem start_like {arguments : List Bytes} {stdout otherStdout : Stdout}
    {environment otherEnvironment : Environment}
    (alike : likeness.holds (.initial stdout environment) (.initial otherStdout otherEnvironment))
    (sameSettings : LoadSettings.ofEnvironment otherEnvironment = .ofEnvironment environment)
    (unasking : ¬(start machine arguments stdout environment).Asks likeness) :
    Like machine likeness (start machine arguments stdout environment)
      (start machine arguments otherStdout otherEnvironment) := by
  have bare : Like machine likeness (bare machine arguments (.initial stdout environment))
      (bare machine arguments (.initial otherStdout otherEnvironment)) :=
    ⟨.bare machine arguments _, _, rfl, alike⟩
  obtain ⟨there, same, like⟩ := bare.acts (startFrom_acts (.ofEnvironment environment)) unasking
  rw [show start machine arguments otherStdout otherEnvironment = there from
    (congrArg (startFrom · _) sameSettings).trans same]
  exact like

end Process

end PluginHost
