import PluginHost.Proofs.Process.Lifetime

/-!
# Processes and standard output

A process that goes on has done what its code did. As long as no code turns to standard output,
nothing is printed and nothing waits to be.
-/

namespace PluginHost

open Carries (processes)

namespace Outside

variable {outside : Outside}

theorem flush_of_settled (settled : outside.waiting = []) : outside.flush = outside := by
  obtain ⟨stdout, _, _, _, _, _⟩ := outside
  dsimp only at settled
  subst settled
  cases stdout <;> rfl

/-- An act that asks nothing of standard output leaves it alone, if nothing waits. -/
theorem perform_output (settled : outside.waiting = []) {act : Act}
    (quiet : act.question? ≠ some .output) :
    (outside.perform act).taken = outside.taken ∧ (outside.perform act).waiting = [] := by
  cases act with
  | tell | look => exact ⟨rfl, settled⟩
  | print | wait | flush | call => exact absurd rfl quiet
  | empty =>
      rw [perform, flush_of_settled settled]
      exact ⟨rfl, settled⟩

theorem performAll_output (settled : outside.waiting = []) {acts : List Act}
    (quiet : ∀ act ∈ acts, act.question? ≠ some .output) :
    (outside.performAll acts).taken = outside.taken ∧
      (outside.performAll acts).waiting = [] := by
  induction acts generalizing outside with
  | nil => exact ⟨rfl, settled⟩
  | cons act rest ih =>
      have first := perform_output settled (quiet act List.mem_cons_self)
      have later := ih first.2 fun act member => quiet act (List.mem_cons_of_mem _ member)
      exact ⟨later.1.trans first.1, later.2⟩

/-- What acts ask stays among what has been asked. -/
theorem asked_of_act {acts : List Act} {act : Act} (member : act ∈ acts) {question : Question}
    (asks : act.question? = some question) : question ∈ (outside.performAll acts).asked := by
  rw [performAll_asked]
  exact List.mem_append_left _ (List.mem_reverse.mpr (List.mem_filterMap.mpr ⟨act, member, asks⟩))

end Outside

namespace Process

variable {machine : Machine} {first second third : Process}

/-- A process on a machine that has come from another by what code does. -/
structure Proceeds (machine : Machine) (before after : Process) : Prop where
  runsOn : after.RunsOn machine
  performed : ∃ acts : List Act, (∀ act ∈ acts, act.Known machine.Has) ∧
    after.outside = before.outside.performAll acts

theorem Acts.proceeds {R : Type} [Carries R] {compute : Process → R}
    (acts : Acts machine (Act.Known machine.Has) compute) (runsOn : first.RunsOn machine)
    (member : second ∈ processes (compute first)) : Proceeds machine first second :=
  let ⟨acts, does⟩ := acts first runsOn
  ⟨does.runsOn second member, acts, does.isAllowed, does.outside_eq second member⟩

namespace Proceeds

theorem of_same (runsOn : second.RunsOn machine) (same : second.outside = first.outside) :
    Proceeds machine first second :=
  ⟨runsOn, [], nofun, same⟩

theorem asked (proceeds : Proceeds machine first second) :
    first.outside.asked ⊆ second.outside.asked := by
  obtain ⟨acts, _, reached⟩ := proceeds.performed
  rw [reached, Outside.performAll_asked]
  exact List.subset_append_right _ _

theorem stdout_eq (proceeds : Proceeds machine first second) :
    second.outside.stdout = first.outside.stdout := by
  obtain ⟨acts, _, reached⟩ := proceeds.performed
  rw [reached, Outside.performAll_stdout]

/-- Code that never turns to standard output prints nothing. -/
theorem untouched (proceeds : Proceeds machine first second)
    (settled : first.outside.waiting = []) (quiet : .output ∉ second.outside.asked) :
    second.outside.taken = first.outside.taken ∧ second.outside.waiting = [] := by
  obtain ⟨acts, _, reached⟩ := proceeds.performed
  rw [reached] at quiet ⊢
  exact Outside.performAll_output settled fun act member asks =>
    quiet (Outside.asked_of_act member asks)

end Proceeds

/-! ## Steps of a run -/

variable {process : Process}

theorem RunsOn.bare (machine : Machine) (arguments : List Bytes) (outside : Outside) :
    (bare machine arguments outside).RunsOn machine :=
  ⟨rfl, fun _ none => nomatch none⟩

theorem RunsOn.tell (runsOn : process.RunsOn machine) (notice : Notice) :
    (process.tell notice).RunsOn machine :=
  ⟨runsOn.onMachine, runsOn.offered⟩

theorem RunsOn.follow (runsOn : process.RunsOn machine) (reply : Reply) :
    (process.follow reply).RunsOn machine :=
  ⟨runsOn.onMachine, runsOn.offered⟩

theorem start_proceeds (machine : Machine) (arguments : List Bytes) (stdout : Stdout)
    (environment : Environment) :
    Proceeds machine (bare machine arguments (.initial stdout environment))
      (start machine arguments stdout environment) :=
  (startFrom_acts (.ofEnvironment environment)).proceeds (.bare machine arguments _)
    List.mem_cons_self

theorem openLibrary_proceeds (runsOn : process.RunsOn machine) (name : Bytes) :
    Proceeds machine process (process.openLibrary name).2 :=
  (openLibrary_acts name).proceeds runsOn List.mem_cons_self

theorem symbolAddress?_proceeds (runsOn : process.RunsOn machine) (id : ObjectId) (name : Bytes) :
    Proceeds machine process (process.symbolAddress? id name).2 :=
  (symbolAddress?_acts id name).proceeds runsOn List.mem_cons_self

theorem closeLibrary_proceeds (runsOn : process.RunsOn machine) (id : ObjectId) :
    Proceeds machine process (process.closeLibrary id) :=
  (closeLibrary_acts id).proceeds runsOn List.mem_cons_self

theorem finish_proceeds (runsOn : process.RunsOn machine) :
    Proceeds machine process process.finish :=
  finish_acts.proceeds runsOn List.mem_cons_self

end Process

end PluginHost
