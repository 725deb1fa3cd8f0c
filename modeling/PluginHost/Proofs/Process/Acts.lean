import PluginHost.Process.Start

/-!
# What a process does to the outside

All that reaches the outside of a process is a list of acts, and all that comes from there are
answers to what these acts ask. A computation does the same in front of every outside that gives the
same answers.
-/

namespace PluginHost

/-- Something that a process, or the code in it, does to the outside. -/
inductive Act where
  | tell (text : Bytes)
  | print (bytes : Bytes)
  | wait (bytes : Bytes)
  | flush
  | call (trigger : Trigger) (handle : Handle)
  | look (question : Question)
  /-- What waits is printed at the end. Nobody asks what comes of it. -/
  | empty

namespace Act

/-- What is asked by an act. -/
def question? : Act → Option Question
  | tell _ | empty => none
  | print _ | wait _ | flush | call .. => some .output
  | look question => some question

/-- Any act but the call of a trigger that the machine does not have. -/
def Known (has : Trigger → Prop) : Act → Prop
  | call trigger _ => has trigger
  | _ => True

end Act

/-- Two outsides give the same answer to a question. -/
def Question.SameAnswer (first second : Outside) : Question → Prop
  | .output => first.stdout = second.stdout
  | .variable name => first.environment.value? name = second.environment.value? name
  | .environment => first.environment = second.environment

namespace Outside

def perform (outside : Outside) : Act → Outside
  | .tell text => outside.tell (.text text)
  | .print bytes => (outside.ask .output).print bytes
  | .wait bytes => (outside.ask .output).wait bytes
  | .flush => (outside.ask .output).flush
  | .call trigger handle => (outside.ask .output).follow (trigger handle outside.stdout)
  | .look question => outside.ask question
  | .empty => outside.flush

def performAll (outside : Outside) (acts : List Act) : Outside := acts.foldl perform outside

theorem performAll_append (outside : Outside) (acts later : List Act) :
    outside.performAll (acts ++ later) = (outside.performAll acts).performAll later :=
  List.foldl_append

theorem tellEvents_eq (events : List Log.Event) (outside : Outside) :
    events.foldl (fun outside event => outside.tell (.event event)) outside =
      { outside with told := (events.map Notice.event).reverse ++ outside.told } := by
  induction events generalizing outside with
  | nil => rfl
  | cons event rest ih =>
      rw [List.foldl_cons, ih]
      simp [tell]

theorem follow_eq (outside : Outside) (reply : Reply) :
    outside.follow reply =
      { outside with
        taken := reply.printed.reverse ++ outside.taken
        told := (reply.events.map Notice.event).reverse ++ outside.told } :=
  tellEvents_eq _ _

/-- What printing, waiting and flushing leave as it is. -/
structure SameBut (before after : Outside) : Prop where
  stdout : after.stdout = before.stdout
  environment : after.environment = before.environment
  told : after.told = before.told
  asked : after.asked = before.asked

theorem SameBut.trans {first second third : Outside} (before : first.SameBut second)
    (after : second.SameBut third) : first.SameBut third :=
  ⟨after.stdout.trans before.stdout, after.environment.trans before.environment,
    after.told.trans before.told, after.asked.trans before.asked⟩

theorem print_sameBut (outside : Outside) (bytes : Bytes) :
    outside.SameBut (outside.print bytes) := by
  rw [print]
  split <;> exact ⟨rfl, rfl, rfl, rfl⟩

theorem flush_sameBut (outside : Outside) : outside.SameBut outside.flush :=
  let ⟨stdout, environment, told, asked⟩ := outside.print_sameBut outside.waiting.reverse
  ⟨stdout, environment, told, asked⟩

theorem wait_sameBut (outside : Outside) (bytes : Bytes) :
    outside.SameBut (outside.wait bytes) := by
  rw [wait]
  dsimp only
  split
  · exact ⟨rfl, rfl, rfl, rfl⟩
  · let room := storeLength - outside.waiting.length
    let filled : Outside :=
      { outside with waiting := (bytes.take room).reverse ++ outside.waiting }
    have printed (stores : Bytes) : filled.SameBut (filled.flush.print stores) :=
      filled.flush_sameBut.trans (filled.flush.print_sameBut stores)
    exact ⟨(printed _).stdout, (printed _).environment, (printed _).told, (printed _).asked⟩

/-- An act asks what it asks, and changes nothing that answers. -/
theorem perform_fixed (outside : Outside) (act : Act) :
    (outside.perform act).stdout = outside.stdout ∧
      (outside.perform act).environment = outside.environment ∧
      (outside.perform act).asked = act.question?.toList ++ outside.asked := by
  have asks {after : Outside} (same : (outside.ask .output).SameBut after) :
      after.stdout = outside.stdout ∧ after.environment = outside.environment ∧
        after.asked = [.output] ++ outside.asked :=
    ⟨same.stdout, same.environment, same.asked⟩
  cases act with
  | tell | look => exact ⟨rfl, rfl, rfl⟩
  | print bytes => exact asks (print_sameBut _ bytes)
  | wait bytes => exact asks (wait_sameBut _ bytes)
  | flush => exact asks (flush_sameBut _)
  | call trigger handle => rw [perform, follow_eq]; exact ⟨rfl, rfl, rfl⟩
  | empty =>
      have same := outside.flush_sameBut
      exact ⟨same.stdout, same.environment, same.asked⟩

theorem performAll_fixed (outside : Outside) (acts : List Act) :
    (outside.performAll acts).stdout = outside.stdout ∧
      (outside.performAll acts).environment = outside.environment ∧
      (outside.performAll acts).asked =
        (acts.filterMap Act.question?).reverse ++ outside.asked := by
  induction acts generalizing outside with
  | nil => exact ⟨rfl, rfl, rfl⟩
  | cons act rest ih =>
      obtain ⟨stdout, environment, asked⟩ := outside.perform_fixed act
      obtain ⟨stdoutToo, environmentToo, askedToo⟩ := ih (outside.perform act)
      refine ⟨stdoutToo.trans stdout, environmentToo.trans environment, askedToo.trans ?_⟩
      rw [asked, List.filterMap_cons]
      cases act.question? <;> simp

theorem performAll_stdout (outside : Outside) (acts : List Act) :
    (outside.performAll acts).stdout = outside.stdout :=
  (outside.performAll_fixed acts).1

theorem performAll_environment (outside : Outside) (acts : List Act) :
    (outside.performAll acts).environment = outside.environment :=
  (outside.performAll_fixed acts).2.1

/-- What has been asked is what the acts ask. -/
theorem performAll_asked (outside : Outside) (acts : List Act) :
    (outside.performAll acts).asked = (acts.filterMap Act.question?).reverse ++ outside.asked :=
  (outside.performAll_fixed acts).2.2

/-- Two outsides answer the same to what some acts ask. -/
def Agrees (first : Outside) (acts : List Act) (second : Outside) : Prop :=
  ∀ act ∈ acts, ∀ question ∈ act.question?, question.SameAnswer first second

variable {first second : Outside} {acts later : List Act}

theorem Agrees.front (agrees : first.Agrees (acts ++ later) second) : first.Agrees acts second :=
  fun act member => agrees act (List.mem_append_left _ member)

/-- The answers stay the same after some acts. -/
theorem Agrees.back (agrees : first.Agrees (acts ++ later) second) :
    (first.performAll acts).Agrees later (second.performAll acts) := by
  intro act member question asked
  have same := agrees act (List.mem_append_right _ member) question asked
  cases question <;> simpa only [Question.SameAnswer, performAll_stdout, performAll_environment]
    using same

end Outside

/-! ## Results of computations -/

/-- A result in which there may be processes. -/
class Carries (R : Type) where
  processes : R → List Process
  change : (Process → Process) → R → R
  change_id : ∀ result, change id result = result
  processes_change : ∀ alter result, processes (change alter result) = (processes result).map alter
  change_congr : ∀ {first second : Process → Process} {result : R},
    (∀ process ∈ processes result, first process = second process) →
      change first result = change second result

namespace Carries

instance : Carries Process where
  processes process := [process]
  change alter process := alter process
  change_id _ := rfl
  processes_change _ _ := rfl
  change_congr same := same _ (List.mem_singleton_self _)

variable {R α ε : Type} [Carries R]

instance : Carries (α × R) where
  processes result := processes result.2
  change alter result := (result.1, change alter result.2)
  change_id result := congrArg (Prod.mk _) (change_id result.2)
  processes_change alter result := processes_change alter result.2
  change_congr same := congrArg (Prod.mk _) (change_congr same)

instance : Carries (Option R) where
  processes
    | none => []
    | some result => processes result
  change alter result := result.map (change alter)
  change_id result := by
    cases result with
    | none => rfl
    | some result => exact congrArg some (change_id result)
  processes_change alter result := by
    cases result with
    | none => rfl
    | some result => exact processes_change alter result
  change_congr {_ _ result} same := by
    cases result with
    | none => rfl
    | some result => exact congrArg some (change_congr same)

instance : Carries (Except ε R) where
  processes
    | .error _ => []
    | .ok result => processes result
  change alter result := result.map (change alter)
  change_id result := by
    cases result with
    | error fault => rfl
    | ok result => exact congrArg Except.ok (change_id result)
  processes_change alter result := by
    cases result with
    | error fault => rfl
    | ok result => exact processes_change alter result
  change_congr {_ _ result} same := by
    cases result with
    | error fault => rfl
    | ok result => exact congrArg Except.ok (change_congr same)

end Carries

open Carries (processes change)

/-- A result in which there is one process. -/
class CarriesOne (R : Type) extends Carries R where
  process : R → Process
  processes_eq : ∀ result, processes result = [process result]

namespace CarriesOne

instance : CarriesOne Process := ⟨id, fun _ => rfl⟩

instance {R α : Type} [CarriesOne R] : CarriesOne (α × R) :=
  ⟨fun result => process result.2, fun result => processes_eq result.2⟩

end CarriesOne

/-! ## Machines and their triggers -/

namespace Machine

/-- A library of services on the machine. -/
inductive Offers (machine : Machine) : Library → Prop where
  | program : Offers machine machine.program
  | loader : Offers machine machine.loader
  | systemPart : Offers machine machine.systemPart
  | file {path content : Bytes} {place : Place} {library : Library}
      (found : machine.files.find path = .ok (place, .file content (some library))) :
      Offers machine library

/-- A trigger in a library on the machine. -/
def Has (machine : Machine) (trigger : Trigger) : Prop :=
  ∃ library, machine.Offers library ∧ .trigger trigger ∈ library.exports.map Prod.snd

end Machine

namespace Process

/-- The process in front of another outside. -/
def facing (process : Process) (outside : Outside) : Process := { process with outside }

/-- A process on a machine, with no libraries of services but those of the machine. -/
structure RunsOn (machine : Machine) (process : Process) : Prop where
  onMachine : process.machine = machine
  offered : ∀ object ∈ process.objects, ∀ library,
    object.body = .library library → machine.Offers library

/-- From a process a computation comes to a result by acts that are allowed. Elsewhere, where the
same is answered to what they ask, it comes to the same, with the same acts. -/
structure Does (machine : Machine) (allowed : Act → Prop) (acts : List Act) (process : Process)
    {R : Type} [Carries R] (result : R) (elsewhere : Outside → R) : Prop where
  isAllowed : ∀ act ∈ acts, allowed act
  runsOn : ∀ after ∈ processes result, after.RunsOn machine
  outside_eq : ∀ after ∈ processes result, after.outside = process.outside.performAll acts
  alike : ∀ outside, process.outside.Agrees acts outside →
    elsewhere outside = change (·.facing (outside.performAll acts)) result

def Goes (machine : Machine) (allowed : Act → Prop) (process : Process) {R : Type} [Carries R]
    (result : R) (elsewhere : Outside → R) : Prop :=
  ∃ acts, Does machine allowed acts process result elsewhere

variable {R S M N ε α : Type} [Carries R] [Carries S] [CarriesOne M] [CarriesOne N]
  {machine : Machine} {allowed : Act → Prop} {process : Process}

/-- One computation after another: what the first comes to is where the second begins. -/
theorem Does.andThen {acts later : List Act} {found : R} {elsewhere : Outside → R}
    {middle : Process} {result : S} {rest whole : Outside → S}
    (first : Does machine allowed acts process found elsewhere)
    (only : processes found = [middle]) (second : Does machine allowed later middle result rest)
    (goesOn : ∀ outside, elsewhere outside = change (·.facing (outside.performAll acts)) found →
      whole outside = rest (outside.performAll acts)) :
    Does machine allowed (acts ++ later) process result whole where
  isAllowed act member :=
    (List.mem_append.mp member).elim (first.isAllowed act) (second.isAllowed act)
  runsOn := second.runsOn
  outside_eq after member := by
    rw [Outside.performAll_append, ← first.outside_eq middle (by simp [only]),
      second.outside_eq after member]
  alike outside agrees := by
    have reached : middle.outside = process.outside.performAll acts :=
      first.outside_eq middle (by simp [only])
    rw [goesOn outside (first.alike outside agrees.front), Outside.performAll_append]
    exact second.alike _ (reached ▸ agrees.back)

theorem change_only {first second : Process → Process} {start : M}
    (same : first (CarriesOne.process start) = second (CarriesOne.process start)) :
    change first start = change second start := by
  refine Carries.change_congr fun other member => ?_
  rw [CarriesOne.processes_eq, List.mem_singleton] at member
  exact member ▸ same

theorem change_own {alter : Process → Process} {start : M}
    (own : alter (CarriesOne.process start) = CarriesOne.process start) :
    change alter start = start :=
  (change_only own).trans (Carries.change_id start)

namespace Goes

/-- A computation that does nothing to the outside. -/
theorem blind {result : R} {elsewhere : Outside → R}
    (runsOn : ∀ after ∈ processes result, after.RunsOn machine)
    (same : ∀ outside, elsewhere outside = change (·.facing outside) result)
    (untouched : elsewhere process.outside = result) :
    Goes machine allowed process result elsewhere := by
  refine ⟨[], by simp, runsOn, fun after member => ?_, fun outside _ => same outside⟩
  rw [← untouched, same, Carries.processes_change] at member
  obtain ⟨before, _, rfl⟩ := List.mem_map.mp member
  rfl

theorem here (start : M) (runsOn : (CarriesOne.process start).RunsOn machine) :
    Goes machine allowed (CarriesOne.process start) start fun outside =>
      change (·.facing outside) start := by
  refine blind (fun after member => ?_) (fun _ => rfl) (change_own rfl)
  rw [CarriesOne.processes_eq, List.mem_singleton] at member
  exact member ▸ runsOn

theorem congr {result : R} {elsewhere other : Outside → R}
    (goes : Goes machine allowed process result elsewhere)
    (same : ∀ outside, other outside = elsewhere outside) :
    Goes machine allowed process result other :=
  (funext same : other = elsewhere) ▸ goes

/-- After a computation that comes to one process another one goes on from there. -/
theorem follow {found : R} {elsewhere : Outside → R} {middle : Process}
    (first : Goes machine allowed process found elsewhere) (only : processes found = [middle])
    (next : R → S)
    (second : middle.RunsOn machine → Goes machine allowed middle (next found) fun outside =>
      next (change (·.facing outside) found)) :
    Goes machine allowed process (next found) fun outside => next (elsewhere outside) := by
  obtain ⟨acts, does⟩ := first
  obtain ⟨later, doesLater⟩ := second (does.runsOn middle (by simp [only]))
  exact ⟨acts ++ later, does.andThen only doesLater fun outside same => congrArg next same⟩

theorem andThen {found : M} {elsewhere : Outside → M}
    (first : Goes machine allowed process found elsewhere) (next : M → R)
    (second : (CarriesOne.process found).RunsOn machine →
      Goes machine allowed (CarriesOne.process found) (next found) fun outside =>
        next (change (·.facing outside) found)) :
    Goes machine allowed process (next found) fun outside => next (elsewhere outside) :=
  first.follow (CarriesOne.processes_eq found) next second

/-- What has been found is used; where nothing is found, all ends. -/
theorem bindOption {found? : Option M} {elsewhere : Outside → Option M}
    (first : Goes machine allowed process found? elsewhere) (next : M → Option R)
    (second : ∀ found, found? = some found → (CarriesOne.process found).RunsOn machine →
      Goes machine allowed (CarriesOne.process found) (next found) fun outside =>
        next (change (·.facing outside) found)) :
    Goes machine allowed process (found?.bind next) fun outside =>
      (elsewhere outside).bind next := by
  cases found? with
  | none =>
      obtain ⟨acts, does⟩ := first
      refine ⟨acts, does.isAllowed, fun _ none => (nomatch none), fun _ none => (nomatch none),
        fun outside agrees => ?_⟩
      rw [does.alike outside agrees]
      rfl
  | some found =>
      exact first.follow (CarriesOne.processes_eq found) (·.bind next) (second found rfl)

theorem bindExcept {outcome : Except ε M} {elsewhere : Outside → Except ε M}
    (first : Goes machine allowed process outcome elsewhere) (next : M → Except ε R)
    (second : ∀ found, outcome = .ok found → (CarriesOne.process found).RunsOn machine →
      Goes machine allowed (CarriesOne.process found) (next found) fun outside =>
        next (change (·.facing outside) found)) :
    Goes machine allowed process (outcome >>= next) fun outside => elsewhere outside >>= next := by
  cases outcome with
  | error fault =>
      obtain ⟨acts, does⟩ := first
      refine ⟨acts, does.isAllowed, fun _ none => (nomatch none), fun _ none => (nomatch none),
        fun outside agrees => ?_⟩
      rw [does.alike outside agrees]
      rfl
  | ok found =>
      exact first.follow (CarriesOne.processes_eq found) (· >>= next) (second found rfl)

theorem act (act : Act) (isAllowed : allowed act) (runsOn : process.RunsOn machine) :
    Goes machine allowed process { process with outside := process.outside.perform act }
      fun outside => process.facing (outside.perform act) := by
  refine ⟨[act], by simpa using isAllowed, fun after member => ?_, fun after member => ?_,
    fun _ _ => rfl⟩
  · rw [List.mem_singleton.mp member]
    exact ⟨runsOn.onMachine, runsOn.offered⟩
  · rw [List.mem_singleton.mp member]
    rfl

end Goes

/-- A computation that may come to nothing. Where it does, it has done nothing. -/
structure Performs (machine : Machine) (allowed : Act → Prop) (process : Process)
    (result? : Option R) (elsewhere : Outside → Option R) : Prop where
  goes : Goes machine allowed process result? elsewhere
  nothing : result? = none → ∀ outside, elsewhere outside = none

namespace Performs

theorem of_some {result : R} {elsewhere : Outside → R}
    (goes : Goes machine allowed process result elsewhere) :
    Performs machine allowed process (some result) fun outside => some (elsewhere outside) := by
  obtain ⟨acts, does⟩ := goes
  refine ⟨⟨acts, does.isAllowed, does.runsOn, does.outside_eq, fun outside agrees => ?_⟩, nofun⟩
  exact congrArg some (does.alike outside agrees)

end Performs

/-! ## Computations on the core -/

/-- The process with the rest of another one around its core, its places, its farewells and its
end. -/
def within (process other : Process) : Process :=
  { other with
    core := process.core
    places := process.places
    farewells := process.farewells
    ended := process.ended }

/-- A computation that is the same whatever is around the core. -/
def OnCore (compute : M → R) : Prop :=
  ∀ start other, compute (change (·.within other) start) = change (·.within other) (compute start)

/-- Something that is read off the core. -/
def OffCore (read : M → α) : Prop :=
  ∀ start other, read (change (·.within other) start) = read start

namespace OnCore

variable {compute : M → R} {start : M}

/-- What such a computation comes to has the same around its core as what it begins with. -/
theorem around (onCore : OnCore compute) {after : Process}
    (member : after ∈ processes (compute start)) :
    after.within (CarriesOne.process start) = after := by
  have itself : change (·.within (CarriesOne.process start)) start = start :=
    change_own rfl
  have whole := onCore start (CarriesOne.process start)
  rw [itself] at whole
  rw [whole, Carries.processes_change] at member
  obtain ⟨before, _, rfl⟩ := List.mem_map.mp member
  rfl

theorem runsOn (onCore : OnCore compute) (runsOn : (CarriesOne.process start).RunsOn machine)
    (after : Process) (member : after ∈ processes (compute start)) : after.RunsOn machine := by
  rw [← onCore.around member]
  exact ⟨runsOn.onMachine, runsOn.offered⟩

theorem facing_eq (onCore : OnCore compute) (start : M) (outside : Outside) :
    compute (change (·.facing outside) start) = change (·.facing outside) (compute start) := by
  have around : change (·.facing outside) start =
      change (·.within ((CarriesOne.process start).facing outside)) start :=
    change_only rfl
  rw [around, onCore start]
  refine Carries.change_congr fun after member => ?_
  rw [← onCore.around member]
  rfl

end OnCore

/-! ## Computations as functions -/

/-- The computation goes its way by acts that are allowed, wherever it begins. -/
def Acts (machine : Machine) (allowed : Act → Prop) (compute : M → R) : Prop :=
  ∀ start, (CarriesOne.process start).RunsOn machine →
    Goes machine allowed (CarriesOne.process start) (compute start) fun outside =>
      compute (change (·.facing outside) start)

/-- Something that is the same in front of every outside. -/
def Indoors (read : M → α) : Prop :=
  ∀ start outside, read (change (·.facing outside) start) = read start

namespace Acts

/-- A computation that does nothing to the outside. -/
theorem blind {compute : M → R}
    (runsOn : ∀ start, (CarriesOne.process start).RunsOn machine →
      ∀ after ∈ processes (compute start), after.RunsOn machine)
    (same : ∀ start outside,
      compute (change (·.facing outside) start) = change (·.facing outside) (compute start)) :
    Acts machine allowed compute :=
  fun start runsOnStart => .blind (runsOn start runsOnStart) (same start)
    (congrArg compute (change_own rfl))

theorem ofOnCore {compute : M → R} (onCore : OnCore compute) : Acts machine allowed compute :=
  .blind (fun _ => onCore.runsOn) onCore.facing_eq

theorem here : Acts machine allowed fun start : M => start := fun start runsOn => .here start runsOn

theorem andThen {first : M → N} {next : M → N → R} (acts : Acts machine allowed first)
    (reads : Indoors next) (actsToo : ∀ before, Acts machine allowed (next before)) :
    Acts machine allowed fun start => next start (first start) := by
  intro start runsOn
  simp only [reads start]
  exact (acts start runsOn).andThen (next start) (actsToo start _)

theorem comp {first : M → N} {next : N → R} (acts : Acts machine allowed first)
    (actsToo : Acts machine allowed next) : Acts machine allowed fun start => next (first start) :=
  fun start runsOn => (acts start runsOn).andThen next (actsToo _)

/-- An answer that one computation gives is used by the next. -/
theorem use {first : M → α × N} {next : α → N → R} (acts : Acts machine allowed first)
    (actsToo : ∀ value, Acts machine allowed (next value)) :
    Acts machine allowed fun start => next (first start).1 (first start).2 :=
  fun start runsOn =>
    (acts start runsOn).andThen (fun found => next found.1 found.2) (actsToo _ _)

/-- An answer that one computation gives, or does not give, decides how the next goes on. -/
theorem useOption {first : M → Option α × N} {otherwise : N → R} {next : α → N → R} {whole : M → R}
    (acts : Acts machine allowed first) (actsNone : Acts machine allowed otherwise)
    (actsSome : ∀ value, Acts machine allowed (next value))
    (isNone : ∀ start found, first start = (.none, found) → whole start = otherwise found)
    (isSome : ∀ start value found, first start = (.some value, found) →
      whole start = next value found) :
    Acts machine allowed whole := by
  have uses (value? : Option α) : Acts machine allowed fun found : N =>
      value?.elim (otherwise found) (next · found) := by
    cases value? with
    | none => exact actsNone
    | some value => exact actsSome value
  have isWhole (start : M) :
      whole start = (first start).1.elim (otherwise (first start).2) (next · (first start).2) := by
    rcases isFirst : first start with ⟨_ | value, found⟩
    · exact isNone start found isFirst
    · exact isSome start value found isFirst
  exact (funext isWhole : whole = _) ▸ acts.use uses

theorem bindExcept {first : M → Except ε N} {next : M → N → Except ε R}
    (acts : Acts machine allowed first) (reads : Indoors next)
    (actsToo : ∀ before, Acts machine allowed (next before)) :
    Acts machine allowed fun start => first start >>= next start := by
  intro start runsOn
  simp only [reads start]
  exact (acts start runsOn).bindExcept (next start) fun found _ => actsToo start found

theorem useExcept {first : M → Except ε (α × N)} {next : α → N → Except ε R}
    (acts : Acts machine allowed first) (actsToo : ∀ value, Acts machine allowed (next value)) :
    Acts machine allowed fun start => first start >>= fun found => next found.1 found.2 :=
  fun start runsOn =>
    (acts start runsOn).bindExcept (fun found => next found.1 found.2) fun _ _ => actsToo _ _

/-- What is read is used, if it can be read. -/
theorem readExcept {read : M → Except ε α} {next : α → M → Except ε R} (reads : Indoors read)
    (acts : ∀ value, Acts machine allowed (next value)) :
    Acts machine allowed fun start => read start >>= fun value => next value start := by
  intro start runsOn
  simp only [reads start]
  cases read start with
  | error fault =>
      exact .blind (fun _ none => nomatch none) (fun _ => rfl) rfl
  | ok value => exact acts value start runsOn

/-- Arguments may be read before. -/
theorem given {next : α → M → R} (value : M → α) (reads : Indoors value)
    (acts : ∀ value, Acts machine allowed (next value)) :
    Acts machine allowed fun start => next (value start) start := by
  intro start runsOn
  simp only [reads start]
  exact acts (value start) start runsOn

theorem ite {condition : M → Prop} [∀ start, Decidable (condition start)] {first second : M → R}
    (reads : Indoors condition) (acts : Acts machine allowed first)
    (actsToo : Acts machine allowed second) :
    Acts machine allowed fun start => if condition start then first start else second start := by
  intro start runsOn
  by_cases holds : condition start
  · simp only [reads start, if_pos holds]
    exact acts start runsOn
  · simp only [reads start, if_neg holds]
    exact actsToo start runsOn

/-- Something that is read decides how the computation goes on, if it can be read. -/
theorem readOption {otherwise whole : M → R} {next : α → M → R} (read : M → Option α)
    (reads : Indoors read) (acts : Acts machine allowed otherwise)
    (actsToo : ∀ value, Acts machine allowed (next value))
    (isNone : ∀ start, read start = .none → whole start = otherwise start)
    (isSome : ∀ start value, read start = .some value → whole start = next value start) :
    Acts machine allowed whole := by
  intro start runsOn
  cases isRead : read start with
  | none =>
      rw [isNone start isRead]
      exact (acts start runsOn).congr fun outside => isNone _ ((reads start outside).trans isRead)
  | some value =>
      rw [isSome start value isRead]
      exact (actsToo value start runsOn).congr fun outside =>
        isSome _ value ((reads start outside).trans isRead)

/-- Something is done with a value, if there is one. -/
theorem optional {step : M → α → M} (each : ∀ value, Acts machine allowed (step · value))
    (value? : Option α) :
    Acts machine allowed fun start => (value?.map (step start)).getD start := by
  cases value? with
  | none => exact here
  | some value => exact each value

theorem answer {answer : M → α} {compute : M → N} (reads : Indoors answer)
    (acts : Acts machine allowed compute) :
    Acts machine allowed fun start => (answer start, compute start) :=
  .andThen acts (fun start outside => by rw [reads start outside]) fun _ found runsOn =>
    .here (_, found) runsOn

theorem snd {compute : M → α × N} (acts : Acts machine allowed compute) :
    Acts machine allowed fun start => (compute start).2 :=
  .andThen acts (fun _ _ => rfl) fun _ found runsOn => .here found.2 runsOn

theorem ok {compute : M → N} (acts : Acts machine allowed compute) :
    Acts machine allowed fun start => (.ok (compute start) : Except ε N) := by
  refine .andThen acts (fun _ _ => rfl) fun _ => .blind (fun start runsOn after member => ?_)
    fun _ _ => rfl
  have isStart : after ∈ processes start := member
  rw [CarriesOne.processes_eq, List.mem_singleton] at isStart
  exact isStart ▸ runsOn

theorem some {compute : M → R} (acts : Acts machine allowed compute) :
    Acts machine allowed fun start => some (compute start) := by
  intro start runsOn
  obtain ⟨acts, does⟩ := acts start runsOn
  exact ⟨acts, does.isAllowed, does.runsOn, does.outside_eq, fun outside agrees =>
    congrArg Option.some (does.alike outside agrees)⟩

theorem none : Acts machine allowed fun _ : M => (none : Option R) :=
  .blind (fun _ _ _ none => nomatch none) fun _ _ => rfl

theorem error {fault : M → ε} (reads : Indoors fault) :
    Acts machine allowed fun start => (.error (fault start) : Except ε R) :=
  .blind (fun _ _ _ none => nomatch none) fun start outside => by
    rw [reads start outside]
    rfl

theorem mono {more : Act → Prop} {compute : M → R} (acts : Acts machine allowed compute)
    (weaker : ∀ act, allowed act → more act) : Acts machine more compute := fun start runsOn =>
  let ⟨acts, does⟩ := acts start runsOn
  ⟨acts, fun act member => weaker act (does.isAllowed act member), does.runsOn, does.outside_eq,
    does.alike⟩

/-- A computation that does nothing to the outside comes to the same in front of every one. -/
theorem blind_eq {compute : M → R} (acts : Acts machine (fun _ => False) compute) {start : M}
    (runsOn : (CarriesOne.process start).RunsOn machine) (outside : Outside) :
    compute (change (·.facing outside) start) = change (·.facing outside) (compute start) := by
  obtain ⟨acts, does⟩ := acts start runsOn
  cases acts with
  | nil => exact does.alike outside fun _ none => nomatch none
  | cons act _ => exact (does.isAllowed act List.mem_cons_self).elim

/-- Where a computation fails that does nothing to the outside, another one begins in its place. -/
theorem attempt {first : M → Except ε N} {next : N → R} {otherwise : ε → M → R} {whole : M → R}
    (blind : Acts machine (fun _ => False) first) (acts : Acts machine allowed next)
    (actsToo : ∀ fault, Acts machine allowed (otherwise fault))
    (isNext : ∀ start found, first start = .ok found → whole start = next found)
    (isOtherwise : ∀ start fault, first start = .error fault →
      whole start = otherwise fault start) :
    Acts machine allowed whole := by
  intro start runsOn
  have same := blind.blind_eq runsOn
  obtain ⟨done, does⟩ := blind.mono (fun _ none => none.elim) start runsOn
  cases isFound : first start with
  | error fault =>
      have there (outside : Outside) := isOtherwise (change (·.facing outside) start) fault (by
        rw [same outside, isFound]
        rfl)
      rw [isOtherwise start fault isFound]
      simp only [there]
      exact actsToo fault start runsOn
  | ok found =>
      rw [isFound] at does
      have only : processes (.ok found : Except ε N) = [CarriesOne.process found] :=
        CarriesOne.processes_eq found
      obtain ⟨later, doesLater⟩ :=
        acts found (does.runsOn _ (only ▸ List.mem_singleton_self _))
      rw [isNext start found isFound]
      exact ⟨done ++ later, does.andThen only doesLater fun outside same => isNext _ _ same⟩

theorem foldl {step : M → α → M} (each : ∀ item, Acts machine allowed (step · item))
    (list : List α) : Acts machine allowed fun start => list.foldl step start := by
  induction list with
  | nil => exact here
  | cons item rest ih =>
      exact fun start runsOn => (each item start runsOn).andThen (rest.foldl step) (ih _)

theorem foldlM {step : M → α → Except ε M} (each : ∀ item, Acts machine allowed (step · item))
    (list : List α) : Acts machine allowed fun start => list.foldlM step start := by
  induction list with
  | nil => exact .ok .here
  | cons item rest ih =>
      simp only [List.foldlM_cons]
      exact .bindExcept (each item) (fun _ _ => rfl) fun _ => ih

end Acts

theorem Acts.act (act : Act) (isAllowed : allowed act) :
    Acts machine allowed fun process : Process =>
      { process with outside := process.outside.perform act } :=
  fun _ runsOn => .act act isAllowed runsOn

/-- Something is done that asks something, and the answer to that is used. -/
theorem Acts.asking (act : Act) (question : Question) (answer : Outside → α)
    (next : α → Process → R) (isAllowed : allowed act) (asks : act.question? = .some question)
    (answered : ∀ {first second}, question.SameAnswer first second → answer first = answer second)
    (acts : ∀ value, Acts machine allowed (next value)) :
    Acts machine allowed fun process : Process =>
      next (answer process.outside)
        { process with outside := process.outside.perform act } := by
  intro process runsOn
  obtain ⟨later, does⟩ := acts (answer process.outside)
    { process with outside := process.outside.perform act } ⟨runsOn.onMachine, runsOn.offered⟩
  refine ⟨act :: later, List.forall_mem_cons.mpr ⟨isAllowed, does.isAllowed⟩, does.runsOn,
    does.outside_eq, fun outside agrees => ?_⟩
  have same : answer outside = answer process.outside :=
    (answered (agrees act List.mem_cons_self question asks)).symm
  have agreesLater : (process.outside.performAll [act]).Agrees later
      (outside.performAll [act]) := agrees.back
  have goesOn := does.alike (outside.perform act) agreesLater
  change next (answer outside)
    { process.facing outside with outside := outside.perform act } = _
  rw [same]
  exact goesOn

/-- The computation may come to nothing, and then it has done nothing. -/
def Serves (machine : Machine) (allowed : Act → Prop) (compute : M → Option R) : Prop :=
  ∀ start, (CarriesOne.process start).RunsOn machine →
    Performs machine allowed (CarriesOne.process start) (compute start) fun outside =>
      compute (change (·.facing outside) start)

namespace Serves

theorem ofOnCore {compute : M → Option R} (onCore : OnCore compute) :
    Serves machine allowed compute := by
  refine fun start runsOn => ⟨Acts.ofOnCore onCore start runsOn, fun nothing outside => ?_⟩
  rw [onCore.facing_eq, nothing]
  rfl

theorem ofBlind {compute : M → Option R} (acts : Acts machine (fun _ => False) compute) :
    Serves machine allowed compute := by
  refine fun start runsOn => ⟨acts.mono (fun _ none => none.elim) start runsOn, ?_⟩
  intro nothing outside
  rw [acts.blind_eq runsOn, nothing]
  rfl

theorem some {compute : M → R} (acts : Acts machine allowed compute) :
    Serves machine allowed fun start => some (compute start) :=
  fun start runsOn => .of_some (acts start runsOn)

/-- What is found on the core is used. -/
theorem bind {first : M → Option N} {next : M → N → Option R} (onCore : OnCore first)
    (reads : Indoors next) (serves : ∀ before, Serves machine allowed (next before)) :
    Serves machine allowed fun start => (first start).bind (next start) := by
  intro start runsOn
  simp only [reads start]
  have acts : Acts machine allowed first := .ofOnCore onCore
  refine ⟨(acts start runsOn).bindOption (next start) fun found _ runsOn =>
    (serves start found runsOn).goes, fun nothing outside => ?_⟩
  rw [onCore.facing_eq]
  cases isFound : first start with
  | none => rfl
  | some found =>
      rw [isFound] at nothing
      refine (serves start found (onCore.runsOn runsOn _ ?_)).nothing nothing outside
      rw [isFound]
      change _ ∈ processes found
      rw [CarriesOne.processes_eq]
      exact List.mem_singleton_self _

/-- What is read is used. -/
theorem read {read : M → Option α} {next : α → M → Option R} (reads : Indoors read)
    (serves : ∀ value, Serves machine allowed (next value)) :
    Serves machine allowed fun start => (read start).bind fun value => next value start := by
  intro start runsOn
  simp only [reads start]
  cases read start with
  | none => exact (ofOnCore fun _ _ => rfl : Serves machine allowed fun _ : M => none) start runsOn
  | some value => exact serves value start runsOn

/-- An answer to something that is read. -/
theorem readMap {read : M → Option α} {answer : α → M → R} (reads : Indoors read)
    (acts : ∀ value, Acts machine allowed (answer value)) :
    Serves machine allowed fun start => (read start).map fun value => answer value start := by
  intro start runsOn
  simp only [reads start]
  cases read start with
  | none => exact (ofOnCore fun _ _ => rfl : Serves machine allowed fun _ : M => none) start runsOn
  | some value => exact .of_some (acts value start runsOn)

theorem ite {condition : M → Prop} [∀ start, Decidable (condition start)]
    {first second : M → Option R} (reads : Indoors condition)
    (serves : Serves machine allowed first) (servesToo : Serves machine allowed second) :
    Serves machine allowed fun start => if condition start then first start else second start := by
  intro start runsOn
  by_cases holds : condition start
  · simp only [reads start, if_pos holds]
    exact serves start runsOn
  · simp only [reads start, if_neg holds]
    exact servesToo start runsOn

/-- Where a computation comes to nothing, another one begins in its place. -/
theorem orElse {first : M → Option N} {next : N → R} {otherwise whole : M → R}
    (serves : Serves machine allowed first) (acts : Acts machine allowed next)
    (actsToo : Acts machine allowed otherwise)
    (isNext : ∀ start found, first start = .some found → whole start = next found)
    (isOtherwise : ∀ start, first start = .none → whole start = otherwise start) :
    Acts machine allowed whole := by
  intro start runsOn
  obtain ⟨⟨done, does⟩, nothing⟩ := serves start runsOn
  cases isFound : first start with
  | none =>
      rw [isOtherwise start isFound]
      simp only [fun outside => isOtherwise _ (nothing isFound outside)]
      exact actsToo start runsOn
  | some found =>
      rw [isFound] at does
      have only : processes (Option.some found) = [CarriesOne.process found] :=
        CarriesOne.processes_eq found
      obtain ⟨later, doesLater⟩ :=
        acts found (does.runsOn _ (only ▸ List.mem_singleton_self _))
      rw [isNext start found isFound]
      exact ⟨done ++ later, does.andThen only doesLater fun outside same => isNext _ _ same⟩

end Serves

end Process

end PluginHost
