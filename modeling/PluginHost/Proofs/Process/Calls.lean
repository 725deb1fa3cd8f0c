import PluginHost.Proofs.Process.Code

/-!
# What calls do

A function that runs in a process does what its instructions ask of the system and what the services
do that they call. Functions that are bound on the way add nothing.
-/

namespace PluginHost

open Carries (processes change)
open Library (Routine)
open Processor (Core Pause Register)

namespace Process

variable {machine : Machine} {allowed : Act → Prop}

/-! ## Objects -/

theorem changeObject_acts (id : ObjectId) {alter : Object → Object}
    (keeps : ∀ object library, (alter object).body = .library library →
      object.body = .library library) :
    Acts machine allowed (changeObject · id alter) := by
  refine .blind (fun process runsOn after member => ?_) fun _ _ => rfl
  rw [List.mem_singleton.mp member]
  refine ⟨runsOn.onMachine, fun object among library isLibrary => ?_⟩
  obtain ⟨before, amongBefore, rfl⟩ := List.mem_map.mp among
  refine runsOn.offered before amongBefore library ?_
  split at isLibrary
  · exact keeps before library isLibrary
  · exact isLibrary

/-- Take a definition that is to be the only one of its name, unless there is one already. -/
def takeUnique (process : Process) (wanted : Wanted) (id : ObjectId) (definition : Definition) :
    Option Definition × Process :=
  match process.unique.lookup wanted.name with
  | some known => (some known, process)
  | none =>
      let unique := (wanted.name, definition) :: process.unique
      (some definition,
        { process with unique }.changeObject id fun object => { object with stays := true })

theorem takeUnique_acts (wanted : Wanted) (id : ObjectId) (definition : Definition) :
    Acts machine allowed (takeUnique · wanted id definition) := by
  have notes : Acts machine allowed fun process : Process =>
      { process with unique := (wanted.name, definition) :: process.unique } :=
    .blind (fun process runsOn after member => List.mem_singleton.mp member ▸
      ⟨runsOn.onMachine, runsOn.offered⟩) fun _ _ => rfl
  have stays : Acts machine allowed fun process : Process =>
      process.changeObject id fun object => { object with stays := true } :=
    changeObject_acts id fun _ _ same => same
  have answers (found : Definition) : Acts machine allowed fun process : Process =>
      (some found, process) :=
    .answer (fun _ _ => rfl) .here
  refine .readOption (fun process => process.unique.lookup wanted.name) (fun _ _ => rfl)
    ((notes.comp stays).comp (answers definition)) answers ?_ ?_
  · intro process isNone
    simp only [takeUnique, isNone]
  · intro process known isSome
    simp only [takeUnique, isSome]

theorem lookup_acts (wanted : Wanted) (ids : List ObjectId) :
    Acts machine allowed (lookup · wanted ids) := by
  induction ids with
  | nil => exact .answer (fun _ _ => rfl) .here
  | cons id rest ih =>
      have takes (found : Definition × Nat) : Acts machine allowed fun process : Process =>
          if found.2 ≠ Symbol.uniqueBinding then (some found.1, process)
          else process.takeUnique wanted id found.1 :=
        .ite (fun _ _ => rfl) (.answer (fun _ _ => rfl) .here) (takeUnique_acts wanted id found.1)
      refine .readOption
        (fun process => ((process.object? id).filter (!·.isRemoved)).bind fun object =>
          object.find? process.memory wanted)
        (fun _ _ => rfl) ih takes ?_ ?_
      · intro process isNone
        simp only [lookup, isNone]
      · intro process found isSome
        simp only [lookup, isSome]
        rfl

theorem bond_acts (object : Object) (other : ObjectId) :
    Acts machine allowed (bond · object other) :=
  .ite (fun _ _ => rfl) .here <| changeObject_acts object.id fun object library same => by
    split at same <;> exact same

/-- Take what has been looked up for a reference, or what the object itself defines. -/
def settle? (object : Object) (symbol : Symbol) (isCalled : Bool) (called : Wanted) :
    Option Definition × Process → Option Definition × Process
  | (none, process) => (none, process)
  | (some found, process) =>
      let isReplaced :=
        if isCalled || symbol.reach ≠ Symbol.protectedReach then found.object ≠ object.id
        else (process.lookup called (process.scopeOf object)).1.any (·.object ≠ object.id)
      if symbol.reach = Symbol.protectedReach && isReplaced then
        (some (symbol.definition object.id), process)
      else (some found, process.bond object found.object)

theorem settle?_acts (object : Object) (symbol : Symbol) (isCalled : Bool) (called : Wanted) :
    Acts machine allowed (settle? object symbol isCalled called) := by
  have settles (found : Definition) (isReplaced : Bool) : Acts machine allowed
      fun process : Process =>
        if symbol.reach = Symbol.protectedReach && isReplaced then
          (some (symbol.definition object.id), process)
        else (some found, process.bond object found.object) :=
    .ite (fun _ _ => rfl) (.answer (fun _ _ => rfl) .here)
      (.answer (fun _ _ => rfl) (bond_acts object found.object))
  rintro ⟨_ | found, process⟩ runsOn
  · exact .here (none, process) runsOn
  · refine (settles found _ process runsOn).congr fun outside => ?_
    have same := Acts.blind_eq (lookup_acts called (process.scopeOf object)) runsOn outside
    exact congrArg (fun looked? : Option Definition =>
      if symbol.reach = Symbol.protectedReach &&
          decide (if isCalled || symbol.reach ≠ Symbol.protectedReach then found.object ≠ object.id
          else looked?.any fun other => other.object ≠ object.id) then
        (some (symbol.definition object.id), process.facing outside)
      else (some found, (process.facing outside).bond object found.object))
      (congrArg Prod.fst same)

theorem search_eq (process : Process) (object : Object) (index : UInt64) (symbol : Symbol)
    (isCalled : Bool) :
    process.search object index symbol isCalled =
      let wanted := object.wanted process.memory index symbol isCalled
      settle? object symbol isCalled { wanted with isCalled := true }
        (process.lookup wanted (process.scopeOf object)) := by
  rw [search]
  dsimp only
  rcases process.lookup (object.wanted process.memory index symbol isCalled)
    (process.scopeOf object) with ⟨_ | found, after⟩ <;> rfl

theorem search_acts (object : Object) (index : UInt64) (symbol : Symbol) (isCalled : Bool) :
    Acts machine allowed (search · object index symbol isCalled) := by
  intro process
  simp only [search_eq]
  exact (lookup_acts (object.wanted process.memory index symbol isCalled)
    (process.scopeOf object)).comp (settle?_acts object symbol isCalled _) process

theorem bind_acts (object : Object) (index : UInt64) (symbol : Symbol) (isCalled : Bool) :
    Acts machine allowed (bind · object index symbol isCalled) := by
  refine .ite (fun _ _ => rfl) (.ok (.answer (fun _ _ => rfl) .here)) ?_
  have finds (found : Option Definition) : Acts machine allowed fun process : Process =>
      (.ok (found, process) : Except LoadFault _) :=
    .ok (.answer (fun _ _ => rfl) .here)
  have settles : Acts machine allowed fun process : Process =>
      if symbol.binding = Symbol.weakBinding then .ok (none, process)
      else
        (.error (.undefined object.path symbol.name
          ((object.askedVersion? process.memory index).map (·.1.name))) :
          Except LoadFault (Option Definition × Process)) :=
    .ite (fun _ _ => rfl) (finds none) (.error fun _ _ => rfl)
  refine .useOption (search_acts object index symbol isCalled) settles
    (fun found => finds (some found)) ?_ ?_
  · intro process after isNone
    simp only [isNone]
  · intro process found after isSome
    simp only [isSome]

/-! ## Calls -/

theorem callWith_acts {goOn : Process → Process} (acts : Acts machine allowed goOn)
    (address : UInt64) (arguments : List UInt64) :
    Acts machine allowed (callWith goOn · address arguments) := by
  intro process
  have enters : Acts machine allowed fun process : Process =>
      process.changeCore fun core => core.enter address Gate.finish.address arguments :=
    .ofOnCore (changeCore_onCore _)
  have leaves : Acts machine allowed fun after : Process =>
      (after.core.get Register.accumulator,
        after.changeCore fun core => { core with registers := process.core.registers }) :=
    .answer (fun _ _ => rfl) (.ofOnCore (changeCore_onCore _))
  exact (enters.comp acts).comp leaves process

theorem leadWith_acts {goOn : Process → Process} (acts : Acts machine allowed goOn)
    (found : Option Definition) : Acts machine allowed (leadWith goOn · found) := by
  cases found with
  | none => exact .answer (fun _ _ => rfl) .here
  | some definition =>
      refine .ite (fun _ _ => rfl) ?_ (.answer (fun _ _ => rfl) .here)
      exact fun process => callWith_acts acts (process.addressOf definition) [] process

theorem missCall_acts (fault : LoadFault) :
    Acts machine (Act.Known machine.Has) (missCall · fault) := by
  have leaves : Acts machine (Act.Known machine.Has) fun process : Process =>
      process.leave ⟨unusableCode, false⟩ :=
    .ofOnCore (leave_onCore fun _ _ => rfl)
  exact ((tell_acts _).comp leaves :)

/-- Bind the function of a symbol for a relocation of an object, and go there. -/
def bindRow (goOn : Process → Process) (process : Process) (top : UInt64) (object : Object)
    (relocation : Relocation) (symbol : Symbol) : Process :=
  let bound :=
    if symbol.reach ≠ 0 then .ok (some (symbol.definition object.id), process)
    else process.bind object relocation.index symbol true
  match bound with
  | .error fault => process.missCall fault
  | .ok (found, process) =>
      let (address, process) := process.leadWith goOn found
      let process := process.write .quad (object.base + relocation.offset) address
      process.changeCore fun core => (core.set Register.stack (top + 16)).goTo address

variable {goOn : Process → Process}

theorem bindRow_acts (acts : Acts machine (Act.Known machine.Has) goOn) (top : UInt64)
    (object : Object) (relocation : Relocation) (symbol : Symbol) :
    Acts machine (Act.Known machine.Has) (bindRow goOn · top object relocation symbol) := by
  have binds : Acts machine (fun _ => False) fun process : Process =>
      if symbol.reach ≠ 0 then .ok (some (symbol.definition object.id), process)
      else process.bind object relocation.index symbol true :=
    .ite (fun _ _ => rfl) (.ok (.answer (fun _ _ => rfl) .here)) (bind_acts _ _ _ _)
  have enters : Acts machine (Act.Known machine.Has) fun found : UInt64 × Process =>
      (found.2.write .quad (object.base + relocation.offset) found.1).changeCore fun core =>
        (core.set Register.stack (top + 16)).goTo found.1 := by
    rintro ⟨address, process⟩
    have writes : OnCore fun process : Process =>
        process.write .quad (object.base + relocation.offset) address :=
      write_onCore .quad (fun _ _ => rfl) fun _ _ => rfl
    exact Acts.ofOnCore (writes.andThen (changeCore_onCore _)) process
  have leads : Acts machine (Act.Known machine.Has) fun found : Option Definition × Process =>
      let (address, process) := found.2.leadWith goOn found.1
      (process.write .quad (object.base + relocation.offset) address).changeCore fun core =>
        (core.set Register.stack (top + 16)).goTo address :=
    fun ⟨found, process⟩ => (leadWith_acts acts found).comp enters process
  refine .attempt binds leads missCall_acts ?_ ?_
  · intro process found isFound
    simp only [bindRow, isFound]
  · intro process fault isFault
    simp only [bindRow, isFault]

/-- What the function that is being called is to be bound for. -/
def calledRow? (process : Process) : Option (Object × Relocation × Symbol) := do
  let top := process.core.get Register.stack
  let object ← process.objectAt? (← process.memory.load? .quad top)
  let number ← process.memory.load? .quad (top + 8)
  let table ← object.stated? Statements.laterRelocations
  let relocation ← relocation? process.memory (table + relocationLength * number)
  let symbol ← object.symbol? process.memory relocation.index
  return (object, relocation, symbol)

theorem bindCallWith_acts (acts : Acts machine (Act.Known machine.Has) goOn) :
    Acts machine (Act.Known machine.Has) (bindCallWith goOn) := by
  have binds (row : Object × Relocation × Symbol) : Acts machine (Act.Known machine.Has)
      fun process : Process =>
        process.bindRow goOn (process.core.get Register.stack) row.1 row.2.1 row.2.2 :=
    fun process => bindRow_acts acts (process.core.get Register.stack) row.1 row.2.1 row.2.2 process
  refine .readOption calledRow? (fun _ _ => rfl) (.ofOnCore crash_onCore) binds ?_ ?_
  · intro process isNone
    unfold calledRow? at isNone
    simp only [bindCallWith, isNone]
  · intro process row isSome
    unfold calledRow? at isSome
    simp only [bindCallWith, isSome]
    rfl

/-! ## Functions that run -/

theorem service_known {process : Process} (runsOn : process.RunsOn machine) {address : UInt64}
    {trigger : Trigger} (found : process.service? address = some (.trigger trigger)) :
    machine.Has trigger := by
  obtain ⟨object, isObject, isService⟩ := Option.bind_eq_some_iff.mp found
  have member : object ∈ process.objects := List.mem_of_find?_eq_some isObject
  unfold Object.service? at isService
  split at isService
  · cases isService
  · rename_i library isLibrary
    refine ⟨library, runsOn.offered object member library isLibrary, ?_⟩
    dsimp only at isService
    split at isService
    · cases isService
    · obtain ⟨row, isRow, isTrigger⟩ := Option.map_eq_some_iff.mp isService
      exact isTrigger ▸ List.mem_map_of_mem (List.mem_of_getElem? isRow)

theorem performService_serves {service : Service}
    (known : ∀ trigger, service = .trigger trigger → machine.Has trigger) :
    Serves machine (Act.Known machine.Has) (performService · service) := by
  cases service with
  | trigger trigger => exact callTrigger_serves (known trigger rfl)
  | accessor part => exact access_serves part
  | headerAccessor => exact accessHeader_serves
  | routine status routine => exact performRoutine_serves routine
  | cell _ => exact .ofOnCore .none

theorem comeBack_onCore (answer : UInt64) : OnCore (comeBack · answer) := changeCore_onCore _

theorem serve_acts {service : Service}
    (known : ∀ trigger, service = .trigger trigger → machine.Has trigger) :
    Acts machine (Act.Known machine.Has) (serve · service) := by
  have comesBack : Acts machine (Act.Known machine.Has) fun found : UInt64 × Process =>
      found.2.comeBack found.1 :=
    fun ⟨answer, process⟩ => Acts.ofOnCore (comeBack_onCore answer) process
  refine Serves.orElse (performService_serves known) comesBack lookAgain_acts ?_ ?_
  · intro process found isFound
    simp only [serve, isFound]
  · intro process isNone
    simp only [serve, isNone]

theorem tellDistance_onCore : OnCore tellDistance := by
  refine .readOption
    (fun process => process.memory.load? .quad (process.core.get Register.accumulator + 8))
    (fun _ _ => rfl) crash_onCore comeBack_onCore ?_ ?_
  · intro process isNone
    simp only [tellDistance, isNone]
  · intro process distance isSome
    simp only [tellDistance, isSome]

theorem runCore_onCore : OnCore runCore := by
  intro process other
  have runs (core : Core) (process : Process) :
      runCore { process with core } = ((core.run longestRun {}).1,
        { process with core := (core.run longestRun {}).2 }) := by
    simp only [runCore, detach]
  have first := runs process.core process
  have second := runs process.core (process.within other)
  generalize process.core.run longestRun {} = ran at first second
  change runCore (process.within other) = change (·.within other) process.runCore
  exact second.trans (congrArg (change (·.within other)) first).symm

theorem takeFarewells_onCore (owner : UInt64) : OnCore (takeFarewells · owner) := fun _ _ => rfl

theorem bidFarewells_acts (acts : Acts machine allowed goOn) (owner : UInt64) :
    Acts machine allowed (bidFarewells goOn · owner) := by
  have bid (farewell : Farewell) : Acts machine allowed fun process : Process =>
      (process.callWith goOn farewell.function [farewell.argument]).2 :=
    (callWith_acts acts farewell.function [farewell.argument]).snd
  have bids : Acts machine allowed fun taken : List Farewell × Process =>
      taken.1.foldl
        (fun process farewell =>
          (process.callWith goOn farewell.function [farewell.argument]).2)
        taken.2 :=
    fun ⟨farewells, process⟩ => Acts.foldl bid farewells process
  exact ((Acts.ofOnCore (takeFarewells_onCore owner)).comp bids :)

/-- Where a service has been called: it is performed, and the caller goes on. -/
def answerCall (goOn : Process → Process) (process : Process) (owner : UInt64) :
    Option Service → Process
  | none => process.crash
  | some (.routine _ .bidFarewell) => goOn ((bidFarewells goOn process owner).comeBack 0)
  | some service => goOn (process.serve service)

/-- Where an address without instructions has been reached. -/
def pass (goOn : Process → Process) (process : Process) (service? : Option Service)
    (owner : UInt64) : Option Gate → Process
  | some .finish => process
  | some .binding => goOn (process.bindCallWith goOn)
  | some .threadDistance => goOn process.tellDistance
  | none => process.answerCall goOn owner service?

/-- After the core has paused. -/
def resume (goOn : Process → Process) : Pause × Process → Process
  | (.endless, process) | (.hindered, process) => process.crash
  | (.asking, process) => goOn process.askSystem
  | (.outside, process) =>
      process.pass goOn (process.service? process.core.next) (process.argument 0)
        (Gate.at? process.core.next)

theorem proceed_succ (count : Nat) (process : Process) :
    proceed (count + 1) process =
      if process.ended.isSome then process
      else if process.runCore.1 = .hindered then proceed count process.lookAgain
      else resume (proceed count) process.runCore := by
  rw [proceed]
  rcases process.runCore with ⟨_ | _ | _ | _, after⟩ <;> rfl

theorem runCore_hindered_indoors : Indoors fun process : Process =>
    process.runCore.1 = .hindered := by
  intro process outside
  have same : (change (·.facing outside) process).runCore =
      change (·.facing outside) process.runCore :=
    runCore_onCore.facing_eq process outside
  simp only [same]
  rfl

theorem answerCall_acts (acts : Acts machine (Act.Known machine.Has) goOn) (owner : UInt64)
    {service? : Option Service}
    (known : ∀ trigger, service? = some (.trigger trigger) → machine.Has trigger) :
    Acts machine (Act.Known machine.Has) (answerCall goOn · owner service?) := by
  unfold answerCall
  split
  · exact .ofOnCore crash_onCore
  · exact ((bidFarewells_acts acts owner).comp (.ofOnCore (comeBack_onCore 0))).comp acts
  · exact (serve_acts fun trigger isTrigger => known trigger (congrArg some isTrigger)).comp acts

theorem pass_acts (acts : Acts machine (Act.Known machine.Has) goOn) {service? : Option Service}
    (known : ∀ trigger, service? = some (.trigger trigger) → machine.Has trigger)
    (owner : UInt64) (gate? : Option Gate) :
    Acts machine (Act.Known machine.Has) (pass goOn · service? owner gate?) := by
  cases gate? with
  | none => exact answerCall_acts acts owner known
  | some gate =>
      cases gate with
      | finish => exact .here
      | binding => exact (bindCallWith_acts acts).comp acts
      | threadDistance => exact (Acts.ofOnCore tellDistance_onCore).comp acts

theorem resume_acts (acts : Acts machine (Act.Known machine.Has) goOn) :
    Acts machine (Act.Known machine.Has) (resume goOn) := by
  rintro ⟨pause, process⟩ runsOn
  cases pause with
  | endless => exact Acts.ofOnCore crash_onCore process runsOn
  | hindered => exact Acts.ofOnCore crash_onCore process runsOn
  | asking => exact askSystem_acts.comp acts process runsOn
  | outside => exact pass_acts acts (fun _ found => service_known runsOn found) _ _ process runsOn

/-- By induction on how often something may still happen besides the instructions. -/
theorem proceed_acts (count : Nat) : Acts machine (Act.Known machine.Has) (proceed count) := by
  induction count with
  | zero => exact .ofOnCore crash_onCore
  | succ count ih =>
      have runs : Acts machine (Act.Known machine.Has) fun process : Process =>
          if process.runCore.1 = .hindered then proceed count process.lookAgain
          else resume (proceed count) process.runCore :=
        .ite runCore_hindered_indoors (lookAgain_acts.comp ih)
          ((Acts.ofOnCore runCore_onCore).comp (resume_acts ih))
      have goesOn : Acts machine (Act.Known machine.Has) fun process : Process =>
          if process.ended.isSome then process
          else if process.runCore.1 = .hindered then proceed count process.lookAgain
          else resume (proceed count) process.runCore :=
        .ite (fun _ _ => rfl) .here runs
      exact (funext (proceed_succ count) : proceed (count + 1) = _) ▸ goesOn

theorem call_acts (address : UInt64) (arguments : List UInt64) :
    Acts machine (Act.Known machine.Has) (call · address arguments) :=
  callWith_acts (proceed_acts _) address arguments

theorem lead_acts (found : Option Definition) :
    Acts machine (Act.Known machine.Has) (lead · found) :=
  leadWith_acts (proceed_acts _) found

end Process

end PluginHost
