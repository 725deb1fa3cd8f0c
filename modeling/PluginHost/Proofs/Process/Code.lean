import PluginHost.Proofs.Process.Routines

/-!
# What code does

Code in a process asks the system and calls services. All that leaves the process by that is a list
of acts; what it asks for beforehand is asked by one of them.
-/

namespace PluginHost

open Carries (processes change)
open Library (Routine)
open Processor (Core Register)

namespace Process

variable {machine : Machine}

/-! ## The system -/

/-- What is answered is what comes of printing. -/
theorem writeToOutput_acts (bytes : Bytes) :
    Acts machine (Act.Known machine.Has) (writeTo · outputFile bytes) :=
  Acts.asking (.print bytes) .output (outputAnswer ·.stdout bytes)
    (fun answer process => (answer, process)) trivial rfl (congrArg (outputAnswer · bytes))
    fun _ => .answer (fun _ _ => rfl) .here

theorem tell_acts (text : Bytes) :
    Acts machine (Act.Known machine.Has) fun process : Process => process.tell (.text text) :=
  .act (.tell text) trivial

theorem writeTo_acts (file : UInt64) (bytes : Bytes) :
    Acts machine (Act.Known machine.Has) (writeTo · file bytes) := by
  by_cases isOutput : file = outputFile
  · exact isOutput ▸ writeToOutput_acts bytes
  · simp only [writeTo, if_neg isOutput]
    refine .ite (fun _ _ => rfl) (.answer (fun _ _ => rfl) ?_) (.answer (fun _ _ => rfl) .here)
    exact .ite (fun _ _ => rfl) .here (tell_acts bytes)

theorem writeFrom_acts (file address : UInt64) (length : Nat) :
    Acts machine (Act.Known machine.Has) (writeFrom · file address length) :=
  .ite (fun _ _ => rfl) (.answer (fun _ _ => rfl) .here) <|
    .given (fun process => process.memory.bytes address length) (fun _ _ => rfl) (writeTo_acts file)

theorem giveMemory_onCore (length rights kind : UInt64) :
    OnCore (giveMemory · length rights kind) :=
  .ite (fun _ _ => rfl) (.answer (fun _ _ => rfl) .here) fun _ _ => rfl

theorem systemAnswer_acts (number first second third fourth : UInt64) :
    Acts machine (Act.Known machine.Has) (systemAnswer · number first second third fourth) := by
  have answers (answer : UInt64) :
      Acts machine (Act.Known machine.Has) fun process : Process => (answer, process) :=
    .answer (fun _ _ => rfl) .here
  have protects (access : Processor.Access) : Acts machine (Act.Known machine.Has)
      fun process : Process =>
        ((0 : UInt64), process.changeMemory (·.protect first second access)) :=
    .answer (fun _ _ => rfl) (.ofOnCore (changeMemory_onCore _))
  unfold systemAnswer
  split
  case h_2 => exact writeFrom_acts first second third.toNat
  case h_4 => exact .ofOnCore (giveMemory_onCore second third fourth)
  case h_5 => exact protects _
  case h_6 => exact protects _
  case h_7 => exact .answer (fun _ _ => rfl) .here
  case h_13 =>
    refine .readOption (fun process => process.memory.gather? third.toNat second)
      (fun _ _ => rfl) (answers (refusal badAddress)) (writeTo_acts first) ?_ ?_
    · intro process isNone
      simp only [isNone]
    · intro process bytes isSome
      simp only [isSome]
  case h_16 => exact .answer (fun _ _ => rfl) (.ofOnCore (leave_onCore fun _ _ => rfl))
  case h_17 => exact .answer (fun _ _ => rfl) (.ofOnCore (leave_onCore fun _ _ => rfl))
  all_goals exact answers _

/-! ## Variables -/

theorem showVariables_acts : Acts machine (Act.Known machine.Has) showVariables :=
  .asking (.look .environment) .environment (·.environment.strings)
    (fun strings process =>
      process.changeMemory (·.addRegion (stringsRegion variableTable strings)))
    trivial rfl (congrArg Environment.strings) fun _ => .ofOnCore (changeMemory_onCore _)

theorem lookAgain_acts : Acts machine (Act.Known machine.Has) lookAgain :=
  .ite (fun _ _ => rfl) (.ofOnCore crash_onCore) showVariables_acts

theorem registeredAnswer_acts : Acts machine (Act.Known machine.Has) registeredAnswer :=
  fun process runsOn => systemAnswer_acts _ _ _ _ _ process runsOn

theorem askSystem_acts : Acts machine (Act.Known machine.Has) askSystem := by
  have again (answer : UInt64) : Acts machine (Act.Known machine.Has) fun process : Process =>
      if answer = refusal badAddress && !process.seesVariables then
        process.showVariables.registeredAnswer
      else (answer, process) :=
    .ite (fun _ _ => rfl) (showVariables_acts.comp registeredAnswer_acts)
      (.answer (fun _ _ => rfl) .here)
  have comesBack : Acts machine (Act.Known machine.Has) fun found : UInt64 × Process =>
      found.2.changeCore fun core =>
        ((core.set Register.accumulator found.1).set Register.counter core.next).set (.ofNat 11)
          core.flags.toWord :=
    .ofOnCore fun _ _ => rfl
  exact ((registeredAnswer_acts.use again).comp comesBack :)

/-! ## Printing -/

theorem putting_serves (stream : UInt64) (bytes : Bytes) (answer : UInt64) :
    Serves machine (Act.Known machine.Has) (putting · stream bytes answer) := by
  unfold putting putTo?
  split
  · exact .some (.answer (fun _ _ => rfl) (.act (.wait bytes) trivial))
  split
  · exact .some (.answer (fun _ _ => rfl) (writeTo_acts errorFile bytes).snd)
  · exact .ofOnCore .none

theorem puttingRead_serves {stream answer : Process → UInt64} {bytes : Process → Bytes}
    (reads : Indoors stream) (readsBytes : Indoors bytes) (readsToo : Indoors answer) :
    Serves machine (Act.Known machine.Has) fun process : Process =>
      process.putting (stream process) (bytes process) (answer process) := by
  intro process runsOn
  simp only [reads process, readsBytes process, readsToo process]
  exact putting_serves _ _ _ process runsOn

theorem print_serves (target : Library.TextTarget) (isChecked isListed : Bool) :
    Serves machine (Act.Known machine.Has) (print · target isChecked isListed) := by
  cases target with
  | output =>
      exact .bind (formatted?_onCore _ _) (fun _ _ => rfl) fun _ ⟨_, process⟩ runsOn =>
        putting_serves _ _ _ process runsOn
  | stream =>
      exact .bind (formatted?_onCore _ _) (fun _ _ => rfl) fun _ ⟨_, process⟩ runsOn =>
        putting_serves _ _ _ process runsOn
  | file =>
      exact .bind (formatted?_onCore _ _) (fun _ _ => rfl) fun _ =>
        .some fun ⟨_, process⟩ runsOn => writeTo_acts _ _ process runsOn
  | memory isBounded =>
      refine .ofOnCore (.bind (formatted?_onCore _ _) (fun _ _ => rfl) fun before => ?_)
      rintro ⟨bytes, process⟩ other
      have stores (start : UInt64) (kept : Bytes) (room : Nat) : OnCore fun process : Process =>
          if isBounded && room = 0 then some (bytes.length.toUInt64, process)
          else process.storing start kept bytes.length.toUInt64 :=
        .ite (fun _ _ => rfl) (.some (.answer (fun _ _ => rfl) .here)) <|
          storing_onCore (fun _ _ => rfl) (fun _ _ => rfl) fun _ _ => rfl
      exact stores _ _ _ process other

theorem putLine_serves : Serves machine (Act.Known machine.Has) putLine :=
  .read (fun _ _ => rfl) fun _ =>
    puttingRead_serves (fun _ _ => rfl) (fun _ _ => rfl) fun _ _ => rfl

theorem putByte_serves {stream : Process → UInt64} (reads : Indoors stream) :
    Serves machine (Act.Known machine.Has) fun process : Process =>
      process.putByte (stream process) :=
  puttingRead_serves reads (fun _ _ => rfl) fun _ _ => rfl

theorem putString_serves : Serves machine (Act.Known machine.Has) putString :=
  .read (fun _ _ => rfl) fun _ =>
    puttingRead_serves (fun _ _ => rfl) (fun _ _ => rfl) fun _ _ => rfl

theorem putBytes_serves : Serves machine (Act.Known machine.Has) putBytes :=
  .read (fun _ _ => rfl) fun _ =>
    puttingRead_serves (fun _ _ => rfl) (fun _ _ => rfl) fun _ _ => rfl

/-! ## Services -/

theorem answers_serves {answer : Process → UInt64} (reads : Indoors answer) :
    Serves machine (Act.Known machine.Has) fun process : Process =>
      some (answer process, process) :=
  .some (.answer reads .here)

theorem access_serves (part : Part) : Serves machine (Act.Known machine.Has) (access · part) :=
  .ite (fun _ _ => rfl) (answers_serves fun _ _ => rfl) <|
    .readMap (fun _ _ => rfl) fun _ => .answer (fun _ _ => rfl) .here

theorem accessHeader_serves : Serves machine (Act.Known machine.Has) accessHeader :=
  .ite (fun _ _ => rfl) (answers_serves fun _ _ => rfl) <| .read (fun _ _ => rfl) fun _ =>
    .ite (fun _ _ => rfl) (answers_serves fun _ _ => rfl) <|
      .read (fun _ _ => rfl) fun _ => answers_serves fun _ _ => rfl

theorem callTrigger_serves {trigger : Trigger} (has : machine.Has trigger) :
    Serves machine (Act.Known machine.Has) (callTrigger · trigger) := by
  refine .read (fun _ _ => rfl) fun handle => .some ?_
  exact Acts.asking (.call trigger handle) .output
    (fun outside => small (trigger handle outside.stdout).status.toInt)
    (fun answer process => (answer, process)) has rfl
    (congrArg fun stdout => small (trigger handle stdout).status.toInt)
    fun _ => .answer (fun _ _ => rfl) .here

theorem findVariable_serves : Serves machine (Act.Known machine.Has) findVariable := by
  refine .read (fun _ _ => rfl) fun name => .some ?_
  have gives (value? : Option Bytes) : Acts machine (Act.Known machine.Has)
      fun process : Process =>
        value?.elim (0, process) fun value => process.allocateFor (value ++ [0]) := by
    cases value? with
    | none => exact .answer (fun _ _ => rfl) .here
    | some value => exact .ofOnCore (allocateFor_onCore _)
  exact Acts.asking (.look (.variable name)) (.variable name) (·.environment.value? name)
    (fun value? process =>
      value?.elim (0, process) fun value => process.allocateFor (value ++ [0]))
    trivial rfl id gives

theorem threadAddress_serves : Serves machine (Act.Known machine.Has) threadAddress := by
  refine .read (fun _ _ => rfl) fun number => .read (fun _ _ => rfl) fun distance => ?_
  refine .read (fun _ _ => rfl) fun object => ?_
  cases object.body with
  | image statements part _ =>
      cases part with
      | none => exact .ofOnCore .none
      | some part => exact answers_serves fun _ _ => rfl
  | library _ => exact .ofOnCore .none

theorem performRoutine_serves (routine : Library.Routine) :
    Serves machine (Act.Known machine.Has) (performRoutine · routine) := by
  cases routine with
  | copyBytes answer => exact .ofOnCore (copyBytes_onCore answer)
  | fillBytes =>
      exact .ofOnCore <| .map (fill_onCore (fun _ _ => rfl) (fun _ _ => rfl) fun _ _ => rfl)
        fun _ _ => rfl
  | clearBytes =>
      exact .ofOnCore <| .map (fill_onCore (fun _ _ => rfl) (fun _ _ => rfl) fun _ _ => rfl)
        fun _ _ => rfl
  | compareBytes => exact .ofOnCore compareBytes_onCore
  | findByte => exact .ofOnCore (findByte_onCore false)
  | findByteBackward => exact .ofOnCore (findByte_onCore true)
  | findByteSurely => exact .ofOnCore (.readMap (fun _ _ => rfl) fun _ _ => rfl)
  | length => exact .ofOnCore (.readMap (fun _ _ => rfl) fun _ _ => rfl)
  | compare comparison => exact .ofOnCore (compareStrings_onCore comparison)
  | search what => exact .ofOnCore (searchString_onCore what)
  | span ofMembers => exact .ofOnCore (span_onCore ofMembers)
  | copy answer => exact .ofOnCore (copyString_onCore answer)
  | boundedCopy answer => exact .ofOnCore (copyBounded_onCore answer)
  | append => exact .ofOnCore (appendString_onCore false)
  | boundedAppend => exact .ofOnCore (appendString_onCore true)
  | duplicate => exact .ofOnCore (duplicate_onCore false)
  | boundedDuplicate => exact .ofOnCore (duplicate_onCore true)
  | nextToken hasPlace => exact .ofOnCore (nextToken_onCore hasPlace)
  | toNumber => exact .ofOnCore toNumber_onCore
  | readNumber signed => exact .ofOnCore (readNumber_onCore signed)
  | allocate =>
      exact .some fun process => Acts.ofOnCore (allocate_onCore (process.argument 0)) process
  | allocateCleared =>
      exact .some fun process =>
        Acts.ofOnCore (allocate_onCore (process.argument 0 * process.argument 1)) process
  | reallocate =>
      exact fun process =>
        Serves.ofOnCore (reallocate_onCore (process.argument 0) (process.argument 1)) process
  | writeFile =>
      exact .some fun process =>
        writeFrom_acts (process.argument 0) (process.argument 1) (process.argument 2).toNat process
  | putLine => exact putLine_serves
  | putByte => exact putByte_serves fun _ _ => rfl
  | putByteTo => exact putByte_serves fun _ _ => rfl
  | putString => exact putString_serves
  | putBytes => exact putBytes_serves
  | print target isChecked isListed => exact print_serves target isChecked isListed
  | flush => exact .some (.answer (fun _ _ => rfl) (.act .flush trivial))
  | «variable» => exact findVariable_serves
  | exit =>
      exact .some (.answer (fun _ _ => rfl) (.ofOnCore (leave_onCore fun _ _ => rfl)))
  | exitAtOnce =>
      exact .some (.answer (fun _ _ => rfl) (.ofOnCore (leave_onCore fun _ _ => rfl)))
  | addFarewell => exact .some (.ofOnCore fun _ _ => rfl)
  | abort => exact .some (.answer (fun _ _ => rfl) (.ofOnCore (leave_onCore fun _ _ => rfl)))
  | threadAddress => exact threadAddress_serves
  | _ => exact answers_serves fun _ _ => rfl

end Process

end PluginHost
