import PluginHost.Proofs.Process.Loading

/-!
# The lifetime of a process

From its start on, by what is put into it and taken out of it, and until it is left, a process does
to the outside what the code in it does.
-/

namespace PluginHost

open Carries (processes change)

namespace Process

variable {machine : Machine} {allowed : Act → Prop}

/-! ## Ending objects -/

theorem finishAt_acts (address : UInt64) :
    Acts machine (Act.Known machine.Has) (finishAt · address) :=
  .ite (fun _ _ => rfl) .here (call_acts address []).snd

theorem finishObject_acts (id : ObjectId) :
    Acts machine (Act.Known machine.Has) (finishObject · id) := by
  let addresses (object : Object) (process : Process) : List UInt64 :=
    process.addressList object Statements.finishes Statements.finishesLength
  have marks : Acts machine (Act.Known machine.Has)
      (changeObject · id fun object => { object with isStarted := false }) :=
    changeObject_acts id fun _ _ same => same
  have each (object : Object) (index : Nat) : Acts machine (Act.Known machine.Has)
      fun process : Process =>
        (((addresses object process)[index]?).map process.finishAt).getD process :=
    .given (fun process => (addresses object process)[index]?) (fun _ _ => rfl) fun address? =>
      .optional finishAt_acts address?
  have lists (object : Object) : Acts machine (Act.Known machine.Has) fun process : Process =>
      (List.range (addresses object process).length).reverse.foldl
        (fun process index =>
          (((addresses object process)[index]?).map process.finishAt).getD process)
        process :=
    fun process => Acts.foldl (each object) _ process
  have ends (object : Object) : Acts machine (Act.Known machine.Has) fun process : Process =>
      if !object.isStarted then process
      else
        let marked := process.changeObject id fun object => { object with isStarted := false }
        let listed := (List.range (addresses object marked).length).reverse.foldl
          (fun process index =>
            (((addresses object process)[index]?).map process.finishAt).getD process)
          marked
        ((object.stated? Statements.finish).map listed.finishAt).getD listed :=
    .ite (fun _ _ => rfl) .here ((marks.comp (lists object)).comp (.optional finishAt_acts _))
  refine .readOption (object? · id) (fun _ _ => rfl) .here ends ?_ ?_
  · intro process isNone
    simp only [finishObject, isNone]
  · intro process object isSome
    simp only [finishObject, isSome]
    cases object.stated? Statements.finish <;> rfl

/-! ## What is still needed -/

theorem reached_indoors (count : Nat) (ids : List ObjectId) :
    Indoors fun process : Process => process.reached count ids := by
  intro process outside
  change (process.facing outside).reached count ids = process.reached count ids
  induction count generalizing ids with
  | zero => rfl
  | succ count ih =>
      simp only [reached, ih]
      rfl

theorem stillNeeded_indoors : Indoors stillNeeded := fun process outside =>
  reached_indoors _ _ process outside

theorem orderedForEnd_indoors (ids : List ObjectId) :
    Indoors fun process : Process => process.orderedForEnd ids := by
  intro process outside
  have same (isEnd : Bool) (ids : List ObjectId) :
      (process.facing outside).ordered isEnd ids = process.ordered isEnd ids :=
    ordered_indoors isEnd ids process outside
  change (process.facing outside).orderedForEnd ids = process.orderedForEnd ids
  simp only [orderedForEnd, same]
  rfl

theorem removeObjects_acts (ids : List ObjectId) :
    Acts machine allowed (removeObjects · ids) := by
  refine .blind (fun process runsOn after member => ?_) fun _ _ => rfl
  rw [List.mem_singleton.mp member]
  refine ⟨runsOn.onMachine, fun object among => runsOn.offered object ?_⟩
  have kept : object ∈ (process.objects.partition fun object => ids.contains object.id).2 := among
  rw [List.partition_eq_filter_filter] at kept
  exact (List.mem_filter.mp kept).1

theorem clean_acts : Acts machine (Act.Known machine.Has) clean := by
  have each (needed unneeded : List ObjectId) (id : ObjectId) :
      Acts machine (Act.Known machine.Has) fun process : Process =>
        if needed.contains id then process.changeObject id (withoutRoots unneeded)
        else
          (process.finishObject id).changeObject id fun object =>
            { object with isRemoved := true } := by
    have marks : Acts machine (Act.Known machine.Has)
        (changeObject · id fun object => { object with isRemoved := true }) :=
      changeObject_acts id fun _ _ same => same
    refine .ite (fun _ _ => rfl) (changeObject_acts id fun object library same => ?_)
      ((finishObject_acts id).comp marks)
    unfold withoutRoots at same
    split at same <;> exact same
  have cleans (needed order : List ObjectId) := (Acts.foldl (each needed
    (order.filter (!needed.contains ·))) order).comp
      (removeObjects_acts (order.filter (!needed.contains ·)))
  have ends (needed : List ObjectId) := Acts.given
    (fun process : Process => process.orderedForEnd (process.objects.map Object.id))
    (fun process outside => orderedForEnd_indoors _ process outside) (cleans needed)
  exact .given stillNeeded stillNeeded_indoors ends

theorem closeLibrary_acts (id : ObjectId) :
    Acts machine (Act.Known machine.Has) (closeLibrary · id) := by
  have counts : Acts machine (Act.Known machine.Has)
      (changeObject · id fun object => { object with openings := object.openings - 1 }) :=
    changeObject_acts id fun _ _ same => same
  have cleans (object : Object) : Acts machine (Act.Known machine.Has) fun process : Process =>
      if 1 < object.openings || object.isInitial then process else process.clean :=
    .ite (fun _ _ => rfl) .here clean_acts
  have closes (object : Object) : Acts machine (Act.Known machine.Has) fun process : Process =>
      if process.ended.isSome || object.stays then process
      else
        let process := process.changeObject id fun object =>
          { object with openings := object.openings - 1 }
        if 1 < object.openings || object.isInitial then process else process.clean :=
    .ite (fun _ _ => rfl) .here (counts.comp (cleans object))
  refine .readOption (object? · id) (fun _ _ => rfl) .here closes ?_ ?_
  · intro process isNone
    simp only [closeLibrary, isNone]
  · intro process object isSome
    simp only [closeLibrary, isSome]

/-! ## The end of the process -/

theorem leaveInOrder_acts : Acts machine (Act.Known machine.Has) leaveInOrder := by
  have revives : Acts machine (Act.Known machine.Has) fun process : Process =>
      { process with ended := none } :=
    .ofOnCore fun _ _ => rfl
  have finishes : Acts machine (Act.Known machine.Has) fun process : Process =>
      (process.orderedForEnd (process.objects.map Object.id)).foldl finishObject process :=
    .given (fun process : Process => process.orderedForEnd (process.objects.map Object.id))
      (fun process outside => orderedForEnd_indoors _ process outside)
      (Acts.foldl finishObject_acts)
  have flushes : Acts machine (Act.Known machine.Has) fun process : Process =>
      if process.ended.any (!·.isOrderly) then process
      else { process with outside := process.outside.flush } :=
    .ite (fun _ _ => rfl) .here (.act .empty trivial)
  exact ((revives.comp (bidFarewells_acts (proceed_acts mostEvents) 0)).comp finishes).comp flushes

theorem finish_acts : Acts machine (Act.Known machine.Has) finish := by
  have keeps (code : Nat) : Acts machine (Act.Known machine.Has) fun process : Process =>
      { process with ended := some (process.ended.getD ⟨code, true⟩) } :=
    .ofOnCore fun _ _ => rfl
  have finishes (leaving : Leaving) : Acts machine (Act.Known machine.Has) fun process : Process =>
      if leaving.isOrderly then
        let left := process.leaveInOrder
        { left with ended := some (left.ended.getD ⟨leaving.code, true⟩) }
      else process :=
    .ite (fun _ _ => rfl) (leaveInOrder_acts.comp (keeps leaving.code)) .here
  refine .readOption Process.ended (fun _ _ => rfl) leaveInOrder_acts finishes ?_ ?_
  · intro process isNone
    simp only [finish, isNone]
  · rintro process ⟨code, _ | _⟩ isSome
    · simp only [finish, isSome]
      rfl
    · simp only [finish, isSome]
      rfl

/-! ## Starting -/

theorem settle_acts : Acts machine allowed settle := mapObjects_acts fun _ _ same => same

/-- Add what the program needs, and what the system adds. -/
def addRest (machine : Machine) (program : ObjectId) (process : Process) : Process :=
  match gather program (machine.files.entries.length + 1) [program] [program] process with
  | .error _ => process
  | .ok (group, process) =>
      let (_, process) := process.addLibrary machine.systemName [] none none machine.systemPart
      (process.changeObject program fun object => { object with group, openings := 1 }).settle

theorem addRest_acts (program : ObjectId) : Acts machine allowed (addRest machine program) := by
  have counts (group : List ObjectId) : Acts machine allowed
      (changeObject · program fun object => { object with group, openings := 1 }) :=
    changeObject_acts program fun _ _ same => same
  have adds : Acts machine allowed fun found : List ObjectId × Process =>
      let added := (found.2.addLibrary machine.systemName [] none none machine.systemPart).2
      (added.changeObject program fun object =>
        { object with group := found.1, openings := 1 }).settle :=
    fun ⟨group, process⟩ =>
      ((addLibrary_acts _ _ _ _ .systemPart).snd.comp (counts group)).comp settle_acts process
  refine .attempt (gather_acts program (machine.files.entries.length + 1) [program] [program]) adds
    (fun _ => .here) ?_ ?_
  · intro process found isFound
    simp only [addRest, isFound]
  · intro process fault isFault
    simp only [addRest, isFault]

theorem addInitial_acts : Acts machine allowed addInitial := by
  have places : Acts machine allowed fun process : Process =>
      { process with places := { process.places with free := libraryPlace } } :=
    .ofOnCore fun _ _ => rfl
  have adds (program : ObjectId) := (places.comp
    (addLibrary_acts machine.loaderPath [] none none .loader).snd).comp (addRest_acts program)
  have program : Acts machine allowed (addLibrary · [] [[]] none none machine.program) :=
    addLibrary_acts _ _ _ _ .program
  have whole := program.use adds
  intro process runsOn
  have isMachine := runsOn.onMachine
  subst isMachine
  exact whole process runsOn

/-! ## Libraries that are loaded before the program runs -/

/-- Add a library that has been put into memory, or tell why it could not be. -/
def addOrTell (name : Bytes) (ids : List ObjectId) (process : Process) :
    Except LoadFault (ObjectId × Process) → List ObjectId × Process
  | .error fault => (ids, process.tellPreloadFault name fault)
  | .ok (id, process) => (if ids.contains id then ids else ids ++ [id], process)

theorem addOrTell_acts (name : Bytes) (ids : List ObjectId) (needer : Option Object) :
    Acts machine (Act.Known machine.Has) fun process : Process =>
      addOrTell name ids process (process.openFile needer name) := by
  have adds : Acts machine (Act.Known machine.Has) fun found : ObjectId × Process =>
      (if ids.contains found.1 then ids else ids ++ [found.1], found.2) :=
    .answer (fun _ _ => rfl) (.snd .here)
  have tells (fault : LoadFault) : Acts machine (Act.Known machine.Has) fun process : Process =>
      (ids, process.tellPreloadFault name fault) :=
    .answer (fun _ _ => rfl) (tell_acts _)
  refine .attempt (openFile_acts needer name) adds tells ?_ ?_
  · intro process found isFound
    simp only [isFound, addOrTell]
  · intro process fault isFault
    simp only [isFault, addOrTell]

theorem addPreloaded_acts (names : List Bytes) :
    Acts machine (Act.Known machine.Has) (addPreloaded · names) := by
  have each (name : Bytes) : Acts machine (Act.Known machine.Has)
      fun added : List ObjectId × Process =>
        addOrTell name added.1 added.2 (added.2.openFile added.2.objects.head? name) := by
    rintro ⟨ids, process⟩
    exact addOrTell_acts name ids process.objects.head? process
  exact fun process => Acts.foldl each names ([], process)

theorem missStart_acts (fault : LoadFault) :
    Acts machine (Act.Known machine.Has) (missStart · fault) := by
  have leaves : Acts machine (Act.Known machine.Has) fun process : Process =>
      process.leave ⟨unusableCode, false⟩ :=
    .ofOnCore (leave_onCore fun _ _ => rfl)
  exact ((tell_acts _).comp leaves :)

theorem startPreloaded_acts (order : List ObjectId) :
    Acts machine (Act.Known machine.Has) (startPreloaded · order) := by
  have binds : Acts machine (Act.Known machine.Has) fun process : Process =>
      order.reverse.foldl bindObject ((none, process) : Bound) :=
    fun process => Acts.foldl bindObject_acts order.reverse ((none, process) : Bound)
  have starts : Acts machine (Act.Known machine.Has) fun process : Process =>
      startRoot order process.objects.head? process :=
    .given (fun process => process.objects.head?) (fun _ _ => rfl) (startRoot_acts order)
  refine .useOption binds starts missStart_acts ?_ ?_
  · intro process after isNone
    rcases isHead : after.objects.head? with _ | root <;>
      simp only [startPreloaded, isNone, startRoot, isHead]
  · intro process fault after isSome
    simp only [startPreloaded, isSome]

/-- Put what libraries need into memory that have been added before the program runs, and tell the
order in which all are to be bound. -/
def gatherPreloaded (ids : List ObjectId) (opened : Process) :
    Except LoadFault (List ObjectId × Process) := do
  let before := opened.initialObjects
  let added := ids.filter (!before.contains ·)
  let first := before.take 1 ++ added
  let limit := opened.machine.files.entries.length + opened.objects.length + 1
  let (group, process) ← gather (before.headD 0) limit added (first ++ before.drop 1) opened
  let order := process.ordered false group
  let process :=
    (process.changeObject (before.headD 0) fun object => { object with group }).settle
  process.checkGroup group
  return (order, process)

theorem gatherPreloaded_acts (ids : List ObjectId) :
    Acts machine allowed (gatherPreloaded ids) := by
  have tells (order : List ObjectId) : Acts machine allowed fun process : Process =>
      (.ok (order, process) : Except LoadFault (List ObjectId × Process)) :=
    .ok (.answer (fun _ _ => rfl) .here)
  have checks (group order : List ObjectId) :=
    Acts.readExcept (checkGroup_indoors group) fun _ => tells order
  have marks (program : ObjectId) (group : List ObjectId) : Acts machine allowed
      (changeObject · program fun object => { object with group }) :=
    changeObject_acts program fun _ _ same => same
  have goesOn (program : ObjectId) (group : List ObjectId) :=
    Acts.given (ordered · false group) (ordered_indoors false group) fun order =>
      ((marks program group).comp settle_acts).comp (checks group order)
  intro process
  exact (gather_acts (process.initialObjects.headD 0) _ _ _).useExcept (goesOn _) process

/-- Start what has been gathered, or miss the start. -/
def startGathered (ids : List ObjectId) (opened : Process) : Process :=
  match gatherPreloaded ids opened with
  | .error fault => opened.missStart fault
  | .ok (order, process) => process.startPreloaded order

theorem startGathered_acts (ids : List ObjectId) :
    Acts machine (Act.Known machine.Has) (startGathered ids) := by
  have starts : Acts machine (Act.Known machine.Has) fun found : List ObjectId × Process =>
      found.2.startPreloaded found.1 :=
    fun ⟨order, process⟩ => startPreloaded_acts order process
  refine .attempt (gatherPreloaded_acts ids) starts missStart_acts ?_ ?_
  · intro process found isFound
    simp only [startGathered, isFound]
  · intro process fault isFault
    simp only [startGathered, isFault]

theorem preload_acts (names : List Bytes) :
    Acts machine (Act.Known machine.Has) (preload · names) :=
  (addPreloaded_acts names).use startGathered_acts

theorem furnished_acts (settings : LoadSettings) : Acts machine allowed (furnished settings) := by
  have sets (searchPath : List Bytes) (bindsNow : Bool) : Acts machine allowed
      fun process : Process => { process with searchPath, bindsNow } :=
    .blind (fun process runsOn after member => List.mem_singleton.mp member ▸
      ⟨runsOn.onMachine, runsOn.offered⟩) fun _ _ => rfl
  exact fun process => addInitial_acts.comp (sets _ _) process

theorem startFrom_acts (settings : LoadSettings) :
    Acts machine (Act.Known machine.Has) (startFrom settings) :=
  .ite (fun _ _ => rfl) (furnished_acts settings)
    ((furnished_acts settings).comp (preload_acts settings.names))

end Process

end PluginHost
