import PluginHost.Proofs.Process.Relocations
import PluginHost.Proofs.Process.Services

/-!
# What loading does

A library that is opened brings in what it needs, is relocated and started, and code runs in both
times. Looking for files and putting them into memory does nothing to the outside.
-/

namespace PluginHost

open Carries (processes change)
open Library (Image Segment)

namespace Process

variable {machine : Machine} {allowed : Act → Prop}

/-! ## Putting libraries into memory -/

theorem reserve_onCore (length alignment : UInt64) : OnCore (reserve · length alignment) :=
  fun _ _ => rfl

theorem takeThreadPart_onCore (base : UInt64) (segment : Segment) :
    OnCore (takeThreadPart · base segment) :=
  .answer (fun _ _ => rfl) (.ite (fun _ _ => rfl) (fun _ _ => rfl) .here)

theorem addObject_acts (path : Bytes) (names : List Bytes) (place : Option Place)
    (loader : Option Object) (base first length : UInt64) {body : Body}
    (offered : ∀ library, body = .library library → machine.Offers library) :
    Acts machine allowed (addObject · path names place loader base first length body) := by
  refine .blind (fun process runsOn after member => ?_) fun _ _ => rfl
  rw [List.mem_singleton.mp member]
  refine ⟨runsOn.onMachine, fun object among library isLibrary => ?_⟩
  rcases List.mem_append.mp among with old | new
  · exact runsOn.offered object old library isLibrary
  · rw [List.mem_singleton.mp new] at isLibrary
    exact offered library isLibrary

/-- Take room for the part of an image that each thread has for itself, if there is one. -/
def takePart (base : UInt64) (segment? : Option Segment) (process : Process) :
    Option ThreadPart × Process :=
  match segment? with
  | none => (none, process)
  | some segment =>
      let taken := process.takeThreadPart base segment
      (some taken.1, taken.2)

theorem takePart_acts (base : UInt64) (segment? : Option Segment) :
    Acts machine allowed (takePart base segment?) := by
  cases segment? with
  | none => exact .answer (fun _ _ => rfl) .here
  | some segment =>
      have takes (part : ThreadPart) : Acts machine allowed fun process : Process =>
          (some part, process) :=
        .answer (fun _ _ => rfl) .here
      exact (Acts.ofOnCore (takeThreadPart_onCore base segment)).use takes

/-- Make an object of an image that is in memory, if its statements allow it. -/
def enterImage (found : Found) (name : Bytes) (needer : Option Object) (image : Image)
    (first : UInt64) (statements : Statements) (process : Process) :
    Except LoadFault (ObjectId × Process) :=
  let base := first - image.start.toUInt64
  if statements.isProgram then .error (.content found.path .movableProgram)
  else if statements.isNotOpenable then .error (.content found.path .notOpenable)
  else
    let taken := takePart base image.thread process
    let added := taken.2.addObject found.path [name] (some found.place) needer base first
      image.length.toUInt64 (.image statements taken.1 image.sealed)
    .ok (added.1, added.2.changeObject added.1 fun object =>
      { object with stays := statements.stays })

theorem enterImage_acts (found : Found) (name : Bytes) (needer : Option Object) (image : Image)
    (first : UInt64) (statements : Statements) :
    Acts machine allowed (enterImage found name needer image first statements) := by
  let base := first - image.start.toUInt64
  have adds (thread : Option ThreadPart) :
      Acts machine allowed (addObject · found.path [name] (some found.place) needer base first
        image.length.toUInt64 (.image statements thread image.sealed)) :=
    addObject_acts _ _ _ _ _ _ _ fun _ same => Body.noConfusion same
  have marks (id : ObjectId) : Acts machine allowed fun process : Process =>
      (.ok (id, process.changeObject id fun object => { object with stays := statements.stays }) :
        Except LoadFault (ObjectId × Process)) :=
    .ok (.answer (fun _ _ => rfl) (changeObject_acts id fun _ _ same => same))
  have enters := (takePart_acts base image.thread).use fun thread => (adds thread).use marks
  unfold enterImage
  dsimp only
  split
  · exact .error fun _ _ => rfl
  split
  · exact .error fun _ _ => rfl
  · exact enters

theorem addImage_eq (process : Process) (found : Found) (name : Bytes) (needer : Option Object)
    (image : Image) :
    process.addImage found name needer image =
      let reserved := process.reserve image.length.toUInt64
        (Segment.greatestAlignment image.segments).toUInt64
      let base := reserved.1 - image.start.toUInt64
      let filled := reserved.2.changeMemory fun memory =>
        { memory with regions := image.regions base ++ memory.regions }
      enterImage found name needer image reserved.1
        (readStatements filled.memory mostStatements (base + image.dynamic.toUInt64)) filled := by
  -- The terms are too great to be compared before they are reduced.
  unfold addImage enterImage
  dsimp only
  cases image.thread <;> dsimp only [takePart]

theorem addImage_acts (found : Found) (name : Bytes) (needer : Option Object) (image : Image) :
    Acts machine allowed (addImage · found name needer image) := by
  let base (first : UInt64) : UInt64 := first - image.start.toUInt64
  have fills (first : UInt64) : Acts machine allowed fun process : Process =>
      process.changeMemory fun memory =>
        { memory with regions := image.regions (base first) ++ memory.regions } :=
    .ofOnCore (changeMemory_onCore _)
  have reads (first : UInt64) : Acts machine allowed fun process : Process =>
      enterImage found name needer image first
        (readStatements process.memory mostStatements (base first + image.dynamic.toUInt64))
        process :=
    .given _ (fun _ _ => rfl) (enterImage_acts found name needer image first)
  have whole := (Acts.ofOnCore (reserve_onCore image.length.toUInt64
    (Segment.greatestAlignment image.segments).toUInt64)).use
      fun first => (fills first).comp (reads first)
  simp only [addImage_eq]
  exact whole

/-- Memory with the cells of a library. -/
def addCells (library : Library) (first : UInt64) (memory : Processor.Memory) : Processor.Memory :=
  let length := (library.exports.length + 1).toUInt64 * Object.serviceDistance
  let cells := library.exports.zipIdx.filterMap fun (entry, index) =>
    match entry.2 with
    | .cell value => some (first + (index + 1).toUInt64 * Object.serviceDistance, value)
    | _ => none
  cells.foldl (fun memory (address, value) => memory.poke .quad address value)
    (memory.addRegion { plainRegion first length [] with access := ⟨true, true, false⟩ })

theorem addLibrary_acts (path : Bytes) (names : List Bytes) (place : Option Place)
    (needer : Option Object) {library : Library} (offered : machine.Offers library) :
    Acts machine allowed (addLibrary · path names place needer library) := by
  have adds (first : UInt64) : Acts machine allowed
      (addObject · path names place needer first first
        ((library.exports.length + 1).toUInt64 * Object.serviceDistance) (.library library)) :=
    addObject_acts _ _ _ _ _ _ _ fun other same => (Body.library.inj same) ▸ offered
  have marks (id : ObjectId) (first : UInt64) : Acts machine allowed fun process : Process =>
      (id, (process.changeMemory (addCells library first)).changeObject id fun object =>
        { object with isBound := true }) := by
    have marks : Acts machine allowed fun process : Process =>
        process.changeObject id fun object => { object with isBound := true } :=
      changeObject_acts id fun _ _ same => same
    exact .answer (fun _ _ => rfl) ((Acts.ofOnCore (changeMemory_onCore _)).comp marks)
  let length := (library.exports.length + 1).toUInt64 * Object.serviceDistance
  have rest (first : UInt64) := (adds first).use fun id => marks id first
  intro process runsOn
  have whole := (Acts.ofOnCore (reserve_onCore length pageLength)).use rest process runsOn
  -- The terms are too great to be compared before they are reduced.
  dsimp only [addCells] at whole
  unfold addLibrary
  dsimp only
  exact whole

/-- Take a file that is not in memory. -/
def openEntry (process : Process) (needer : Option Object) (name : Bytes) (found : Found) :
    Except LoadFault (ObjectId × Process) :=
  match found.entry with
  | .directory => .error (.cannotRead found.path .isADirectory)
  | .unreadable reason => .error (.cannotRead found.path reason)
  | .closed reason => .error (.cannotOpen found.path reason)
  | .file _ (some library) =>
      .ok (process.addLibrary found.path [name] (some found.place) needer library)
  | .file content none =>
      match Image.ofContent content with
      | .error fault => .error (.content found.path fault)
      | .ok image => process.addImage found name needer image

theorem openEntry_acts (needer : Option Object) (name : Bytes) {found : Found}
    (hasFound : machine.HasFound found) :
    Acts machine allowed (openEntry · needer name found) := by
  obtain ⟨path, isThere⟩ := hasFound
  unfold openEntry
  split
  · exact .error fun _ _ => rfl
  · exact .error fun _ _ => rfl
  · exact .error fun _ _ => rfl
  · next isEntry =>
      rw [isEntry] at isThere
      exact .ok (addLibrary_acts _ _ _ _ (.file isThere))
  · split
    · exact .error fun _ _ => rfl
    · exact addImage_acts found name needer _

/-- Take what has been found: an object that is made from it, or a new one. -/
def openFound (process : Process) (needer : Option Object) (name : Bytes) (found : Found) :
    Except LoadFault (ObjectId × Process) :=
  match process.objects.find? fun object => object.place = some found.place with
  | some object =>
      .ok (object.id, process.changeObject object.id fun object =>
        { object with names := name :: object.names })
  | none => process.openEntry needer name found

theorem openFound_acts (needer : Option Object) (name : Bytes) {found : Found}
    (hasFound : machine.HasFound found) :
    Acts machine allowed (openFound · needer name found) := by
  have names (object : Object) : Acts machine allowed fun process : Process =>
      (.ok (object.id, process.changeObject object.id fun object =>
        { object with names := name :: object.names }) :
        Except LoadFault (ObjectId × Process)) :=
    .ok (.answer (fun _ _ => rfl) (changeObject_acts object.id fun _ _ same => same))
  refine .readOption
    (fun process => process.objects.find? fun object => object.place = some found.place)
    (fun _ _ => rfl) (openEntry_acts needer name hasFound) names ?_ ?_
  · intro process isNone
    simp only [openFound, isNone]
  · intro process object isSome
    simp only [openFound, isSome]

theorem openFile_eq (process : Process) (needer : Option Object) (name : Bytes) :
    process.openFile needer name =
      match process.objects.find? fun object => object.isKnownAs process.memory name with
      | some object => .ok (object.id, process)
      | none => process.findFile needer name >>= process.openFound needer name := rfl

theorem findFile_indoors (needer : Option Object) (name : Bytes) :
    Indoors fun process : Process => process.findFile needer name := by
  intro process outside
  have sameInherited (count : Nat) (needer : Option Object) :
      (process.facing outside).inheritedDirectories count needer =
        process.inheritedDirectories count needer := by
    induction count generalizing needer with
    | zero => cases needer <;> rfl
    | succ count ih =>
        cases needer with
        | none => rfl
        | some object =>
            rw [inheritedDirectories, inheritedDirectories]
            exact congrArg (_ ++ ·) (ih _)
  have sameLists :
      (process.facing outside).directoryLists needer = process.directoryLists needer := by
    unfold directoryLists
    simp only [sameInherited]
    rfl
  change (process.facing outside).findFile needer name = _
  unfold findFile
  rw [sameLists]
  rfl

theorem openFile_acts (needer : Option Object) (name : Bytes) :
    Acts machine allowed (openFile · needer name) := by
  have takes (object : Object) : Acts machine allowed fun process : Process =>
      (.ok (object.id, process) : Except LoadFault (ObjectId × Process)) :=
    .ok (.answer (fun _ _ => rfl) .here)
  have finds : Acts machine allowed fun process : Process =>
      process.findFile needer name >>= process.openFound needer name := by
    intro process runsOn
    simp only [findFile_indoors needer name process]
    cases isFound : process.findFile needer name with
    | error fault =>
        have fails : Acts machine allowed fun _ : Process =>
            (.error fault : Except LoadFault (ObjectId × Process)) :=
          .error fun _ _ => rfl
        exact fails process runsOn
    | ok found =>
        have hasFound : machine.HasFound found := runsOn.onMachine ▸ findFile_found isFound
        exact openFound_acts needer name hasFound process runsOn
  refine .readOption
    (fun process => process.objects.find? fun object => object.isKnownAs process.memory name)
    (fun _ _ => rfl) finds takes ?_ ?_
  · intro process isNone
    simp only [openFile_eq, isNone]
  · intro process object isSome
    simp only [openFile_eq, isSome]

/-! ## What libraries need -/

theorem openNeeds_acts (object : Object) : Acts machine allowed (openNeeds · object) := by
  have adds (ids : List ObjectId) (id : ObjectId) : Acts machine allowed fun process : Process =>
      (.ok (ids ++ [id], process) : Except LoadFault (List ObjectId × Process)) :=
    .ok (.answer (fun _ _ => rfl) .here)
  intro process
  refine Acts.foldlM (fun name => ?_) (object.neededNames process.memory) ([], process)
  rintro ⟨ids, process⟩
  exact (openFile_acts (some object) _).useExcept (adds ids) process

theorem gather_acts (root : ObjectId) (count : Nat) (ids gathered : List ObjectId) :
    Acts machine allowed (gather root count ids gathered) := by
  induction count generalizing ids gathered with
  | zero => exact .ok (.answer (fun _ _ => rfl) .here)
  | succ count ih =>
      cases ids with
      | nil => exact .ok (.answer (fun _ _ => rfl) .here)
      | cons id rest =>
          have marks (ids : List ObjectId) (isNew : Bool) : Acts machine allowed
              fun process : Process =>
                if isNew then
                  process.changeObject id fun object => { object with needs := some ids }
                else process :=
            .ite (fun _ _ => rfl) (changeObject_acts id fun _ _ same => same) .here
          let added (ids : List ObjectId) := ids.eraseDups.filter fun id => !gathered.contains id
          have goesOn (object : Object) (ids : List ObjectId) : Acts machine allowed
              fun process : Process =>
                gather root count (rest ++ added ids) (gathered ++ added ids) <|
                  if id ≠ root && object.needs.isNone && object.group.isEmpty then
                    process.changeObject id fun object => { object with needs := some ids }
                  else process :=
            (marks ids (id ≠ root && object.needs.isNone && object.group.isEmpty)).comp (ih _ _)
          have opens (object : Object) := (openNeeds_acts object).useExcept (goesOn object)
          refine .readOption (object? · id) (fun _ _ => rfl) (ih rest gathered) opens ?_ ?_
          · intro process isNone
            simp only [gather, isNone]
          · intro process object isSome
            simp only [gather, isSome]
            rfl

/-! ## Orders -/

theorem walk_indoors (isEnd : Bool) (depth : Nat) (ids : List ObjectId) (walked : Walk) :
    Indoors fun process : Process => process.walk isEnd depth ids walked := by
  intro process outside
  change (process.facing outside).walk isEnd depth ids walked = process.walk isEnd depth ids walked
  induction depth generalizing ids walked with
  | zero => rfl
  | succ depth ih =>
      simp only [walk, ih]
      rfl

theorem ordered_indoors (isEnd : Bool) (ids : List ObjectId) :
    Indoors fun process : Process => process.ordered isEnd ids := by
  intro process outside
  have same := walk_indoors isEnd (process.objects.length + 1) ids.reverse ⟨[], []⟩ process outside
  exact congrArg (fun walked : Walk => walked.order.filter ids.contains) same

theorem orderedFrom_indoors (first : ObjectId) (ids : List ObjectId) :
    Indoors fun process : Process => process.orderedFrom first ids := fun process outside =>
  congrArg (fun order : List ObjectId => first :: order.filter (· ≠ first))
    (ordered_indoors false ids process outside)

/-! ## Starting -/

theorem startAt_acts (address : UInt64) :
    Acts machine (Act.Known machine.Has) (startAt · address) := by
  have calls (arguments : List UInt64) : Acts machine (Act.Known machine.Has)
      fun process : Process => (process.call address arguments).2 :=
    (call_acts address arguments).snd
  exact fun process =>
    calls [process.arguments.length.toUInt64, argumentTable, variableTable] process

theorem startList_acts (object : Object) (table length : UInt64) :
    Acts machine (Act.Known machine.Has) (startList · object table length) := by
  intro process
  refine Acts.foldl (fun index => ?_)
    (List.range (process.addressList object table length).length) process
  refine .ite (fun _ _ => rfl) .here ?_
  refine .readOption (fun process => (process.addressList object table length)[index]?)
    (fun _ _ => rfl) .here startAt_acts ?_ ?_
  · intro process isNone
    simp only [isNone]
  · intro process address isSome
    simp only [isSome]

theorem startObject_acts (id : ObjectId) :
    Acts machine (Act.Known machine.Has) (startObject · id) := by
  have marks : Acts machine (Act.Known machine.Has)
      (changeObject · id fun object => { object with isStarted := true }) :=
    changeObject_acts id fun _ _ same => same
  have starts (object : Object) : Acts machine (Act.Known machine.Has) fun process : Process =>
      if object.isStarted || process.ended.isSome then process
      else
        let marked := process.changeObject id fun object => { object with isStarted := true }
        startList (((object.stated? Statements.start).map marked.startAt).getD marked) object
          Statements.starts Statements.startsLength :=
    .ite (fun _ _ => rfl) .here ((marks.comp (.optional startAt_acts _)).comp
      (startList_acts object Statements.starts Statements.startsLength))
  refine .readOption (object? · id) (fun _ _ => rfl) .here starts ?_ ?_
  · intro process isNone
    simp only [startObject, isNone]
  · intro process object isSome
    simp only [startObject, isSome]
    cases object.stated? Statements.start <;> rfl

theorem fillThreadPart_acts (object : Object) :
    Acts machine allowed (fillThreadPart · object) := by
  unfold fillThreadPart
  split
  · exact fun process => Acts.ofOnCore (changeMemory?_onCore _) process
  · exact .here

/-- Fill an object's part of the threads' memory if its references have all been bound. -/
def fillIfBound (object : Object) : Bound → Bound
  | (some fault, process) => (some fault, process)
  | (none, process) => (none, process.fillThreadPart object)

theorem bindObject_acts (id : ObjectId) :
    Acts machine (Act.Known machine.Has) (bindObject · id) := by
  have fills (object : Object) : Acts machine (Act.Known machine.Has) fun process : Process =>
      fillIfBound object (process.relocateAll object) := by
    refine .useOption (relocateAll_acts object)
      ((fillThreadPart_acts object).comp succeeds_acts) fails_acts ?_ ?_
    · intro process after isNone
      simp only [isNone, fillIfBound]
    · intro process fault after isSome
      simp only [isSome, fillIfBound]
  have binds (object : Object) : Acts machine (Act.Known machine.Has) fun bound : Bound =>
      if bound.1.isSome || object.isBound || bound.2.ended.isSome then bound
      else fillIfBound object (bound.2.relocateAll object) :=
    .ite (fun _ _ => rfl) .here fun bound => fills object bound.2
  refine .readOption (fun bound => bound.2.object? id) (fun _ _ => rfl) .here binds ?_ ?_
  · intro bound isNone
    simp only [bindObject, isNone]
  · intro bound object isSome
    rcases relocated : bound.2.relocateAll object with ⟨_ | fault, after⟩ <;>
      simp only [bindObject, isSome, relocated, fillIfBound]

theorem mapObjects_acts {alter : Object → Object}
    (keeps : ∀ object library, (alter object).body = .library library →
      object.body = .library library) :
    Acts machine allowed fun process : Process =>
      { process with objects := process.objects.map alter } := by
  refine .blind (fun process runsOn after member => ?_) fun _ _ => rfl
  rw [List.mem_singleton.mp member]
  refine ⟨runsOn.onMachine, fun object among library isLibrary => ?_⟩
  obtain ⟨before, amongBefore, rfl⟩ := List.mem_map.mp among
  exact runsOn.offered before amongBefore library (keeps before library isLibrary)

theorem widen_acts (root : ObjectId) (group : List ObjectId) :
    Acts machine allowed (widen · root group) :=
  mapObjects_acts fun object library same => by
    split at same <;> exact same

theorem startAll_acts (root : Object) (order : List ObjectId) :
    Acts machine (Act.Known machine.Has) (startAll · root order) := by
  have starts : Acts machine (Act.Known machine.Has) fun process : Process =>
      order.reverse.foldl startObject process :=
    .foldl startObject_acts _
  intro process
  exact ((Acts.optional startObject_acts _).comp (startList_acts root _ _)).comp starts process

/-- Start objects, if the root among them is there. -/
def startRoot (order : List ObjectId) (root? : Option Object) (process : Process) : Process :=
  match root? with
  | some root => process.startAll root order
  | none => process

theorem startRoot_acts (order : List ObjectId) (root? : Option Object) :
    Acts machine (Act.Known machine.Has) (startRoot order root?) := by
  cases root? with
  | none => exact .here
  | some root => exact startAll_acts root order

/-- Widen the groups of those that were there, and start the new objects. -/
def startGroup (process : Process) (root : ObjectId) (group order : List ObjectId) : Process :=
  let process := process.widen root group
  startRoot order (process.object? root) process

theorem startGroup_acts (root : ObjectId) (group order : List ObjectId) :
    Acts machine (Act.Known machine.Has) (startGroup · root group order) :=
  (widen_acts root group).comp
    (.given (object? · root) (fun _ _ => rfl) (startRoot_acts order))

theorem bindGroup_acts (root : ObjectId) (group order : List ObjectId) :
    Acts machine (Act.Known machine.Has) (bindGroup · root group order) := by
  have binds : Acts machine (Act.Known machine.Has) fun process : Process =>
      order.reverse.foldl bindObject ((none, process) : Bound) :=
    fun process => Acts.foldl bindObject_acts order.reverse ((none, process) : Bound)
  refine .useOption binds ((startGroup_acts root group order).comp succeeds_acts) fails_acts ?_ ?_
  · intro process after isNone
    simp only [bindGroup, isNone, startGroup, startRoot]
    cases (after.widen root group).object? root <;> rfl
  · intro process fault after isSome
    simp only [bindGroup, isSome]

/-! ## Opening -/

theorem checkGroup_indoors (group : List ObjectId) : Indoors (checkGroup · group) := fun _ _ => rfl

theorem gatherFor_acts (root : ObjectId) : Acts machine allowed (gatherFor · root) := by
  have tells (group order : List ObjectId) : Acts machine allowed fun process : Process =>
      (.ok ((group, order), process) :
        Except LoadFault ((List ObjectId × List ObjectId) × Process)) :=
    .ok (.answer (fun _ _ => rfl) .here)
  have checks (group order : List ObjectId) :=
    Acts.readExcept (checkGroup_indoors group) fun _ => tells group order
  have marks (group order : List ObjectId) : Acts machine allowed
      (changeObject · root fun object => { object with group, needs := some order.tail }) :=
    changeObject_acts root fun _ _ same => same
  have goesOn (group : List ObjectId) :=
    Acts.given (orderedFrom · root group) (orderedFrom_indoors root group) fun order =>
      (marks group order).comp (checks group order)
  exact fun process => (gather_acts root
    (process.machine.files.entries.length + process.objects.length + 1) [root] [root]).useExcept
      goesOn process

/-- What is to be bound when a library has been opened: its group and the order of that. -/
abbrev ToBind := Option (List ObjectId × List ObjectId)

/-- Put all that a library needs into memory, if it has no group yet. -/
def gatherNew (id : ObjectId) (group? : Option (List ObjectId)) (process : Process) :
    Except LoadFault ((ObjectId × ToBind) × Process) :=
  match group? with
  | some [] => process.gatherFor id >>= fun found => .ok ((id, some found.1), found.2)
  | _ => .ok ((id, none), process)

theorem gatherNew_acts (id : ObjectId) (group? : Option (List ObjectId)) :
    Acts machine allowed (gatherNew id group?) := by
  have tells (toBind : ToBind) : Acts machine allowed fun process : Process =>
      (.ok ((id, toBind), process) : Except LoadFault ((ObjectId × ToBind) × Process)) :=
    .ok (.answer (fun _ _ => rfl) .here)
  unfold gatherNew
  split
  · exact (gatherFor_acts id).useExcept fun groups => tells (some groups)
  · exact tells none

/-- Count that a library is opened, and put all that it needs into memory. -/
def countOpening (id : ObjectId) (process : Process) :
    Except LoadFault ((ObjectId × ToBind) × Process) :=
  let process := process.changeObject id fun object =>
    { object with openings := object.openings + 1 }
  gatherNew id ((process.object? id).map Object.group) process

theorem countOpening_acts (id : ObjectId) : Acts machine allowed (countOpening id) := by
  have counts : Acts machine allowed
      (changeObject · id fun object => { object with openings := object.openings + 1 }) :=
    changeObject_acts id fun _ _ same => same
  exact counts.comp <|
    .given (fun process => (process.object? id).map Object.group) (fun _ _ => rfl)
      (gatherNew_acts id)

/-- Bind and start what has been brought into memory, or go back to the process before. -/
def settleOpening (before : Process) :
    (ObjectId × ToBind) × Process → Except LoadFault ObjectId × Process
  | ((id, none), process) => (.ok id, process)
  | ((id, some (group, order)), process) =>
      match process.bindGroup id group order with
      | (some fault, process) => (.error fault, before.after process)
      | (none, process) => (.ok id, process)

/-- A process that takes over what another has done to the outside. -/
theorem after_acts {before : Process} (runsOn : before.RunsOn machine) :
    Acts machine allowed before.after :=
  .blind (fun _ _ _ member => List.mem_singleton.mp member ▸ ⟨runsOn.onMachine, runsOn.offered⟩)
    fun _ _ => rfl

theorem settleOpening_acts {before : Process} (runsOn : before.RunsOn machine) :
    Acts machine (Act.Known machine.Has) (settleOpening before) := by
  have answers (answer : Except LoadFault ObjectId) : Acts machine (Act.Known machine.Has)
      fun process : Process => (answer, process) :=
    .answer (fun _ _ => rfl) .here
  have binds (id : ObjectId) (group order : List ObjectId) : Acts machine
      (Act.Known machine.Has) fun process : Process =>
        match process.bindGroup id group order with
        | (some fault, process) =>
            ((.error fault, before.after process) : Except LoadFault ObjectId × Process)
        | (none, process) => (.ok id, process) := by
    refine .useOption (bindGroup_acts id group order) (answers (.ok id))
      (fun fault => (after_acts runsOn).comp (answers (.error fault))) ?_ ?_
    · intro process after isNone
      simp only [isNone]
    · intro process fault after isSome
      simp only [isSome]
  rintro ⟨⟨id, _ | ⟨group, order⟩⟩, process⟩
  · exact answers (.ok id) process
  · exact binds id group order process

/-- The opening of a library that goes back to a process where it fails. -/
def openFrom (before process : Process) (name : Bytes) : Except LoadFault ObjectId × Process :=
  match process.openFile none name >>= fun found => countOpening found.1 found.2 with
  | .error fault => (.error fault, process)
  | .ok found => settleOpening before found

theorem openLibrary_eq (process : Process) (name : Bytes) :
    process.openLibrary name = openFrom process process name := by
  unfold openLibrary openFrom
  cases process.openFile none name with
  | error fault => rfl
  | ok found =>
      obtain ⟨id, opened⟩ := found
      change _ = match countOpening id opened with
        | .error fault => _
        | .ok found => _
      unfold countOpening gatherNew
      dsimp only
      generalize (opened.changeObject id fun object =>
        { object with openings := object.openings + 1 }) = counted
      rcases (counted.object? id).map Object.group with _ | _ | _
      · rfl
      · dsimp only
        rw [prepare]
        cases counted.gatherFor id <;> rfl
      · rfl

theorem openFrom_acts {before : Process} (runsOn : before.RunsOn machine) (name : Bytes) :
    Acts machine (Act.Known machine.Has) (openFrom before · name) := by
  have fails (fault : LoadFault) : Acts machine (Act.Known machine.Has) fun process : Process =>
      ((.error fault, process) : Except LoadFault ObjectId × Process) :=
    .answer (fun _ _ => rfl) .here
  refine .attempt ((openFile_acts none name).useExcept countOpening_acts)
    (settleOpening_acts runsOn) fails ?_ ?_
  · intro process found isFound
    simp only [openFrom, isFound]
  · intro process fault isFault
    simp only [openFrom, isFault]

theorem openLibrary_acts (name : Bytes) :
    Acts machine (Act.Known machine.Has) (openLibrary · name) := by
  intro process runsOn
  simp only [openLibrary_eq]
  exact openFrom_acts runsOn name process runsOn

/-! ## Symbols -/

/-- The address to which a definition that has been looked up leads. -/
def addressFound : Option Definition × Process → Option UInt64 × Process
  | (none, process) => (none, process)
  | (some found, process) =>
      if found.kind = Symbol.threadKind then (some (process.threadAddressOf found 0), process)
      else
        let led := process.lead (some found)
        (some led.1, led.2)

theorem addressFound_acts : Acts machine (Act.Known machine.Has) addressFound := by
  have tells (address : UInt64) : Acts machine (Act.Known machine.Has) fun process : Process =>
      (some address, process) :=
    .answer (fun _ _ => rfl) .here
  have leads (found : Definition) : Acts machine (Act.Known machine.Has) fun process : Process =>
      if found.kind = Symbol.threadKind then (some (process.threadAddressOf found 0), process)
      else (some (process.lead (some found)).1, (process.lead (some found)).2) :=
    .ite (fun _ _ => rfl) (.answer (fun _ _ => rfl) .here) ((lead_acts (some found)).use tells)
  rintro ⟨_ | found, process⟩
  · exact fun runsOn => .here ((none : Option UInt64), process) runsOn
  · exact leads found process

theorem symbolAddress?_acts (id : ObjectId) (name : Bytes) :
    Acts machine (Act.Known machine.Has) (symbolAddress? · id name) :=
  fun process => (lookup_acts _ (((process.object? id).map Object.group).getD [])).comp
    addressFound_acts process

end Process

end PluginHost
