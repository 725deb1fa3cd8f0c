import PluginHost.Proofs.Process.Calls

/-!
# What relocations do

A library that is relocated calls the functions that choose others, and tells what it cannot do.
-/

namespace PluginHost

open Carries (processes change)

namespace Process

variable {machine : Machine} {allowed : Act → Prop}

theorem write_acts (width : Processor.Width) (address value : UInt64) :
    Acts machine allowed (write · width address value) :=
  .ofOnCore (write_onCore width (fun _ _ => rfl) fun _ _ => rfl)

/-! ## The thread -/

/-- An object whose part of the thread is at a fixed distance from now on. -/
def withFixedPart (object : Object) : Object :=
  match object.body with
  | .image statements (some part) sealed =>
      { object with body := .image statements (some { part with isFixed := true }) sealed }
  | _ => object

theorem takeThreadRoom?_acts (object : ObjectId) :
    Acts machine allowed (takeThreadRoom? · object) := by
  have fixes : Acts machine allowed (changeObject · object withFixedPart) := by
    refine changeObject_acts object fun object library same => ?_
    unfold withFixedPart at same
    split at same
    · cases same
    · exact same
  have takes (part : ThreadPart) : Acts machine allowed fun process : Process =>
      if part.isFixed then some process
      else if process.places.threadRoom < part.length then none
      else
        let room := process.places.threadRoom - part.length
        some (changeObject { process with places := { process.places with threadRoom := room } }
          object withFixedPart) := by
    have shrinks : Acts machine allowed fun process : Process =>
        { process with
          places :=
            { process.places with threadRoom := process.places.threadRoom - part.length } } :=
      .ofOnCore fun _ _ => rfl
    exact .ite (fun _ _ => rfl) (.some .here)
      (.ite (fun _ _ => rfl) .none (.some (shrinks.comp fixes)))
  refine .readOption (threadPart? · object) (fun _ _ => rfl) (.some .here) takes ?_ ?_
  · intro process isNone
    simp only [takeThreadRoom?, isNone]
  · intro process part isSome
    simp only [takeThreadRoom?, isSome]
    rfl

theorem threadDistanceOf_acts (path : Bytes) (definition : Definition) (addend : UInt64) :
    Acts machine allowed (threadDistanceOf · path definition addend) := by
  have tells : Acts machine allowed fun process : Process =>
      (.ok (process.threadAddressOf definition addend - process.core.registers.thread, process) :
        Except LoadFault (UInt64 × Process)) :=
    .ok (.answer (fun _ _ => rfl) .here)
  have fails : Acts machine allowed fun _ : Process =>
      (.error (.noThreadRoom path) : Except LoadFault (UInt64 × Process)) :=
    .error fun _ _ => rfl
  refine Serves.orElse (.ofBlind (takeThreadRoom?_acts definition.object)) tells fails ?_ ?_
  · intro process found isFound
    simp only [threadDistanceOf, isFound]
  · intro process isNone
    simp only [threadDistanceOf, isNone]

/-! ## One relocation -/

theorem copyContent_acts (place : UInt64) (symbol : Symbol) (found : Option Definition) :
    Acts machine allowed (copyContent · place symbol found) := by
  cases found with
  | none => exact .here
  | some definition =>
      intro process
      let length := (min symbol.size definition.size).toNat
      let bytes := process.memory.bytes (process.addressOf definition) length
      exact Acts.ofOnCore (changeMemory?_onCore (·.storeBytes? place bytes)) process

theorem writeHalf_acts (place value : UInt64) (symbol : Symbol) (fits : Bool) (name : String) :
    Acts machine (Act.Known machine.Has) (writeHalf · place value symbol fits name) := by
  have tells : Acts machine (Act.Known machine.Has) fun process : Process =>
      if fits then process else process.tellOverflow symbol name :=
    .ite (fun _ _ => rfl) .here (tell_acts _)
  exact (write_acts .double place value).comp tells

theorem tellEarlyChoice_acts (object : Object) (symbol : Symbol) (found : Option Definition) :
    Acts machine (Act.Known machine.Has) (tellEarlyChoice · object symbol found) := by
  cases found with
  | none => exact .here
  | some definition =>
      refine .ite (fun _ _ => rfl) .here fun process => ?_
      exact tell_acts _ process

theorem relocateTo_acts (object : Object) (relocation : Relocation) (kind : RelocationKind)
    (symbol : Symbol) (found : Option Definition) :
    Acts machine (Act.Known machine.Has)
      (relocateTo · object relocation kind symbol found) := by
  have leads : Acts machine (Act.Known machine.Has) fun process : Process =>
      (process.tellEarlyChoice object symbol found).lead found :=
    (tellEarlyChoice_acts object symbol found).comp (lead_acts found)
  let place := object.base + relocation.offset
  let addend := relocation.addend
  cases kind with
  | whole => exact leads.use fun value => write_acts .quad place (value + addend)
  | value => exact leads.use fun value => write_acts .quad place value
  | distance =>
      exact leads.use fun value => writeHalf_acts place (value + addend - place) symbol
        (Processor.Width.double.signed (value + addend - place) = value + addend - place) _
  | half =>
      exact leads.use fun value =>
        writeHalf_acts place (value + addend) symbol (value + addend ≤ 0xFFFFFFFF) _
  | _ => exact leads.use fun _ => .here

theorem fails_acts (fault : LoadFault) :
    Acts machine allowed fun process : Process => ((some fault, process) : Bound) :=
  .answer (fun _ _ => rfl) .here

theorem succeeds_acts : Acts machine allowed fun process : Process => ((none, process) : Bound) :=
  .answer (fun _ _ => rfl) .here

theorem threadDistance_acts (object : Object) (place addend : UInt64) (definition : Definition) :
    Acts machine allowed fun process : Process =>
      match process.threadDistanceOf object.path definition addend with
      | .error fault => (some fault, process)
      | .ok (distance, process) => (none, process.write .quad place distance) := by
  have writes : Acts machine allowed fun found : UInt64 × Process =>
      ((none : Option LoadFault), found.2.write .quad place found.1) :=
    .answer (fun _ _ => rfl) fun ⟨distance, process⟩ => write_acts .quad place distance process
  refine .attempt (threadDistanceOf_acts object.path definition addend) writes fails_acts ?_ ?_
  · intro process found isFound
    simp only [isFound]
  · intro process fault isFault
    simp only [isFault]

theorem relocateBound_acts (object : Object) (relocation : Relocation) (kind : RelocationKind)
    (symbol : Symbol) (found : Option Definition) :
    Acts machine (Act.Known machine.Has)
      (relocateBound · object relocation kind symbol found) := by
  have succeeds {compute : Process → Process}
      (acts : Acts machine (Act.Known machine.Has) compute) :
      Acts machine (Act.Known machine.Has) fun process : Process =>
        ((none, compute process) : Bound) :=
    .answer (fun _ _ => rfl) acts
  let place := object.base + relocation.offset
  let addend := relocation.addend
  cases kind with
  | threadNumber =>
      cases found with
      | none => exact succeeds .here
      | some definition => exact succeeds (write_acts _ _ _)
  | threadPlace =>
      cases found with
      | none => exact succeeds .here
      | some definition => exact succeeds (write_acts _ _ _)
  | threadDistance =>
      cases found with
      | none => exact succeeds .here
      | some definition => exact threadDistance_acts object place addend definition
  | threadPair =>
      cases found with
      | none => exact succeeds ((write_acts _ _ _).comp (write_acts _ _ _))
      | some definition =>
          have writesDistance : Acts machine (Act.Known machine.Has) fun process : Process =>
              process.write .quad (place + 8)
                (process.threadAddressOf definition addend - process.core.registers.thread) :=
            fun process => write_acts _ _ _ process
          exact succeeds ((write_acts _ _ _).comp writesDistance)
  | content => exact succeeds (copyContent_acts _ symbol found)
  | size isWhole =>
      cases isWhole with
      | true => exact succeeds (write_acts _ _ _)
      | false => exact succeeds (writeHalf_acts _ _ _ _ _)
  | _ => exact succeeds (relocateTo_acts object relocation _ symbol found)

theorem relocateBySymbol_acts (object : Object) (relocation : Relocation) (kind : RelocationKind)
    (symbol : Symbol) :
    Acts machine (Act.Known machine.Has) (relocateBySymbol · object relocation kind symbol) := by
  have goesOn : Acts machine (Act.Known machine.Has) fun found : Option Definition × Process =>
      found.2.relocateBound object relocation kind symbol found.1 :=
    fun ⟨found, process⟩ => relocateBound_acts object relocation kind symbol found process
  refine .attempt (bind_acts object relocation.index symbol kind.isCalled) goesOn fails_acts ?_ ?_
  · intro process found isFound
    simp only [relocateBySymbol, isFound]
  · intro process fault isFault
    simp only [relocateBySymbol, isFault]

theorem relocate_acts (object : Object) (relocation : Relocation) :
    Acts machine (Act.Known machine.Has) (relocate · object relocation) := by
  have crashes : Acts machine (Act.Known machine.Has) fun process : Process =>
      ((none, process.crash) : Bound) :=
    .answer (fun _ _ => rfl) (.ofOnCore crash_onCore)
  unfold relocate
  split
  · exact fails_acts _
  · exact .answer (fun _ _ => rfl) .here
  · exact .answer (fun _ _ => rfl) (write_acts _ _ _)
  · have writes (value : UInt64) : Acts machine (Act.Known machine.Has) fun process : Process =>
        ((none, process.write .quad (object.base + relocation.offset) value) : Bound) :=
      .answer (fun _ _ => rfl) (write_acts _ _ _)
    exact (call_acts (object.base + relocation.addend) []).use writes
  · next kind _ _ _ _ =>
      refine .readOption (fun process => object.symbol? process.memory relocation.index)
        (fun _ _ => rfl) crashes (relocateBySymbol_acts object relocation kind) ?_ ?_
      · intro process isNone
        simp only [isNone]
      · intro process symbol isSome
        simp only [isSome]

theorem putOff_acts (object : Object) (relocation : Relocation) :
    Acts machine (Act.Known machine.Has) (putOff · object relocation) := by
  have crashes : Acts machine (Act.Known machine.Has) fun process : Process =>
      ((none, process.crash) : Bound) :=
    .answer (fun _ _ => rfl) (.ofOnCore crash_onCore)
  have adds (value : UInt64) : Acts machine (Act.Known machine.Has) fun process : Process =>
      ((none, process.write .quad (object.base + relocation.offset) (value + object.base)) :
        Bound) :=
    .answer (fun _ _ => rfl) (write_acts _ _ _)
  unfold putOff
  dsimp only
  split
  · refine .readOption
      (fun process => process.memory.load? .quad (object.base + relocation.offset))
      (fun _ _ => rfl) crashes adds ?_ ?_
    · intro process isNone
      simp only [isNone]
    · intro process value isSome
      simp only [isSome]
  · exact relocate_acts object relocation
  · exact relocate_acts object relocation
  · exact fails_acts _

/-! ## All relocations -/

theorem addBase_acts (base place : UInt64) : Acts machine allowed (addBase · base place) := by
  refine .readOption (fun process => process.memory.load? .quad place) (fun _ _ => rfl)
    (.ofOnCore crash_onCore) (fun value => write_acts .quad place (value + base)) ?_ ?_
  · intro process isNone
    simp only [addBase, isNone]
  · intro process value isSome
    simp only [addBase, isSome]

theorem relocatePacked_acts (object : Object) :
    Acts machine allowed (relocatePacked · object) := by
  have each (entry : UInt64) : Acts machine allowed fun packed : UInt64 × Process =>
      if entry &&& 1 = 0 then
        let place : UInt64 := object.base + entry
        (place + 8, packed.2.addBase object.base place)
      else
        (packed.1 + 63 * 8,
          (List.range 63).foldl
            (fun process bit =>
              if (entry >>> (bit + 1).toUInt64) &&& 1 = 1 then
                process.addBase object.base (packed.1 + 8 * bit.toUInt64)
              else process)
            packed.2) := by
    have bits (place : UInt64) (bit : Nat) : Acts machine allowed fun process : Process =>
        if (entry >>> (bit + 1).toUInt64) &&& 1 = 1 then
          process.addBase object.base (place + 8 * bit.toUInt64)
        else process :=
      .ite (fun _ _ => rfl) (addBase_acts _ _) .here
    split
    · exact .answer (fun _ _ => rfl) fun ⟨_, process⟩ => addBase_acts _ _ process
    · exact .answer (fun _ _ => rfl) fun ⟨place, process⟩ => Acts.foldl (bits place) _ process
  have rows (table : UInt64) (index : Nat) : Acts machine allowed fun packed : UInt64 × Process =>
      let entry := packed.2.memory.peek .quad (table + 8 * index.toUInt64)
      if entry &&& 1 = 0 then
        let place : UInt64 := object.base + entry
        (place + 8, packed.2.addBase object.base place)
      else
        (packed.1 + 63 * 8,
          (List.range 63).foldl
            (fun process bit =>
              if (entry >>> (bit + 1).toUInt64) &&& 1 = 1 then
                process.addBase object.base (packed.1 + 8 * bit.toUInt64)
              else process)
            packed.2) :=
    fun packed => each _ packed
  unfold relocatePacked
  split
  · exact .here
  · exact fun process => (Acts.foldl (rows _) _).snd ((0 : UInt64), process)

theorem prepareTable_acts (object : Object) : Acts machine allowed (prepareTable · object) := by
  unfold prepareTable
  split
  · exact .here
  · exact .ofOnCore crash_onCore
  · exact (write_acts _ _ _).comp (write_acts _ _ _)

theorem closeSealed_acts (object : Object) : Acts machine allowed (closeSealed · object) := by
  unfold closeSealed
  split
  · refine .ite (fun _ _ => rfl) (.ok .here)
      (.ite (fun _ _ => rfl) (.ok ?_) (.error fun _ _ => rfl))
    exact .ofOnCore (changeMemory_onCore _)
  · exact .ok .here

theorem relocateList_acts (object : Object) (list : RelocationList) :
    Acts machine (Act.Known machine.Has) (relocateList object · list) := by
  have carriesOut (relocation : Relocation) : Acts machine (Act.Known machine.Has)
      fun process : Process =>
        if list.isPutOff then process.putOff object relocation
        else process.relocate object relocation :=
    .ite (fun _ _ => rfl) (putOff_acts object relocation) (relocate_acts object relocation)
  have each (relocation : Relocation) : Acts machine (Act.Known machine.Has) fun bound : Bound =>
      if bound.1.isSome || bound.2.ended.isSome then bound
      else if list.isPutOff then bound.2.putOff object relocation
      else bound.2.relocate object relocation :=
    .ite (fun _ _ => rfl) .here fun bound => carriesOut relocation bound.2
  exact fun bound => Acts.foldl each (list.all bound.2.memory) bound

/-- Take away the leave to write that an object has given, if that can be done. -/
def sealBound (object : Object) (process : Process) : Bound :=
  match process.closeSealed object with
  | .error fault => (some fault, process)
  | .ok process => (none, process)

theorem closeBound_acts (object : Object) (before : Processor.Memory) :
    Acts machine allowed (closeBound · object before) := by
  have shuts : Acts machine allowed fun process : Process =>
      if object.statements.isRewritten then process.closeForWriting before else process :=
    .ite (fun _ _ => rfl) (.ofOnCore (changeMemory_onCore _)) .here
  have marks : Acts machine allowed fun process : Process =>
      process.changeObject object.id fun object => { object with isBound := true } :=
    changeObject_acts object.id fun _ _ same => same
  have seals : Acts machine allowed (sealBound object) := by
    refine .attempt (closeSealed_acts object) succeeds_acts fails_acts ?_ ?_
    · intro process found isFound
      simp only [sealBound, isFound]
    · intro process fault isFault
      simp only [sealBound, isFault]
  have ends : Acts machine allowed fun process : Process =>
      if process.ended.isSome then ((none, process) : Bound) else sealBound object process :=
    .ite (fun _ _ => rfl) succeeds_acts seals
  exact (shuts.comp marks).comp ends

/-- End the relocation of an object whose references have all been bound. -/
def closeIfBound (object : Object) (before : Processor.Memory) : Bound → Bound
  | (some fault, process) => (some fault, process)
  | (none, process) => process.closeBound object before

theorem relocateAll_acts (object : Object) :
    Acts machine (Act.Known machine.Has) (relocateAll · object) := by
  intro start
  let isPutOff := !start.bindsNow && !object.statements.isBoundNow
  have opens : Acts machine (Act.Known machine.Has) fun process : Process =>
      if object.statements.isRewritten then process.openForWriting object else process :=
    .ite (fun _ _ => rfl) (.ofOnCore (changeMemory_onCore _)) .here
  have prepares : Acts machine (Act.Known machine.Has) fun process : Process =>
      if isPutOff then process.prepareTable object else process :=
    .ite (fun _ _ => rfl) (prepareTable_acts object) .here
  have lists : Acts machine (Act.Known machine.Has) fun process : Process =>
      (relocationLists object isPutOff).foldl (relocateList object) ((none, process) : Bound) :=
    fun process => Acts.foldl (relocateList_acts object) _ ((none, process) : Bound)
  have closes : Acts machine (Act.Known machine.Has) (closeIfBound object start.memory) := by
    rintro ⟨_ | fault, process⟩
    · exact closeBound_acts object start.memory process
    · exact fails_acts fault process
  exact ((((opens.comp prepares).comp (relocatePacked_acts object)).comp lists).comp closes) start

end Process

end PluginHost
