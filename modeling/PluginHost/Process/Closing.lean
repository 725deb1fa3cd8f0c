import PluginHost.Process.Opening

/-!
# Closing libraries

A library that has been closed as often as it was opened is ended and taken out of memory, unless it
is to stay or another object that is still there needs it. So is all that only it needed.
-/

namespace PluginHost

namespace Process

/-! ## Ending objects -/

/-- Call a function without arguments, unless the process has ended. -/
def finishAt (process : Process) (address : UInt64) : Process :=
  if process.ended.isSome then process else (process.call address []).2

/-- End an object that has been started: its list is gone through from the last function to the
first. -/
def finishObject (process : Process) (id : ObjectId) : Process :=
  match process.object? id with
  | none => process
  | some object =>
      if !object.isStarted then process
      else
        let process := process.changeObject id fun object => { object with isStarted := false }
        let addresses (process : Process) : List UInt64 :=
          process.addressList object Statements.finishes Statements.finishesLength
        let process := (List.range (addresses process).length).reverse.foldl
          (fun process index => (((addresses process)[index]?).map process.finishAt).getD process)
          process
        match object.stated? Statements.finish with
        | some address => process.finishAt address
        | none => process

/-! ## What is still needed -/

/-- Add all that the members of a list lead to, so many times over. -/
def reached (process : Process) : Nat → List ObjectId → List ObjectId
  | 0, ids => ids
  | count + 1, ids =>
      let added := (ids.flatMap (process.leadsTo true)).eraseDups.filter (!ids.contains ·)
      if added = [] then ids else reached process count (ids ++ added)

/-- The objects that are there for their own sake, and all that they lead to. -/
def stillNeeded (process : Process) : List ObjectId :=
  let kept := process.objects.filter fun object =>
    object.isInitial || object.stays || object.openings ≠ 0
  process.reached process.objects.length (kept.map Object.id)

/-- Take objects out of memory. -/
def removeObjects (process : Process) (ids : List ObjectId) : Process :=
  let (removed, kept) := process.objects.partition fun object => ids.contains object.id
  let process := { process with objects := kept }
  process.changeMemory fun memory =>
    removed.foldl (fun memory object => memory.removeRegions object.first object.length) memory

/-- Let an object that stays look for its references no more in the groups of those that go. If it
has never been opened by its name, it gets a group of its own: itself and what it needs. That one
stands in for the first that goes. -/
def withoutRoots (removed : List ObjectId) (object : Object) : Object :=
  if object.isInitial || removed.contains object.id then object
  else
    let own := object.id :: object.needs.getD []
    let roots :=
      if object.group ≠ [] then object.roots.filter (!removed.contains ·)
      else
        let before := object.roots.takeWhile (!removed.contains ·)
        let after := (object.roots.drop before.length).filter (!removed.contains ·)
        if before.length = object.roots.length then before else before ++ object.id :: after
    { object with roots, group := if object.group = [] then own else object.group }

/-- End and remove all objects that nobody needs any more. What has been ended is not found any
more, and what stays is prepared for that when it is its turn. -/
def clean (process : Process) : Process :=
  let needed := process.stillNeeded
  let order := process.orderedForEnd (process.objects.map Object.id)
  let unneeded := order.filter (!needed.contains ·)
  let process := order.foldl
    (fun process id =>
      if needed.contains id then process.changeObject id (withoutRoots unneeded)
      else
        (process.finishObject id).changeObject id fun object => { object with isRemoved := true })
    process
  process.removeObjects unneeded

/-- Close a library once. -/
def closeLibrary (process : Process) (id : ObjectId) : Process :=
  match process.object? id with
  | none => process
  | some object =>
      if process.ended.isSome || object.stays then process
      else
        let process := process.changeObject id fun object =>
          { object with openings := object.openings - 1 }
        if 1 < object.openings || object.isInitial then process else process.clean

/-! ## The end of the process -/

/-- Leave the program in order: what was registered is called, all objects are ended, and what waits
is printed. -/
def leaveInOrder (process : Process) : Process :=
  let process := { process with ended := none }
  let process := bidFarewells (proceed mostEvents) process 0
  let ids := process.objects.map Object.id
  let process := (process.orderedForEnd ids).foldl finishObject process
  let isCut := process.ended.any (!·.isOrderly)
  if isCut then process else { process with outside := process.outside.flush }

/-- The end of a process that has left, or that leaves now. -/
def finish (process : Process) : Process :=
  match process.ended with
  | some ⟨_, false⟩ => process
  | some ⟨code, true⟩ =>
      let process := process.leaveInOrder
      { process with ended := some (process.ended.getD ⟨code, true⟩) }
  | none => process.leaveInOrder

end Process

end PluginHost
