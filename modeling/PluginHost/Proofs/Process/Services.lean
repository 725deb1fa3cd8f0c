import PluginHost.Process.Start
import PluginHost.Proofs.Outcome

/-!
# Processes of services

Where all libraries are libraries of services, no code is there to be run. Opening and closing them,
and leaving the program, then change nothing but memory and the table of objects.
-/

namespace PluginHost

open PluginHost.Outcome (bind_eq_ok map_eq_ok mapError_eq_ok foldlM_keeps)
open Library (Image)

/-! ## Files -/

/-- No file is an image of a library. -/
def FileTree.WithoutImages (tree : FileTree) : Prop :=
  ∀ place content, (place, Entry.file content none) ∈ tree.entries →
    ∃ fault, Image.ofContent content = .error fault

namespace FileTree

theorem find?_mem {tree : FileTree} {place : Place} {content : Bytes} {library : Option Library}
    (found : tree.find? place = some (.file content library)) :
    (place, Entry.file content library) ∈ tree.entries := by
  rw [find?] at found
  split at found
  · cases found
  · obtain ⟨before, after, split, _⟩ := List.lookup_eq_some_iff.mp found
    rw [split]
    exact List.mem_append_right _ (List.mem_cons_self ..)

/-- A file that a walk leads to is one of the tree. -/
theorem walk_file {tree : FileTree} {start place : Place} {names : List Bytes} {content : Bytes}
    {library : Option Library}
    (found : tree.walk start names = .ok (place, .file content library)) :
    ∃ place, (place, Entry.file content library) ∈ tree.entries := by
  fun_induction walk tree start names with
  | case1 | case4 | case5 | case8 => cases found
  | case2 | case3 | case6 => next ih => exact ih found
  | case7 start name _ _ _ next entry _ isEntry =>
      obtain ⟨other, opens, same⟩ := map_eq_ok.mp found
      obtain rfl : other = .file content library := (Prod.mk.inj same).2
      cases entry with
      | directory | closed | unreadable => cases opens
      | file ownContent ownLibrary =>
          cases opens
          exact ⟨_, find?_mem isEntry⟩

theorem find_file {tree : FileTree} {path : Bytes} {place : Place} {content : Bytes}
    {library : Option Library} (found : tree.find path = .ok (place, .file content library)) :
    ∃ place, (place, Entry.file content library) ∈ tree.entries := by
  rw [find] at found
  split at found
  · cases found
  · split at found
    · cases found
    · exact walk_file found

end FileTree

namespace Machine

/-- What has been found for a name is in the file tree. -/
def HasFound (machine : Machine) (found : Found) : Prop :=
  ∃ path, machine.files.find path = .ok (found.place, found.entry)

variable {machine : Machine} {found : Found}

theorem look_found {seeking : Seeking} {path : Bytes}
    (looks : machine.look seeking path = .ok found) : machine.HasFound found := by
  rw [look] at looks
  split at looks
  · cases looks
  · next place entry isThere =>
      split at looks <;> cases looks
      exact ⟨path, isThere⟩

theorem lookInto_found {name directory : Bytes} {subdirectories : List Bytes} {seeking : Seeking}
    {isAny : Bool}
    (looks : machine.lookInto name directory subdirectories seeking isAny = .ok found) :
    machine.HasFound found := by
  induction subdirectories generalizing seeking isAny with
  | nil => cases looks
  | cons subdirectory rest ih =>
      rw [lookInto] at looks
      split at looks
      · next isThere =>
          cases looks
          exact look_found isThere
      · exact ih looks

theorem search_found {name : Bytes} {directories : List Bytes} {seeking : Seeking}
    (looks : machine.search name seeking directories = .ok found) : machine.HasFound found := by
  induction directories generalizing seeking with
  | nil => cases looks
  | cons directory rest ih =>
      rw [search] at looks
      split at looks
      · next isThere =>
          cases looks
          exact lookInto_found isThere
      · split at looks
        · cases looks
        · exact ih looks

theorem searchAll_found {name : Bytes} {lists : List (List Bytes)} {seeking : Seeking}
    (looks : machine.searchAll name seeking lists = .ok found) : machine.HasFound found := by
  induction lists generalizing seeking with
  | nil => cases looks
  | cons directories rest ih =>
      rw [searchAll] at looks
      split at looks
      · next isThere =>
          cases looks
          exact search_found isThere
      · exact ih looks

end Machine

theorem Process.findFile_found {process : Process} {needer : Option Object} {name : Bytes}
    {found : Found} (finds : process.findFile needer name = .ok found) :
    process.machine.HasFound found := by
  simp only [findFile, mapError_eq_ok] at finds
  split at finds
  · exact Machine.look_found finds
  · exact Machine.searchAll_found finds

/-! ## Objects -/

/-- An object made from a library of services. There is nothing in it to be bound. -/
structure Object.IsBuiltin (object : Object) : Prop where
  body : ∃ library, object.body = .library library
  bound : object.isBound = true

namespace Object.IsBuiltin

variable {object : Object}

theorem stated?_eq (builtin : object.IsBuiltin) (tag : UInt64) : object.stated? tag = none := by
  obtain ⟨library, isLibrary⟩ := builtin.body
  rw [stated?, statements, isLibrary]
  rfl

theorem addressList_eq (builtin : object.IsBuiltin) (process : Process) (table length : UInt64) :
    process.addressList object table length = [] := by
  rw [Process.addressList, builtin.stated?_eq]

theorem find? (builtin : object.IsBuiltin) {memory : Processor.Memory} {wanted : Wanted}
    {definition : Definition} {binding : Nat}
    (finds : object.find? memory wanted = some (definition, binding)) :
    definition.kind = 2 ∧ binding = Symbol.globalBinding := by
  obtain ⟨library, isLibrary⟩ := builtin.body
  rw [Object.find?, isLibrary] at finds
  dsimp only at finds
  split at finds
  · cases finds
  · obtain ⟨index, _, same⟩ := Option.map_eq_some_iff.mp finds
    cases same
    exact ⟨rfl, rfl⟩

end Object.IsBuiltin

namespace Process

/-- A process that is as another but for memory, registers and objects, and in which all objects are
made from libraries of services. -/
structure Inert (reference process : Process) : Prop where
  machine : process.machine = reference.machine
  outside : process.outside = reference.outside
  farewells : process.farewells = reference.farewells
  ended : process.ended = reference.ended
  builtin : ∀ object ∈ process.objects, object.IsBuiltin

namespace Inert

variable {reference process : Process}

theorem object (inert : Inert reference process) {id : ObjectId} {object : Object}
    (found : process.object? id = some object) : object.IsBuiltin :=
  inert.builtin object (List.mem_of_find?_eq_some found)

theorem mapObjects (inert : Inert reference process) {change : Object → Object}
    (keeps : ∀ object, object.IsBuiltin → (change object).IsBuiltin) :
    Inert reference { process with objects := process.objects.map change } := by
  refine ⟨inert.machine, inert.outside, inert.farewells, inert.ended, fun object member => ?_⟩
  obtain ⟨before, inBefore, rfl⟩ := List.mem_map.mp member
  exact keeps before (inert.builtin before inBefore)

theorem changeObject (inert : Inert reference process) (id : ObjectId) {change : Object → Object}
    (keeps : ∀ object, object.IsBuiltin → (change object).IsBuiltin) :
    Inert reference (process.changeObject id change) := by
  refine inert.mapObjects fun object builtin => ?_
  split
  · exact keeps object builtin
  · exact builtin

/-! ### Opening -/

theorem addLibrary (inert : Inert reference process) (path : Bytes) (names : List Bytes)
    (place : Option Place) (needer : Option Object) (library : Library) :
    Inert reference (process.addLibrary path names place needer library).2 := by
  refine ⟨inert.machine, inert.outside, inert.farewells, inert.ended, fun object member => ?_⟩
  obtain ⟨before, inBefore, rfl⟩ := List.mem_map.mp member
  rcases List.mem_append.mp inBefore with inProcess | isNew
  · have builtin := inert.builtin before inProcess
    split
    · exact ⟨builtin.body, rfl⟩
    · exact builtin
  · rw [List.mem_singleton.mp isNew]
    split
    · exact ⟨⟨library, rfl⟩, rfl⟩
    · next differs => exact absurd rfl differs

variable (withoutImages : reference.machine.files.WithoutImages)

include withoutImages

theorem openFile (inert : Inert reference process) {needer : Option Object} {name : Bytes}
    {opened : ObjectId × Process} (opens : process.openFile needer name = .ok opened) :
    Inert reference opened.2 := by
  unfold Process.openFile at opens
  split at opens
  · cases opens
    exact inert
  · obtain ⟨found, finds, opens⟩ := bind_eq_ok.mp opens
    split at opens
    · cases opens
      exact inert.changeObject _ fun _ builtin => ⟨builtin.body, builtin.bound⟩
    · split at opens
      · cases opens
      · cases opens
      · cases opens
      · cases opens
        exact inert.addLibrary ..
      · next content isFile =>
          obtain ⟨path, there⟩ := findFile_found finds
          rw [inert.machine, isFile] at there
          obtain ⟨place, inTree⟩ := FileTree.find_file there
          obtain ⟨fault, refused⟩ := withoutImages place content inTree
          rw [refused] at opens
          cases opens

theorem openNeeds (inert : Inert reference process) {object : Object}
    {opened : List ObjectId × Process} (opens : process.openNeeds object = .ok opened) :
    Inert reference opened.2 := by
  refine foldlM_keeps (fun reached => Inert reference reached.2)
    (fun before name after _ inert step => ?_) inert opens
  obtain ⟨found, opensFile, done⟩ := bind_eq_ok.mp step
  cases done
  exact inert.openFile withoutImages opensFile

theorem gather {root : ObjectId} {count : Nat} {ids gathered : List ObjectId}
    {reached : List ObjectId × Process} (inert : Inert reference process)
    (gathers : Process.gather root count ids gathered process = .ok reached) :
    Inert reference reached.2 := by
  induction count generalizing ids gathered process with
  | zero =>
      cases gathers
      exact inert
  | succ count ih =>
      cases ids with
      | nil =>
          cases gathers
          exact inert
      | cons id rest =>
          unfold Process.gather at gathers
          split at gathers
          · obtain ⟨opened, opens, gathers⟩ := bind_eq_ok.mp gathers
            refine ih ?_ gathers
            have inert := inert.openNeeds withoutImages opens
            split
            · exact inert.changeObject _ fun _ builtin => ⟨builtin.body, builtin.bound⟩
            · exact inert
          · exact ih inert gathers

omit withoutImages

/-- There is nothing to be bound. -/
theorem bindObjects (inert : Inert reference process) (ids : List ObjectId) :
    ids.foldl Process.bindObject (none, process) = (none, process) := by
  refine List.foldlRecOn (motive := (· = ((none, process) : Bound))) _ _ rfl fun _ same id _ => ?_
  subst same
  rw [Process.bindObject]
  split
  · rfl
  · next object found =>
      rw [(inert.object found).bound]
      rfl

theorem startList (inert : Inert reference process) {object : Object}
    (builtin : object.IsBuiltin) (table length : UInt64) :
    Inert reference (process.startList object table length) := by
  rw [Process.startList, builtin.addressList_eq]
  exact inert

theorem startObject (inert : Inert reference process) (id : ObjectId) :
    Inert reference (process.startObject id) := by
  unfold Process.startObject
  split
  · exact inert
  · next object found =>
      split
      · exact inert
      · rw [(inert.object found).stated?_eq]
        refine startList (inert.changeObject _ ?_) (inert.object found) _ _
        exact fun _ builtin => ⟨builtin.body, builtin.bound⟩

theorem startAll (inert : Inert reference process) {root : Object} (builtin : root.IsBuiltin)
    (order : List ObjectId) : Inert reference (process.startAll root order) := by
  unfold Process.startAll
  refine List.foldlRecOn _ _ (startList ?_ builtin _ _) fun before inert id _ =>
    inert.startObject id
  cases ((order.filter fun id => (process.object? id).any fun object =>
      !object.isStarted && object.statements.startsFirst).max?) with
  | none => exact inert
  | some first => exact inert.startObject first

theorem widen (inert : Inert reference process) (root : ObjectId) (group : List ObjectId) :
    Inert reference (process.widen root group) := by
  refine inert.mapObjects fun object builtin => ?_
  split
  · exact ⟨builtin.body, builtin.bound⟩
  · exact builtin

theorem bindGroup (inert : Inert reference process) (root : ObjectId)
    (group order : List ObjectId) :
    (process.bindGroup root group order).1 = none ∧
      Inert reference (process.bindGroup root group order).2 := by
  have inertToo := inert.widen root group
  rw [Process.bindGroup, inert.bindObjects]
  dsimp only
  split
  · next object found => exact ⟨rfl, inertToo.startAll (inertToo.object found) order⟩
  · exact ⟨rfl, inertToo⟩

include withoutImages

theorem gatherFor (inert : Inert reference process) {root : ObjectId}
    {gathered : (List ObjectId × List ObjectId) × Process}
    (gathers : process.gatherFor root = .ok gathered) : Inert reference gathered.2 := by
  obtain ⟨⟨group, reached⟩, isGathered, checks⟩ := bind_eq_ok.mp gathers
  obtain ⟨_, _, done⟩ := bind_eq_ok.mp checks
  cases done
  exact (inert.gather withoutImages isGathered).changeObject _ fun _ builtin =>
    ⟨builtin.body, builtin.bound⟩

theorem prepare {before : Process} (inertBefore : Inert reference before)
    (inert : Inert reference process) (root : ObjectId) :
    Inert reference (Process.prepare before process root).2 := by
  unfold Process.prepare
  split
  · exact inertBefore
  · next group order reached gathers =>
      obtain ⟨isNone, inertAfter⟩ :=
        (inert.gatherFor withoutImages gathers).bindGroup root group order
      split
      · next fault after binds =>
          rw [binds] at isNone
          cases isNone
      · next after binds =>
          rw [binds] at inertAfter
          exact inertAfter

theorem openLibrary (inert : Inert reference process) (name : Bytes) :
    Inert reference (process.openLibrary name).2 := by
  unfold Process.openLibrary
  split
  · exact inert
  · next id opened opens =>
      have inertOpened : Inert reference (opened.changeObject id fun object =>
          { object with openings := object.openings + 1 }) :=
        (inert.openFile withoutImages opens).changeObject _ fun _ builtin =>
          ⟨builtin.body, builtin.bound⟩
      dsimp only
      split
      · exact prepare withoutImages inert inertOpened id
      · exact inertOpened

omit withoutImages

/-! ### Symbols -/

theorem lookup (inert : Inert reference process) (wanted : Wanted) (ids : List ObjectId) :
    (process.lookup wanted ids).2 = process ∧
      ∀ found, (process.lookup wanted ids).1 = some found → found.kind = 2 := by
  induction ids with
  | nil => exact ⟨rfl, fun _ found => nomatch found⟩
  | cons id rest ih =>
      rw [Process.lookup]
      split
      · exact ih
      · next definition binding isFound =>
          obtain ⟨object, isThere, finds⟩ := Option.bind_eq_some_iff.mp isFound
          have builtin := inert.object (Option.eq_some_of_filter_eq_some isThere)
          obtain ⟨isCalled, rfl⟩ := builtin.find? finds
          refine ⟨rfl, fun found same => ?_⟩
          cases same
          exact isCalled

theorem symbolAddress? (inert : Inert reference process) (id : ObjectId) (name : Bytes) :
    (process.symbolAddress? id name).2 = process := by
  unfold Process.symbolAddress?
  dsimp only
  split
  · next after isNone =>
      exact (congrArg Prod.snd isNone).symm.trans (inert.lookup _ _).1
  · next found after isFound =>
      have isCalled := (inert.lookup _ _).2 found (congrArg Prod.fst isFound)
      have unchanged : after = process :=
        (congrArg Prod.snd isFound).symm.trans (inert.lookup _ _).1
      have noThread : found.kind ≠ Symbol.threadKind := by rw [isCalled]; decide
      have noChoice : found.kind ≠ Symbol.choosingKind := by rw [isCalled]; decide
      rw [if_neg noThread, lead, leadWith, if_neg noChoice]
      exact unchanged

/-! ### Closing -/

theorem finishObject (inert : Inert reference process) (id : ObjectId) :
    Inert reference (process.finishObject id) := by
  unfold Process.finishObject
  split
  · exact inert
  · next object found =>
      split
      · exact inert
      · have builtin := inert.object found
        simp only [builtin.addressList_eq, builtin.stated?_eq, List.length_nil, List.range_zero,
          List.reverse_nil, List.foldl_nil]
        exact inert.changeObject _ fun _ builtin => ⟨builtin.body, builtin.bound⟩

theorem removeObjects (inert : Inert reference process) (ids : List ObjectId) :
    Inert reference (process.removeObjects ids) := by
  refine ⟨inert.machine, inert.outside, inert.farewells, inert.ended, fun object member => ?_⟩
  have isKept : object ∈ (process.objects.partition fun object => ids.contains object.id).2 :=
    member
  rw [List.partition_eq_filter_filter] at isKept
  exact inert.builtin object (List.mem_filter.mp isKept).1

theorem clean (inert : Inert reference process) : Inert reference process.clean := by
  unfold Process.clean
  refine (List.foldlRecOn _ _ inert fun before inert id _ => ?_).removeObjects _
  split
  · refine inert.changeObject _ fun object builtin => ?_
    rw [withoutRoots]
    split
    · exact builtin
    · exact ⟨builtin.body, builtin.bound⟩
  · exact (inert.finishObject id).changeObject _ fun object builtin =>
      ⟨builtin.body, builtin.bound⟩

theorem closeLibrary (inert : Inert reference process) (id : ObjectId) :
    Inert reference (process.closeLibrary id) := by
  unfold Process.closeLibrary
  split
  · exact inert
  · split
    · exact inert
    · have inert : Inert reference (process.changeObject id fun object =>
          { object with openings := object.openings - 1 }) :=
        inert.changeObject _ fun _ builtin => ⟨builtin.body, builtin.bound⟩
      dsimp only
      split
      · exact inert
      · exact inert.clean

theorem bidFarewells (inert : Inert reference process) (noFarewells : reference.farewells = [])
    (proceed : Process → Process) (owner : UInt64) :
    Inert reference (Process.bidFarewells proceed process owner) := by
  have none : process.farewells = [] := inert.farewells.trans noFarewells
  unfold Process.bidFarewells takeFarewells
  simp only [none, List.filter_nil, List.foldl_nil]
  exact ⟨inert.machine, inert.outside, noFarewells.symm, inert.ended, inert.builtin⟩

/-- A process for which nothing has been registered leaves with what waits to be printed. -/
theorem finish (inert : Inert reference process) (alive : reference.ended = none)
    (noFarewells : reference.farewells = []) :
    process.finish.ended = none ∧ process.finish.outside = reference.outside.flush := by
  have isEnd : process.finish = process.leaveInOrder := by
    rw [Process.finish, inert.ended, alive]
  have inert : Inert reference { process with ended := none } :=
    ⟨inert.machine, inert.outside, inert.farewells, alive.symm, inert.builtin⟩
  have inert := inert.bidFarewells noFarewells (proceed mostEvents) 0
  rw [isEnd, leaveInOrder]
  generalize Process.bidFarewells (proceed mostEvents) { process with ended := none } 0 = left
    at inert
  have finished : Inert reference ((left.orderedForEnd (left.objects.map Object.id)).foldl
      Process.finishObject left) :=
    List.foldlRecOn _ _ inert fun before inert id _ => inert.finishObject id
  generalize (left.orderedForEnd (left.objects.map Object.id)).foldl Process.finishObject left =
    last at finished
  have goesOn : last.ended = none := finished.ended.trans alive
  simp only [goesOn, Option.any_none, Bool.false_eq_true, ↓reduceIte, finished.outside, and_self]

/-! ### Starting -/

theorem settle (inert : Inert reference process) : Inert reference process.settle :=
  inert.mapObjects fun _ builtin => ⟨builtin.body, builtin.bound⟩

include withoutImages

theorem addInitial (inert : Inert reference process) : Inert reference process.addInitial := by
  have withProgram := inert.addLibrary [] [[]] none none process.machine.program
  let program := (process.addLibrary [] [[]] none none process.machine.program).2
  have placed : Inert reference
      { program with places := { program.places with free := libraryPlace } } :=
    ⟨withProgram.machine, withProgram.outside, withProgram.farewells, withProgram.ended,
      withProgram.builtin⟩
  have withLoader :=
    placed.addLibrary process.machine.loaderPath [] none none process.machine.loader
  unfold Process.addInitial
  dsimp only
  split
  · exact withLoader
  · next group after gathers =>
      have withSystem := (withLoader.gather withoutImages gathers).addLibrary
        process.machine.systemName [] none none process.machine.systemPart
      refine (withSystem.changeObject _ ?_).settle
      exact fun _ builtin => ⟨builtin.body, builtin.bound⟩

end Inert

/-- A machine without images, and no libraries to be loaded before the program: a process that has
just been started is as one without objects. -/
theorem start_inert {machine : Machine} (withoutImages : machine.files.WithoutImages)
    (arguments : List Bytes) (stdout : Stdout) {environment : Environment}
    (noneBefore : environment.find? "LD_PRELOAD" = none) :
    Inert (bare machine arguments (.initial stdout environment))
      (start machine arguments stdout environment) := by
  have inert : Inert (bare machine arguments (.initial stdout environment))
      (bare machine arguments (.initial stdout environment)).addInitial :=
    Inert.addInitial withoutImages ⟨rfl, rfl, rfl, rfl, by simp [bare]⟩
  have noNames : (LoadSettings.ofEnvironment environment).names = [] := by
    rw [LoadSettings.names, LoadSettings.ofEnvironment, noneBefore]
    rfl
  rw [start, startFrom, if_pos noNames]
  exact ⟨inert.machine, inert.outside, inert.farewells, inert.ended, inert.builtin⟩

end Process

end PluginHost
