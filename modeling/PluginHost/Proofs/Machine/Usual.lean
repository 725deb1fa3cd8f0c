import PluginHost.Machine
import PluginHost.Proofs.Runner.Events

/-!
# Triggers on a usual machine

The libraries of a usual system hold no triggers. So code that is loaded on a usual machine can call
the triggers that come with the program, and of these only the request logger reports events.
-/

namespace PluginHost

open PluginHost.Text

/-! ## Libraries in a file tree -/

def Entry.library? : Entry → Option Library
  | file _ library => library
  | _ => none

namespace FileTree

/-- The libraries of services in a tree. -/
def libraries (tree : FileTree) : List Library := tree.entries.filterMap (·.2.library?)

theorem empty_libraries : (FileTree.mk [] [] []).libraries = [] := rfl

variable (tree : FileTree)

theorem putAt_libraries (place : Place) (entry : Entry) :
    (tree.putAt place entry).libraries = entry.library?.toList ++ tree.libraries := by
  have above : ((List.range place.length).map fun length =>
      (place.take length, Entry.directory)).filterMap (·.2.library?) = [] := by
    simp [Entry.library?]
  rw [libraries, putAt, List.cons_append, List.filterMap_cons, List.filterMap_append, above]
  cases entry.library? <;> rfl

@[simp] theorem putFile_libraries (path content : Bytes) :
    (tree.putFile path content).libraries = tree.libraries :=
  tree.putAt_libraries _ _

@[simp] theorem putLibrary_libraries (path : Bytes) (library : Library) :
    (tree.putLibrary path library).libraries = library :: tree.libraries :=
  tree.putAt_libraries _ _

@[simp] theorem putLink_libraries (path target : Bytes) :
    (tree.putLink path target).libraries = tree.libraries := rfl

theorem withCurrent_libraries (current : Place) :
    ({ tree with current } : FileTree).libraries = tree.libraries := rfl

section Folding

variable {α : Type} (items : List α)

/-- The libraries that come into a tree when something is put into it for each item. -/
theorem foldl_libraries {put : FileTree → α → FileTree} (given : α → Option Library)
    (puts : ∀ tree item, (put tree item).libraries = (given item).toList ++ tree.libraries) :
    (items.foldl put tree).libraries = (items.filterMap given).reverse ++ tree.libraries := by
  induction items generalizing tree with
  | nil => rfl
  | cons item rest ih =>
      rw [List.foldl_cons, ih, puts, List.filterMap_cons]
      cases given item <;> simp

theorem foldl_putAt_libraries (place : FileTree → α → Place) (entry : α → Entry) :
    (items.foldl (fun tree item => tree.putAt (place tree item) (entry item)) tree).libraries =
      (items.filterMap fun item => (entry item).library?).reverse ++ tree.libraries :=
  tree.foldl_libraries items _ fun tree _ => tree.putAt_libraries _ _

theorem foldl_putLibrary_libraries (path : α → Bytes) (library : α → Library) :
    (items.foldl (fun tree item => tree.putLibrary (path item) (library item)) tree).libraries =
      (items.map library).reverse ++ tree.libraries := by
  rw [← List.filterMap_eq_map]
  exact tree.foldl_libraries items _ fun tree _ => tree.putLibrary_libraries _ _

/-- Where nothing that is put is a library, there are no more libraries. -/
theorem foldl_libraries_eq {put : FileTree → α → FileTree}
    (puts : ∀ tree item, (put tree item).libraries = tree.libraries) :
    (items.foldl put tree).libraries = tree.libraries := by
  rw [tree.foldl_libraries items (fun _ => none) puts]
  simp

@[simp] theorem putDirectory_libraries (path : Bytes) :
    (tree.putDirectory path).libraries = tree.libraries :=
  tree.foldl_libraries_eq _ fun tree _ => tree.putAt_libraries _ _

theorem foldl_putFile_libraries (path content : α → Bytes) :
    (items.foldl (fun tree item => tree.putFile (path item) (content item)) tree).libraries =
      tree.libraries :=
  tree.foldl_libraries_eq items fun tree _ => tree.putFile_libraries _ _

theorem foldl_putLink_libraries (path target : α → Bytes) :
    (items.foldl (fun tree item => tree.putLink (path item) (target item)) tree).libraries =
      tree.libraries :=
  tree.foldl_libraries_eq items fun _ _ => rfl

theorem foldl_putDirectory_libraries (path : α → Bytes) :
    (items.foldl (fun tree item => tree.putDirectory (path item)) tree).libraries =
      tree.libraries :=
  tree.foldl_libraries_eq items fun tree _ => tree.putDirectory_libraries _

end Folding

theorem mem_libraries {path content : Bytes} {place : Place} {library : Library}
    (found : tree.find path = .ok (place, .file content (some library))) :
    library ∈ tree.libraries := by
  obtain ⟨there, member⟩ := find_file found
  exact List.mem_filterMap.mpr ⟨_, member, rfl⟩

end FileTree

/-! ## Libraries of the system -/

theorem UsualSystem.files_libraries :
    UsualSystem.files.libraries = Library.loader :: (Library.system.map Prod.snd).reverse := by
  have noneHindered : UsualSystem.hindered.filterMap (·.2.library?) = [] := rfl
  rw [files, putLoader, FileTree.putLink_libraries, FileTree.putLibrary_libraries,
    FileTree.foldl_putAt_libraries, noneHindered, FileTree.foldl_putLibrary_libraries,
    FileTree.foldl_putFile_libraries, FileTree.foldl_putDirectory_libraries,
    FileTree.foldl_putLink_libraries, FileTree.empty_libraries, List.reverse_nil, List.nil_append,
    List.append_nil]

theorem Machine.bareFiles_libraries : Machine.bareFiles.libraries =
    Library.probes :: Library.requestLogger :: UsualSystem.files.libraries := by
  rw [bareFiles, FileTree.withCurrent_libraries, FileTree.putLink_libraries,
    FileTree.putDirectory_libraries, putProgram, FileTree.putLink_libraries,
    FileTree.putFile_libraries, FileTree.putLibrary_libraries, FileTree.putLibrary_libraries,
    FileTree.putFile_libraries]

namespace Library

/-- No trigger is among the exports. -/
def IsPlain (library : Library) : Prop :=
  ∀ trigger, .trigger trigger ∉ library.exports.map Prod.snd

section Marks

variable (library : Library) (name : String) (names : List String)

@[simp] theorem isPlain_named : (library.named name).IsPlain ↔ library.IsPlain := Iff.rfl

@[simp] theorem isPlain_needing : (library.needing names).IsPlain ↔ library.IsPlain := Iff.rfl

@[simp] theorem isPlain_defining : (library.defining names).IsPlain ↔ library.IsPlain := Iff.rfl

@[simp] theorem isPlain_versioned : library.versioned.IsPlain ↔ library.IsPlain := Iff.rfl

end Marks

/-- A service that is no trigger. -/
def IsAid (service : Service) : Prop := ∀ trigger, service ≠ .trigger trigger

theorem standardService_isAid (name : String) (status : Int32) :
    IsAid (standardService name status) := by
  intro trigger
  rw [standardService]
  split <;> exact Service.noConfusion

theorem eachAnswering_isAid (answers : List (String × Int32)) :
    ∀ entry ∈ eachAnswering answers, IsAid entry.2 := by
  intro entry member
  obtain ⟨answer, _, rfl⟩ := List.mem_map.mp member
  exact standardService_isAid _ _

theorem allAnswering_isAid (status : Int32) (lines : List String) :
    ∀ entry ∈ allAnswering status lines, IsAid entry.2 := by
  intro entry member
  obtain ⟨name, _, rfl⟩ := List.mem_map.mp member
  exact standardService_isAid _ _

theorem standardCells_isAid : ∀ entry ∈ standardCells, IsAid entry.2 := by
  intro entry member
  simp only [standardCells, List.map_cons, List.map_nil, List.cons_append, List.nil_append,
    List.mem_cons, List.not_mem_nil, or_false] at member
  rcases member with rfl | rfl | rfl | rfl | rfl | rfl <;> exact fun _ => Service.noConfusion

theorem ofServices_isPlain {services : List (String × Service)}
    (aid : ∀ entry ∈ services, IsAid entry.2) : (ofServices services).IsPlain := by
  intro trigger exported
  obtain ⟨entry, member, isTrigger⟩ := List.mem_map.mp exported
  obtain ⟨service, among, rfl⟩ := List.mem_map.mp member
  exact aid service among trigger isTrigger

theorem ofNames_isPlain {known : List (String × Service)} (lines : List String)
    (aid : ∀ entry ∈ known, IsAid entry.2) : (ofNames known lines).IsPlain :=
  ofServices_isPlain fun entry member =>
    (List.mem_append.mp member).elim (aid entry) (allAnswering_isAid 1 lines entry)

theorem standardC_isPlain : standardC.IsPlain := by
  rw [standardC, isPlain_needing, isPlain_defining, isPlain_named, isPlain_versioned]
  refine ofNames_isPlain _ fun entry member => ?_
  simp only [List.mem_append] at member
  rcases member with ((isCell | isZero) | isFailure) | isOther
  · exact standardCells_isAid entry isCell
  · exact allAnswering_isAid _ _ entry isZero
  · exact allAnswering_isAid _ _ entry isFailure
  · exact eachAnswering_isAid _ entry isOther

theorem loader_isPlain : loader.IsPlain := by
  rw [loader, isPlain_defining, isPlain_named, isPlain_versioned]
  refine ofNames_isPlain _ fun entry member => ?_
  rw [List.mem_singleton.mp member]
  exact fun _ => Service.noConfusion

theorem program_isPlain : program.IsPlain := by
  rw [program, isPlain_needing]
  refine ofServices_isPlain fun entry member => ?_
  simp only [List.mem_cons, List.not_mem_nil, or_false] at member
  rcases member with rfl | rfl | rfl | rfl <;> exact fun _ => Service.noConfusion

theorem ofUnknown_isPlain (lines : List String) : (ofNames [] lines).IsPlain :=
  ofNames_isPlain lines fun _ member => absurd member List.not_mem_nil

section Names

variable (known : List (String × Service)) (lines : List String) (symbol : String)

theorem ofServices_find? (services : List (String × Service)) :
    (ofServices services).find? (Utf8.encode symbol) = services.lookup symbol := by
  induction services with
  | nil => rfl
  | cons entry rest ih =>
      change List.lookup _ ((Utf8.encode entry.1, entry.2) :: (ofServices rest).exports) = _
      rw [List.lookup_cons, List.lookup_cons]
      by_cases same : symbol = entry.1
      · simp [same]
      · have differs : Utf8.encode symbol ≠ Utf8.encode entry.1 :=
          fun equal => same (Utf8.encode_injective equal)
        rw [beq_false_of_ne same, beq_false_of_ne differs]
        exact ih

theorem allAnswering_lookup (status : Int32) :
    (allAnswering status lines).lookup symbol =
      if symbol ∈ namesIn lines then some (standardService symbol status) else none := by
  rw [allAnswering]
  induction namesIn lines with
  | nil => rfl
  | cons name rest ih =>
      rw [List.map_cons, List.lookup_cons, ih]
      by_cases same : symbol = name
      · simp [same]
      · simp [same, beq_false_of_ne same]

/-- A library of the system exports what is known of it and the names in its lines, and nothing
else. What is only named does not succeed. -/
theorem ofNames_find? : (ofNames known lines).find? (Utf8.encode symbol) =
    (known.lookup symbol).or
      (if symbol ∈ namesIn lines then some (standardService symbol 1) else none) := by
  rw [ofNames, ofServices_find?, List.lookup_append, allAnswering_lookup]

end Names

/-- No library of the system holds a trigger. -/
theorem system_isPlain : ∀ entry ∈ system, entry.2.IsPlain := by
  have resolver : resolver.IsPlain := by
    rw [Library.resolver, isPlain_needing, isPlain_named]
    exact ofUnknown_isPlain _
  intro entry member
  rcases List.mem_append.mp member with modelled | isEmpty
  · simp only [List.mem_cons, List.not_mem_nil, or_false] at modelled
    rcases modelled with rfl | rfl | rfl | rfl | rfl
    · exact standardC_isPlain
    · rw [mathematics, isPlain_needing, isPlain_defining, isPlain_named, isPlain_versioned]
      exact ofNames_isPlain _ (eachAnswering_isAid _)
    · rw [support, isPlain_needing, isPlain_defining, isPlain_named]
      exact ofNames_isPlain _ (eachAnswering_isAid _)
    · exact resolver
    · exact resolver
  · obtain ⟨name, _, rfl⟩ := List.mem_map.mp isEmpty
    exact fun _ exported => absurd exported List.not_mem_nil

end Library

/-! ## Triggers on a usual machine -/

namespace Machine

/-- A machine with the usual system and program, and with files to which no libraries have been
added. -/
structure IsUsual (machine : Machine) : Prop where
  program : machine.program = Library.program
  loader : machine.loader = Library.loader
  systemPart : machine.systemPart = Library.systemPart
  libraries : machine.files.libraries ⊆ Machine.bareFiles.libraries

theorem bare_isUsual : IsUsual bare := ⟨rfl, rfl, rfl, List.Subset.refl _⟩

theorem IsUsual.has {machine : Machine} (usual : machine.IsUsual) {trigger : Trigger}
    (has : machine.Has trigger) :
    trigger = RequestLogger.trigger ∨ trigger ∈ Probe.all.map Prod.snd := by
  obtain ⟨library, offers, exported⟩ := has
  have plain (isPlain : library.IsPlain) : trigger = RequestLogger.trigger ∨
      trigger ∈ Probe.all.map Prod.snd := absurd exported (isPlain trigger)
  cases offers with
  | program => exact plain (usual.program ▸ Library.program_isPlain)
  | loader => exact plain (usual.loader ▸ Library.loader_isPlain)
  | systemPart => exact plain (usual.systemPart ▸ Library.ofUnknown_isPlain _)
  | file found =>
      have among := usual.libraries (FileTree.mem_libraries _ found)
      rw [bareFiles_libraries, UsualSystem.files_libraries] at among
      simp only [List.mem_cons, List.mem_reverse, List.mem_map] at among
      rcases among with rfl | rfl | rfl | ⟨entry, inSystem, rfl⟩
      · refine .inr ?_
        obtain ⟨service, inProbes, isTrigger⟩ := List.mem_map.mp exported
        obtain ⟨named, isNamed, rfl⟩ := List.mem_map.mp inProbes
        obtain ⟨probe, isProbe, rfl⟩ := List.mem_map.mp isNamed
        cases isTrigger
        exact List.mem_map_of_mem isProbe
      · cases List.mem_singleton.mp exported
        exact .inl rfl
      · exact plain Library.loader_isPlain
      · exact plain (Library.system_isPlain entry inSystem)

end Machine

theorem Probe.all_events : ∀ probe ∈ all.map Prod.snd, ∀ handle stdout,
    (probe handle stdout).events = [] := by
  intro probe member handle stdout
  simp only [all, List.map_cons, List.map_nil, List.mem_cons, List.not_mem_nil, or_false] at member
  rcases member with rfl | rfl | rfl | rfl | rfl | rfl | rfl | rfl | rfl <;> rfl

/-- What triggers reply on a usual machine is what the request logger replies. -/
theorem Replies.of_usual {machine : Machine} (usual : machine.IsUsual) {stdout : Stdout}
    {events : List Log.Event} (replies : Replies machine.Has stdout events) :
    Replies (· = RequestLogger.trigger) stdout events := by
  obtain ⟨calls, has, rfl⟩ := replies
  induction calls with
  | nil => exact .nil
  | cons call rest ih =>
      rw [List.flatMap_cons]
      have others := ih fun other member => has other (List.mem_cons_of_mem _ member)
      refine Replies.append ?_ others
      rcases usual.has (has call List.mem_cons_self) with isLogger | isProbe
      · refine .call ?_ call.2
        exact isLogger
      · rw [Probe.all_events _ isProbe]
        exact .nil

/-- What a run on a usual machine tells besides the events of its own stages is what the request
logger replies where loaded code calls it. -/
theorem Situation.overhears_of_usual {situation : Situation} (usual : situation.machine.IsUsual)
    {events : List Log.Event} (overhears : situation.Overhears events) :
    Replies (· = RequestLogger.trigger) situation.stdout events :=
  .of_usual usual (overhears.mono fun _ mayCall => mayCall.1)

end PluginHost
