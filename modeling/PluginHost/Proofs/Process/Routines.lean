import PluginHost.Proofs.Process.Acts

/-!
# Routines

Routines of the C library work on the core, whatever is around it.
-/

namespace PluginHost

open Carries (processes change)
open Processor (Core Memory Width)

namespace Process

variable {M N R α : Type} [CarriesOne M] [CarriesOne N] [Carries R]

/-! ## Rules -/

namespace OnCore

theorem here : OnCore fun start : M => start := fun _ _ => rfl

theorem answer {answer : M → α} {compute : M → R} (reads : OffCore answer)
    (onCore : OnCore compute) : OnCore fun start => (answer start, compute start) :=
  fun start other => Prod.ext (reads start other) (onCore start other)

theorem some {compute : M → R} (onCore : OnCore compute) :
    OnCore fun start => some (compute start) :=
  fun start other => congrArg Option.some (onCore start other)

theorem none : OnCore fun _ : M => (Option.none : Option R) := fun _ _ => rfl

theorem read {read : M → Option α} {next : α → M → Option R} (reads : OffCore read)
    (onCore : ∀ value, OnCore (next value)) :
    OnCore fun start => (read start).bind fun value => next value start := by
  intro start other
  dsimp only
  rw [reads start other]
  cases read start with
  | none => rfl
  | some value => exact onCore value start other

theorem bind {first : M → Option N} {next : M → N → Option R} (begins : OnCore first)
    (reads : OffCore next) (onCore : ∀ before, OnCore (next before)) :
    OnCore fun start => (first start).bind (next start) := by
  intro start other
  dsimp only
  rw [begins start other, reads start other]
  cases first start with
  | none => rfl
  | some middle => exact onCore start middle other

theorem map {first : M → Option N} {answer : M → α} (begins : OnCore first)
    (reads : OffCore answer) :
    OnCore fun start => (first start).map (answer start, ·) := by
  intro start other
  dsimp only
  rw [begins start other, reads start other]
  cases first start <;> rfl

/-- An answer to something that is read off the core. -/
theorem readMap {β : Type} {read : M → Option α} {answer : M → α → β} (reads : OffCore read)
    (readsToo : OffCore answer) :
    OnCore fun start => (read start).map fun value => (answer start value, start) := by
  intro start other
  dsimp only
  rw [reads start other, readsToo start other]
  cases read start <;> rfl

theorem andThen {first : M → N} {next : N → R} (begins : OnCore first) (onCore : OnCore next) :
    OnCore fun start => next (first start) := by
  intro start other
  dsimp only
  rw [begins start other]
  exact onCore (first start) other

/-- Arguments may be read off the core before. -/
theorem given {value : M → α} (next : α → M → R) (reads : OffCore value)
    (onCore : ∀ value, OnCore (next value)) : OnCore fun start => next (value start) start := by
  intro start other
  dsimp only
  rw [reads start other]
  exact onCore (value start) start other

/-- Something that is read off the core decides how the computation goes on, if it can be read. -/
theorem readOption {otherwise whole : M → R} {next : α → M → R} (read : M → Option α)
    (reads : OffCore read) (onCore : OnCore otherwise) (onCoreToo : ∀ value, OnCore (next value))
    (isNone : ∀ start, read start = .none → whole start = otherwise start)
    (isSome : ∀ start value, read start = .some value → whole start = next value start) :
    OnCore whole := by
  intro start other
  have same := reads start other
  cases isRead : read start with
  | none =>
      rw [isNone _ (same.trans isRead), isNone _ isRead]
      exact onCore start other
  | some value =>
      rw [isSome _ value (same.trans isRead), isSome _ value isRead]
      exact onCoreToo value start other

theorem ite {condition : M → Prop} [∀ start, Decidable (condition start)] {first second : M → R}
    (reads : OffCore condition) (onCore : OnCore first) (onCoreToo : OnCore second) :
    OnCore fun start => if condition start then first start else second start := by
  intro start other
  have same := reads start other
  dsimp only
  by_cases holds : condition start
  · rw [if_pos holds, if_pos (same ▸ holds)]
    exact onCore start other
  · rw [if_neg holds, if_neg (same ▸ holds)]
    exact onCoreToo start other

end OnCore

/-! ## The core -/

theorem changeCore_onCore (alter : Core → Core) : OnCore (changeCore · alter) := fun _ _ => rfl

theorem changeMemory_onCore (alter : Memory → Memory) : OnCore (changeMemory · alter) :=
  fun _ _ => rfl

theorem leave_onCore {leaving : Process → Leaving} (reads : OffCore leaving) :
    OnCore fun process : Process => process.leave (leaving process) :=
  .ite (fun _ _ => rfl) .here fun process other => by
    rw [reads process other]
    rfl

theorem crash_onCore : OnCore crash := leave_onCore fun _ _ => rfl

theorem changeMemory?_onCore (alter : Memory → Option Memory) : OnCore (changeMemory? · alter) := by
  have idles : OnCore fun process : Process => crash { process with core := .idle } :=
    .andThen (fun _ _ => rfl) crash_onCore
  have changes (memory : Memory) : OnCore fun process : Process =>
      { process with core := ⟨process.core.registers, memory⟩ } :=
    fun _ _ => rfl
  refine .readOption (fun process => alter process.core.memory) (fun _ _ => rfl) idles changes ?_ ?_
  · intro process isNone
    simp only [changeMemory?, detach, isNone]
  · intro process memory isSome
    simp only [changeMemory?, detach, isSome]

theorem write_onCore (width : Width) {address value : Process → UInt64} (reads : OffCore address)
    (readsToo : OffCore value) :
    OnCore fun process : Process => process.write width (address process) (value process) := by
  intro process other
  dsimp only
  rw [reads process other, readsToo process other]
  exact changeMemory?_onCore _ process other

theorem setError_onCore (number : UInt64) : OnCore (setError · number) :=
  write_onCore .double (fun _ _ => rfl) fun _ _ => rfl

theorem storeBytes?_onCore {address : Process → UInt64} {bytes : Process → Bytes}
    (reads : OffCore address) (readsToo : OffCore bytes) :
    OnCore fun process : Process => process.storeBytes? (address process) (bytes process) := by
  intro process other
  dsimp only
  rw [reads process other, readsToo process other]
  unfold storeBytes?
  change Option.map _ (process.memory.storeBytes? _ _) =
    Option.map _ (Option.map _ (process.memory.storeBytes? _ _))
  rw [Option.map_map]
  rfl

theorem store?_onCore (width : Width) {address value : Process → UInt64} (reads : OffCore address)
    (readsToo : OffCore value) :
    OnCore fun process : Process => process.store? width (address process) (value process) :=
  storeBytes?_onCore reads fun process other => by rw [readsToo process other]

theorem fill_onCore {count : Process → Nat} {byte : Process → UInt8} {address : Process → UInt64}
    (reads : OffCore count) (readsByte : OffCore byte) (readsToo : OffCore address) :
    OnCore fun process : Process => process.fill (count process) (byte process) (address process) :=
  .ite (fun process other => by rw [reads process other]) .none <|
    storeBytes?_onCore readsToo fun process other => by
      rw [reads process other, readsByte process other]

theorem storing_onCore {address answer : Process → UInt64} {bytes : Process → Bytes}
    (reads : OffCore address) (readsBytes : OffCore bytes) (readsToo : OffCore answer) :
    OnCore fun process : Process =>
      process.storing (address process) (bytes process) (answer process) := by
  intro process other
  have stores := storeBytes?_onCore reads readsBytes process other
  dsimp only [storing] at stores ⊢
  rw [stores, readsToo process other]
  cases process.storeBytes? (address process) (bytes process) <;> rfl

/-! ## Memory that is asked for -/

theorem allocate_onCore (length : UInt64) : OnCore (allocate · length) := by
  refine .ite (fun _ _ => rfl) (.answer (fun _ _ => rfl) .here) ?_
  exact fun _ _ => rfl

theorem allocateFor_onCore (bytes : Bytes) : OnCore (allocateFor · bytes) := by
  intro process other
  have takes := allocate_onCore bytes.length.toUInt64 process other
  unfold allocateFor
  dsimp only at takes ⊢
  rw [takes]
  obtain ⟨start, after⟩ := process.allocate bytes.length.toUInt64
  have stores : OnCore (storeBytes? · start bytes) :=
    storeBytes?_onCore (fun _ _ => rfl) fun _ _ => rfl
  have stored := stores after other
  dsimp only [change] at stored ⊢
  rw [stored]
  cases after.storeBytes? start bytes <;> rfl

theorem reallocate_onCore (old length : UInt64) : OnCore (reallocate · old length) := by
  intro process other
  have takes := allocate_onCore length process other
  unfold reallocate
  dsimp only at takes ⊢
  rw [takes]
  obtain ⟨start, after⟩ := process.allocate length
  have goesOn : OnCore fun process : Process =>
      if old = 0 || start = 0 then some (start, process)
      else
        (process.memory.load? .quad (old - stretchHead)).bind fun before =>
          (process.bytesAt? old (min before length).toNat).bind fun bytes =>
            process.storing start bytes start := by
    refine .ite (fun _ _ => rfl) (.some (.answer (fun _ _ => rfl) .here)) ?_
    refine .read (fun _ _ => rfl) fun _ => .read (fun _ _ => rfl) fun _ => ?_
    exact storing_onCore (fun _ _ => rfl) (fun _ _ => rfl) fun _ _ => rfl
  exact goesOn after other

/-! ## Bytes -/

theorem copyBytes_onCore (answer : Library.CopyAnswer) : OnCore (copyBytes · answer) :=
  .read (fun _ _ => rfl) fun _ =>
    storing_onCore (fun _ _ => rfl) (fun _ _ => rfl) fun _ _ => rfl

theorem compareBytes_onCore : OnCore compareBytes :=
  .read (fun _ _ => rfl) fun _ => .read (fun _ _ => rfl) fun _ =>
    .some (.answer (fun _ _ => rfl) .here)

theorem findByte_onCore (isBackward : Bool) : OnCore (findByte · isBackward) :=
  .some (.answer (fun _ _ => rfl) .here)

theorem compareStrings_onCore (comparison : Library.Comparison) :
    OnCore (compareStrings · comparison) :=
  .read (fun _ _ => rfl) fun _ => .read (fun _ _ => rfl) fun _ =>
    .some (.answer (fun _ _ => rfl) .here)

theorem searchString_onCore (what : Library.Search) : OnCore (searchString · what) := by
  refine .read (fun _ _ => rfl) fun _ => ?_
  cases what with
  | firstByte | lastByte | byteOrEnd => exact .some (.answer (fun _ _ => rfl) .here)
  | firstString | anyOf =>
      exact .read (fun _ _ => rfl) fun _ => .some (.answer (fun _ _ => rfl) .here)

theorem span_onCore (ofMembers : Bool) : OnCore (span · ofMembers) :=
  .read (fun _ _ => rfl) fun _ => .read (fun _ _ => rfl) fun _ =>
    .some (.answer (fun _ _ => rfl) .here)

theorem copyString_onCore (answer : Library.CopyAnswer) : OnCore (copyString · answer) :=
  .read (fun _ _ => rfl) fun _ =>
    storing_onCore (fun _ _ => rfl) (fun _ _ => rfl) fun _ _ => rfl

theorem copyBounded_onCore (answer : Library.CopyAnswer) : OnCore (copyBounded · answer) :=
  .bind (fill_onCore (fun _ _ => rfl) (fun _ _ => rfl) fun _ _ => rfl) (fun _ _ => rfl) fun _ =>
    storing_onCore (fun _ _ => rfl) (fun _ _ => rfl) fun _ _ => rfl

theorem appendString_onCore (isBounded : Bool) : OnCore (appendString · isBounded) := by
  refine .read (fun _ _ => rfl) fun _ => ?_
  cases isBounded with
  | true => exact storing_onCore (fun _ _ => rfl) (fun _ _ => rfl) fun _ _ => rfl
  | false =>
      refine .read (fun _ _ => rfl) fun _ => ?_
      exact storing_onCore (fun _ _ => rfl) (fun _ _ => rfl) fun _ _ => rfl

theorem duplicate_onCore (isBounded : Bool) : OnCore (duplicate · isBounded) := by
  cases isBounded with
  | true =>
      exact .given (fun bytes (process : Process) => some (process.allocateFor (bytes ++ [0])))
        (fun _ _ => rfl) fun bytes => .some (allocateFor_onCore _)
  | false => exact .read (fun _ _ => rfl) fun _ => .some (allocateFor_onCore _)

theorem nextToken_onCore (hasPlace : Bool) : OnCore (nextToken · hasPlace) := by
  unfold nextToken
  have answers (answer : UInt64) : OnCore fun process : Process => some (answer, process) :=
    .some (.answer (fun _ _ => rfl) .here)
  have cuts (tokenEnd : Process → UInt64) (reads : OffCore tokenEnd) :
      OnCore fun process : Process => process.storeBytes? (tokenEnd process) [0] :=
    storeBytes?_onCore reads fun _ _ => rfl
  cases hasPlace with
  | true =>
      have keeps (answer next : UInt64) : OnCore fun process : Process =>
          (process.store? .quad (process.argument 2) next).bind fun process =>
            some (answer, process) :=
        .bind (store?_onCore .quad (fun _ _ => rfl) fun _ _ => rfl) (fun _ _ => rfl)
          fun _ => answers _
      refine .read (fun _ _ => rfl) fun kept => .ite (fun _ _ => rfl) (answers 0) ?_
      refine .read (fun _ _ => rfl) fun separators => .read (fun _ _ => rfl) fun bytes => ?_
      refine .ite (fun _ _ => rfl) (.bind (.some .here) (fun _ _ => rfl) fun _ => keeps _ _) ?_
      exact .bind (cuts _ fun _ _ => rfl) (fun _ _ => rfl) fun _ => keeps _ _
  | false =>
      have keeps (answer next : UInt64) : OnCore fun process : Process =>
          (some { process with places := { process.places with token := next } }).bind
            fun process => some (answer, process) :=
        fun _ _ => rfl
      simp only [Bool.false_eq_true, ↓reduceIte]
      refine .ite (fun _ _ => rfl) (answers 0) ?_
      refine .read (fun _ _ => rfl) fun separators => .read (fun _ _ => rfl) fun bytes => ?_
      refine .ite (fun _ _ => rfl) (.bind (.some .here) (fun _ _ => rfl) fun _ => keeps _ _) ?_
      exact .bind (cuts _ fun _ _ => rfl) (fun _ _ => rfl) fun _ => keeps _ _

theorem toNumber_onCore : OnCore toNumber := by
  refine .read (fun _ _ => rfl) fun _ => .some (.answer (fun _ _ => rfl) ?_)
  exact .ite (fun _ _ => rfl) (setError_onCore _) .here

theorem readNumber_onCore (signed : Bool) : OnCore (readNumber · signed) := by
  unfold readNumber
  refine .ite (fun _ _ => rfl) (.some (.answer (fun _ _ => rfl) (setError_onCore _))) ?_
  refine .read (fun _ _ => rfl) fun text => ?_
  have answers (before : Process) : OnCore fun process : Process =>
      let number := readDigits (before.argument 2).toUInt32.toNat text
      let process := if number.isTooGreat signed then process.setError tooGreatError else process
      some (if signed then number.signed else number.unsigned, process) :=
    .some (.answer (fun _ _ => rfl) (.ite (fun _ _ => rfl) (setError_onCore _) .here))
  refine .ite (fun _ _ => rfl) (.bind (.some .here) (fun _ _ => rfl) answers) ?_
  exact .bind (store?_onCore .quad (fun _ _ => rfl) fun _ _ => rfl) (fun _ _ => rfl) answers

end Process

/-! ## Printing -/

instance : CarriesOne Printing where
  processes printing := [printing.process]
  change alter printing := { printing with process := alter printing.process }
  change_id _ := rfl
  processes_change _ _ := rfl
  change_congr {_ _ printing} same := by
    rw [same printing.process (List.mem_singleton_self _)]
  process := Printing.process
  processes_eq _ := rfl

open Process

namespace Printing

theorem takeStacked?_onCore : OnCore takeStacked? :=
  .read (fun _ _ => rfl) fun _ => .some fun _ _ => rfl

theorem takeWord?_onCore : OnCore takeWord? := by
  refine .ite (fun _ _ => rfl) (fun printing other => ?_) takeStacked?_onCore
  obtain ⟨process, ⟨words, points, stack, kept⟩, made, count⟩ := printing
  cases kept with
  | none => rfl
  | some kept =>
      change Option.bind (process.memory.load? .quad _) _ =
        Option.map _ (Option.bind (process.memory.load? .quad _) _)
      cases process.memory.load? .quad _ <;> rfl

theorem takePoint?_onCore : OnCore takePoint? := by
  refine .ite (fun _ _ => rfl) (fun printing other => ?_) takeStacked?_onCore
  obtain ⟨process, ⟨words, points, stack, kept⟩, made, count⟩ := printing
  cases kept with
  | none => rfl
  | some kept =>
      change Option.bind (process.memory.load? .quad _) _ =
        Option.map _ (Option.bind (process.memory.load? .quad _) _)
      cases process.memory.load? .quad _ <;> rfl

end Printing

namespace Directive

theorem readCount?_onCore (text : Bytes) : OnCore (readCount? · text) := by
  refine .ite (fun _ _ => rfl) ?_
    (.some (.answer (fun _ _ => rfl) (.answer (fun _ _ => rfl) .here)))
  refine .bind Printing.takeWord?_onCore (fun _ _ => rfl) fun _ => ?_
  exact .some fun _ _ => rfl

theorem read?_onCore (text : Bytes) : OnCore (read? · text) := by
  refine .bind (readCount?_onCore _) (fun _ _ => rfl) fun _ => ?_
  refine .ite (fun _ _ => rfl) (.some fun _ _ => rfl) ?_
  refine .bind (fun found other => ?_) (fun _ _ => rfl) fun _ => .some fun _ _ => rfl
  exact readCount?_onCore found.2.1.tail found.2.2 other

theorem perform?_onCore (directive : Directive) (letter : UInt8) :
    OnCore (directive.perform? letter) := by
  refine .ite (fun _ _ => rfl) (.some fun _ _ => rfl) ?_
  generalize pointStyle? _ = style
  cases style with
  | some style =>
      exact .bind Printing.takePoint?_onCore (fun _ _ => rfl) fun _ => .some fun _ _ => rfl
  | none =>
      refine .bind Printing.takeWord?_onCore (fun _ _ => rfl) fun _ => ?_
      refine .ite (fun _ _ => rfl) (.read (fun _ _ => rfl) fun _ => .some fun _ _ => rfl) ?_
      refine .ite (fun _ _ => rfl) ?_ (.some fun _ _ => rfl)
      have stores (address value : UInt64) : OnCore fun process : Process =>
          process.store? directive.width address value :=
        store?_onCore _ (fun _ _ => rfl) fun _ _ => rfl
      refine .bind (fun found other => ?_) (fun _ _ => rfl) fun _ => .some fun _ _ => rfl
      exact stores _ _ found.2.process other

end Directive

theorem Printing.run?_onCore (count : Nat) (format : Bytes) :
    OnCore (Printing.run? count format) := by
  induction count generalizing format with
  | zero => exact .some .here
  | succ count ih =>
      cases format with
      | nil => exact .some .here
      | cons byte rest =>
          refine .ite (fun _ _ => rfl) ?_ ?_
          · exact fun printing other => ih rest (printing.add [byte]) other
          · intro printing other
            have reads := Directive.read?_onCore rest printing other
            dsimp only at reads ⊢
            rw [reads]
            rcases Directive.read? printing rest with _ | ⟨directive, _ | ⟨letter, rest⟩, after⟩
            · rfl
            · rfl
            · have performs := directive.perform?_onCore letter after other
              dsimp only [Carries.change, Option.map_some] at performs ⊢
              rw [performs]
              cases directive.perform? letter after with
              | none => rfl
              | some printing => exact ih rest printing other

namespace Process

theorem formatted?_onCore (fixed : Nat) (isListed : Bool) :
    OnCore (formatted? · fixed isListed) := by
  refine .read (fun _ _ => rfl) fun format => ?_
  have runs (place : Process → ArgumentPlace) (reads : OffCore place) :
      OnCore fun process : Process =>
        (Printing.run? (format.length + 1) format ⟨process, place process, [], 0⟩).bind
          fun printing => some (printing.made.reverse, printing.process) := by
    refine .bind (fun process other => ?_) (fun _ _ => rfl) fun _ => .some fun _ _ => rfl
    rw [reads process other]
    exact Printing.run?_onCore _ format ⟨process, place process, [], 0⟩ other
  cases isListed with
  | true => exact .read (fun _ _ => rfl) fun place => runs (fun _ => place) fun _ _ => rfl
  | false => exact runs _ fun _ _ => rfl

end Process

end PluginHost
