import Mathlib.Data.List.TakeWhile
import PluginHost.CommandLine.Parser
import PluginHost.Proofs.Outcome
import PluginHost.Proofs.Text.Utf8

/-!
# Spellings

The ways to write down a value for a setting, and what reading makes of them: however an item is
spelled, its value is accepted after all that came before it, and before all that comes after it.
-/

namespace PluginHost.CommandLine

open PluginHost.Text
open Bytes (hyphen equals)

/-- A setting with the bytes of a value. -/
structure Item where
  setting : Setting
  value : Bytes
  deriving DecidableEq, Repr

/-- A value that does not look like an option may stand by itself. -/
def StandsAlone (value : Bytes) : Prop := value.head? ≠ some hyphen ∨ value = [hyphen]

/-- A setting's option by its name. -/
def longOption (setting : Setting) : Bytes := hyphen :: hyphen :: Utf8.encode setting.name

/-- An option by its letter. -/
def letterOption (letter : Char) : Bytes := hyphen :: Utf8.encodeChar letter

/-- The arguments that give a value to a setting. -/
inductive Item.Spells : Item → List Bytes → Prop where
  | attached (setting : Setting) (value : Bytes) :
      Spells ⟨setting, value⟩ [longOption setting ++ equals :: value]
  | apart (setting : Setting) {value : Bytes} (alone : StandsAlone value) :
      Spells ⟨setting, value⟩ [longOption setting, value]
  | letterEquals {setting : Setting} {letter : Char} (has : setting.letter? = some letter)
      (value : Bytes) : Spells ⟨setting, value⟩ [letterOption letter ++ equals :: value]
  | letterJoined {setting : Setting} {letter : Char} (has : setting.letter? = some letter)
      {value : Bytes} (visible : value ≠ []) (plain : value.head? ≠ some equals) :
      Spells ⟨setting, value⟩ [letterOption letter ++ value]
  | letterApart {setting : Setting} {letter : Char} (has : setting.letter? = some letter)
      {value : Bytes} (alone : StandsAlone value) :
      Spells ⟨setting, value⟩ [letterOption letter, value]

/-- The arguments that give several items, one after the other. -/
inductive Spelled : List Item → List Bytes → Prop where
  | nil : Spelled [] []
  | cons {item : Item} {items : List Item} {first rest : List Bytes} (spells : item.Spells first)
      (later : Spelled items rest) : Spelled (item :: items) (first ++ rest)

/-! ## Single arguments -/

variable {progress : Progress}

theorem name_noEquals (setting : Setting) : equals ∉ Utf8.encode setting.name := by
  cases setting <;> decide

theorem name_ne_nil (setting : Setting) : Utf8.encode setting.name ≠ [] := by
  cases setting <;> decide

theorem passes_equals {name : Bytes} (free : equals ∉ name) :
    ∀ byte ∈ name, decide (byte ≠ equals) = true := by
  intro byte member
  exact decide_eq_true fun same => free (same ▸ member)

theorem splitEquals_attached {name : Bytes} (free : equals ∉ name) (value : Bytes) :
    splitEquals (name ++ equals :: value) = (name, some value) := by
  rw [splitEquals, List.takeWhile_append_of_pos (passes_equals free),
    List.dropWhile_append_of_pos (passes_equals free)]
  simp

theorem splitEquals_bare {name : Bytes} (free : equals ∉ name) :
    splitEquals name = (name, none) := by
  rw [splitEquals, List.takeWhile_eq_self_iff.mpr (passes_equals free),
    List.dropWhile_eq_nil_iff.mpr (passes_equals free)]
  rfl

theorem readArgument_long {rest : Bytes} (isOpen : progress.closed = false) (visible : rest ≠ []) :
    readArgument progress (hyphen :: hyphen :: rest) =
      readLong progress (splitEquals rest).1 (splitEquals rest).2 := by
  obtain ⟨first, rest, rfl⟩ := List.exists_cons_of_ne_nil visible
  unfold readArgument
  rw [isOpen]
  rfl

theorem readLong_setting (setting : Setting) (attached : Option Bytes) :
    readLong progress (Utf8.encode setting.name) attached =
      (progress.option setting attached).mapError .fault := by
  unfold readLong
  rw [Utf8.decode?_encode]
  cases setting <;> rfl

theorem readArgument_letter {first : UInt8} (rest : Bytes) (isOpen : progress.closed = false)
    (single : first ≠ hyphen) :
    readArgument progress (hyphen :: first :: rest) = readLetter progress (first :: rest) := by
  unfold readArgument
  rw [isOpen, if_neg Bool.false_ne_true]
  split
  · next same => exact absurd (List.cons.inj (List.cons.inj same).2).1 single
  · next same => exact absurd (List.cons.inj (List.cons.inj same).2).1 single
  · next same => cases same; rfl
  · next noLetter => exact absurd rfl (noLetter first rest)

theorem readArgument_value {value : Bytes} (isOpen : progress.closed = false)
    (alone : StandsAlone value) :
    readArgument progress value = (progress.value value).mapError .fault := by
  unfold readArgument
  rw [isOpen, if_neg Bool.false_ne_true]
  split
  · rcases alone with alone | alone <;> simp [hyphen] at alone
  · rcases alone with alone | alone <;> simp [hyphen] at alone
  · rcases alone with alone | alone <;> simp [hyphen] at alone
  · rfl

theorem readLetter_setting {setting : Setting} {letter : Char}
    (has : setting.letter? = some letter) (rest : Bytes) :
    readLetter progress (Utf8.encodeChar letter ++ rest) =
      (progress.option setting (letterValue rest)).mapError .fault := by
  rw [readLetter, Utf8.read_encodeChar_append]
  cases setting <;> cases has <;> rfl

/-! ## Items -/

/-- Progress with nothing pending, before the closing mark. -/
def Progress.ofGiven (given : List Given) : Progress := ⟨given, none, false⟩

theorem Progress.settle_cases (isOpen : progress.closed = false) :
    (∃ fault, progress.settle = .error fault) ∨
      ∃ given, progress.settle = .ok (.ofGiven given) := by
  obtain ⟨given, pending, closed⟩ := progress
  cases isOpen
  rcases pending with _ | ⟨setting, _ | raw⟩
  · exact .inr ⟨given, rfl⟩
  · exact .inl ⟨_, rfl⟩
  · simp only [settle, take]
    split
    · exact .inl ⟨_, rfl⟩
    · cases setting.accept raw with
      | error fault => exact .inl ⟨fault, rfl⟩
      | ok value => exact .inr ⟨given ++ [value], rfl⟩

/-- Accept the value of an item after the values given. -/
def acceptItem (given : List Given) (item : Item) : Except Fault (List Given) :=
  if item.setting ∈ settings given ∧ !item.setting.mayRepeat then .error (.repeated item.setting)
  else (item.setting.accept item.value).map fun value => given ++ [value]

theorem Progress.take_ofGiven (given : List Given) (item : Item) :
    (Progress.ofGiven given).take item.setting item.value =
      (acceptItem given item).map .ofGiven := by
  unfold take acceptItem ofGiven
  by_cases isRepeated : item.setting ∈ settings given ∧ (!item.setting.mayRepeat) = true
  · rw [if_pos isRepeated, if_pos isRepeated]
    rfl
  · rw [if_neg isRepeated, if_neg isRepeated]
    cases item.setting.accept item.value <;> rfl

/-- The values that have been accepted once what is pending is accepted, too. -/
def Progress.settled (progress : Progress) : Except Stop (List Given) :=
  (progress.settle.map Progress.given).mapError .fault

/-- Arguments have been read as an item: what was pending before is accepted, and then the item.
More options may follow. -/
structure ReadsAs (progress : Progress) (item : Item) (arguments : List Bytes) : Prop where
  settled : arguments.foldlM readArgument progress >>= Progress.settled =
    progress.settled >>= fun given => (acceptItem given item).mapError .fault
  isOpen : ∀ after, arguments.foldlM readArgument progress = .ok after → after.closed = false

theorem Progress.settled_of_stop {fault : Fault} (stops : progress.settle = .error fault) :
    progress.settled = .error (.fault fault) := by
  rw [settled, stops]
  rfl

theorem Progress.settled_of_settle {given : List Given}
    (settles : progress.settle = .ok (.ofGiven given)) : progress.settled = .ok given := by
  rw [settled, settles]
  rfl

theorem readArguments_single (argument : Bytes) :
    [argument].foldlM readArgument progress = readArgument progress argument := by
  rw [List.foldlM_cons]
  exact bind_pure _

/-- An option with an attached value. -/
theorem readsAs_attached {item : Item} {argument : Bytes} (isOpen : progress.closed = false)
    (reads : readArgument progress argument =
      (progress.option item.setting (some item.value)).mapError .fault) :
    ReadsAs progress item [argument] := by
  rcases progress.settle_cases isOpen with ⟨fault, stops⟩ | ⟨given, settles⟩
  · have stopped : [argument].foldlM readArgument progress = .error (.fault fault) := by
      rw [readArguments_single, reads, Progress.option, stops]
      rfl
    refine ⟨?_, fun after done => ?_⟩
    · rw [stopped, Progress.settled_of_stop stops]
      rfl
    · cases stopped.symm.trans done
  · have taken : [argument].foldlM readArgument progress =
        ((acceptItem given item).map Progress.ofGiven).mapError .fault := by
      rw [readArguments_single, reads, Progress.option, settles, ← Progress.take_ofGiven]
      rfl
    refine ⟨?_, fun after done => ?_⟩
    · rw [taken, Progress.settled_of_settle settles]
      change _ = (acceptItem given item).mapError Stop.fault
      cases acceptItem given item <;> rfl
    · rw [taken, Outcome.mapError_eq_ok, Outcome.map_eq_ok] at done
      obtain ⟨_, _, rfl⟩ := done
      rfl

/-- An option that waits for its value, and the value after it. -/
theorem readsAs_apart {item : Item} {argument : Bytes} (isOpen : progress.closed = false)
    (alone : StandsAlone item.value)
    (reads : readArgument progress argument =
      (progress.option item.setting none).mapError .fault) :
    ReadsAs progress item [argument, item.value] := by
  rcases progress.settle_cases isOpen with ⟨fault, stops⟩ | ⟨given, settles⟩
  · have stopped : [argument, item.value].foldlM readArgument progress =
        .error (.fault fault) := by
      rw [List.foldlM_cons, reads, Progress.option, stops]
      rfl
    refine ⟨?_, fun after done => ?_⟩
    · rw [stopped, Progress.settled_of_stop stops]
      rfl
    · cases stopped.symm.trans done
  · have waiting : readArgument progress argument =
        .ok ⟨given, some (item.setting, none), false⟩ := by
      rw [reads, Progress.option, settles]
      rfl
    have held : [argument, item.value].foldlM readArgument progress =
        .ok ⟨given, some (item.setting, some item.value), false⟩ := by
      rw [List.foldlM_cons, waiting]
      change [item.value].foldlM readArgument _ = _
      rw [readArguments_single, readArgument_value rfl alone]
      rfl
    refine ⟨?_, fun after done => ?_⟩
    · rw [held, Progress.settled_of_settle settles]
      change (((Progress.ofGiven given).take item.setting item.value).map _).mapError _ =
        (acceptItem given item).mapError Stop.fault
      rw [Progress.take_ofGiven]
      cases acceptItem given item <;> rfl
    · rw [held] at done
      cases done
      rfl

theorem encodeChar_letter {setting : Setting} {letter : Char}
    (has : setting.letter? = some letter) :
    ∃ byte, byte ≠ hyphen ∧ Utf8.encodeChar letter = [byte] := by
  cases setting <;> cases has
  · exact ⟨88, by decide, by decide⟩
  · exact ⟨72, by decide, by decide⟩

theorem readArgument_letterOption {setting : Setting} {letter : Char}
    (isOpen : progress.closed = false) (has : setting.letter? = some letter) (rest : Bytes) :
    readArgument progress (letterOption letter ++ rest) =
      (progress.option setting (letterValue rest)).mapError .fault := by
  obtain ⟨byte, single, encoded⟩ := encodeChar_letter has
  rw [← readLetter_setting has, letterOption, encoded]
  exact readArgument_letter rest isOpen single

theorem letterValue_equals (value : Bytes) : letterValue (equals :: value) = some value := rfl

theorem letterValue_plain {value : Bytes} (visible : value ≠ [])
    (plain : value.head? ≠ some equals) : letterValue value = some value := by
  cases value with
  | nil => exact absurd rfl visible
  | cons first rest =>
      have different : first ≠ equals := fun same => plain (congrArg some same)
      rw [letterValue, if_neg different]

/-- Every spelling of an item is read as the item. -/
theorem read_item {item : Item} {arguments : List Bytes} (isOpen : progress.closed = false)
    (spells : item.Spells arguments) : ReadsAs progress item arguments := by
  cases spells with
  | attached setting value =>
      refine readsAs_attached isOpen ?_
      rw [longOption, List.cons_append, List.cons_append, readArgument_long isOpen (by simp),
        splitEquals_attached (name_noEquals setting), readLong_setting]
  | apart setting alone =>
      refine readsAs_apart isOpen alone ?_
      rw [longOption, readArgument_long isOpen (name_ne_nil setting),
        splitEquals_bare (name_noEquals setting), readLong_setting]
  | letterEquals has value =>
      refine readsAs_attached isOpen ?_
      rw [readArgument_letterOption isOpen has, letterValue_equals]
  | letterJoined has visible plain =>
      refine readsAs_attached isOpen ?_
      rw [readArgument_letterOption isOpen has, letterValue_plain visible plain]
  | letterApart has alone =>
      refine readsAs_apart isOpen alone ?_
      rw [← List.append_nil (letterOption _), readArgument_letterOption isOpen has]
      rfl

/-- However items are spelled, their values are accepted one after the other, after what came
before them. -/
theorem read_items {items : List Item} {arguments : List Bytes}
    (spelled : Spelled items arguments) :
    ∀ progress : Progress, progress.closed = false →
      arguments.foldlM readArgument progress >>= Progress.settled =
        progress.settled >>= fun given => (items.foldlM acceptItem given).mapError .fault := by
  induction spelled with
  | nil =>
      intro progress _
      change progress.settled = _
      cases progress.settled <;> rfl
  | @cons item items first rest spells later ih =>
      intro progress isOpen
      have readsFirst := read_item isOpen spells
      calc (first ++ rest).foldlM readArgument progress >>= Progress.settled
          = first.foldlM readArgument progress >>= fun after =>
              rest.foldlM readArgument after >>= Progress.settled := by
            rw [List.foldlM_append, bind_assoc]
        _ = (first.foldlM readArgument progress >>= Progress.settled) >>= fun given =>
              (items.foldlM acceptItem given).mapError .fault := by
            cases outcome : first.foldlM readArgument progress with
            | error stop => rfl
            | ok after => exact ih after (readsFirst.isOpen after outcome)
        _ = progress.settled >>= fun given =>
              ((item :: items).foldlM acceptItem given).mapError .fault := by
            rw [readsFirst.settled, bind_assoc]
            congr 1
            funext given
            rw [List.foldlM_cons, Outcome.mapError_bind]

/-- What spelled items are read as from the start. -/
theorem read_items_start {items : List Item} {arguments : List Bytes}
    (spelled : Spelled items arguments) :
    arguments.foldlM readArgument Progress.start >>= Progress.settled =
      (items.foldlM acceptItem []).mapError .fault :=
  read_items spelled .start rfl

end PluginHost.CommandLine
