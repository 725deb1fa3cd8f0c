import PluginHost.Proofs.CommandLine.Decoding
import PluginHost.Proofs.CommandLine.NulFree

/-!
# Written command lines

Every command line that is read consists of spelled items, and may end with the closing mark. So
reading accepts exactly what can be written with admissible items.
-/

namespace PluginHost.CommandLine

open PluginHost.Text
open PluginHost.Outcome (bind_eq_ok map_eq_ok mapError_eq_ok)
open Bytes (hyphen equals)

/-- The mark after which no option is read any more. -/
def closingMark : Bytes := [hyphen, hyphen]

/-- A whole command line with its items. -/
inductive Written : List Item → List Bytes → Prop where
  | bare {items : List Item} {arguments : List Bytes} (spelled : Spelled items arguments) :
      Written items arguments
  | closed {items : List Item} {arguments : List Bytes} (spelled : Spelled items arguments) :
      Written items (arguments ++ [closingMark])

theorem Written.cons {item : Item} {items : List Item} {first rest : List Bytes}
    (spells : item.Spells first) (later : Written items rest) :
    Written (item :: items) (first ++ rest) := by
  cases later with
  | bare spelled => exact .bare (.cons spells spelled)
  | closed spelled =>
      rw [← List.append_assoc]
      exact .closed (.cons spells spelled)

/-! ## Single arguments -/

/-- What an argument is, if reading goes on with it. -/
inductive ArgumentRead (progress : Progress) (argument : Bytes) : Progress → Prop where
  | closing (isMark : argument = closingMark) :
      ArgumentRead progress argument { progress with closed := true }
  | attached {after : Progress} {setting : Setting} {value : Bytes}
      (spells : Item.Spells ⟨setting, value⟩ [argument])
      (taken : progress.option setting (some value) = .ok after) :
      ArgumentRead progress argument after
  | waiting {after : Progress} {setting : Setting}
      (spells : ∀ value, StandsAlone value → Item.Spells ⟨setting, value⟩ [argument, value])
      (taken : progress.option setting none = .ok after) : ArgumentRead progress argument after
  | value {after : Progress} (alone : StandsAlone argument)
      (taken : progress.value argument = .ok after) : ArgumentRead progress argument after

variable {progress after : Progress} {argument : Bytes}

theorem splitEquals_eq {bytes name : Bytes} {attached : Option Bytes}
    (split : splitEquals bytes = (name, attached)) :
    bytes = name ++ (attached.map (equals :: ·)).getD [] := by
  cases split
  have whole := List.takeWhile_append_dropWhile (p := (· ≠ equals)) (l := bytes)
  rcases rest : bytes.dropWhile (· ≠ equals) with _ | ⟨mark, value⟩
  · rw [rest] at whole
    exact whole.symm
  · have isEquals : mark = equals := by
      have stops := List.head?_dropWhile_not (· ≠ equals) bytes
      rw [rest] at stops
      simpa using stops
    rw [rest, isEquals] at whole
    exact whole.symm

theorem ofName?_eq_some {name : String} {setting : Setting}
    (found : Setting.ofName? name = some setting) : setting.name = name := by
  simpa using List.find?_some found

theorem ofLetter?_eq_some {letter : Char} {setting : Setting}
    (found : Setting.ofLetter? letter = some setting) : setting.letter? = some letter := by
  simpa using List.find?_some found

theorem readLong_eq_ok {name : Bytes} {held : Option Bytes}
    (reads : readLong progress name held = .ok after) :
    ∃ setting : Setting,
      name = Utf8.encode setting.name ∧ progress.option setting held = .ok after := by
  unfold readLong at reads
  split at reads
  · exact absurd reads (help_ne_ok progress)
  · cases reads
  · split at reads
    · next setting found =>
        obtain ⟨text, decoded, named⟩ := Option.bind_eq_some_iff.mp found
        refine ⟨setting, ?_, mapError_eq_ok.mp reads⟩
        rw [ofName?_eq_some named]
        exact (Utf8.decode?_eq_some_iff.mp decoded).symm
    · cases reads

theorem readLong_read {rest : Bytes}
    (reads : readLong progress (splitEquals rest).1 (splitEquals rest).2 = .ok after) :
    ArgumentRead progress (hyphen :: hyphen :: rest) after := by
  rcases split : splitEquals rest with ⟨name, held⟩
  rw [split] at reads
  obtain ⟨setting, rfl, taken⟩ := readLong_eq_ok reads
  have isLong : hyphen :: hyphen :: rest =
      longOption setting ++ (held.map (equals :: ·)).getD [] := by
    rw [splitEquals_eq split]
    rfl
  rw [isLong]
  cases held with
  | some value => exact .attached (.attached setting value) taken
  | none =>
      refine .waiting (fun value alone => ?_) taken
      rw [Option.map_none, Option.getD_none, List.append_nil]
      exact .apart setting alone

theorem readLetter_read {rest : Bytes} (reads : readLetter progress rest = .ok after) :
    ArgumentRead progress (hyphen :: rest) after := by
  have covers := (Utf8.read_covers rest).bytes_eq
  unfold readLetter at reads
  split at reads
  · exact absurd reads (help_ne_ok progress)
  · next letter notHelp first =>
      obtain ⟨pieces, isLast⟩ := List.getLast?_eq_some_iff.mp first
      rw [isLast, List.reverse_append, List.reverse_singleton, List.singleton_append,
        List.flatMap_cons, Utf8.Piece.bytes, List.append_assoc] at covers
      split at reads
      · next setting found =>
          have has := ofLetter?_eq_some found
          have isLetter : hyphen :: rest =
              letterOption letter ++ rest.drop (Utf8.encodeChar letter).length := by
            rw [letterOption, List.cons_append, ← covers, List.drop_left]
          have taken := mapError_eq_ok.mp reads
          rw [isLetter]
          generalize rest.drop (Utf8.encodeChar letter).length = behind at taken
          cases behind with
          | nil =>
              refine .waiting (fun value alone => ?_) taken
              rw [List.append_nil]
              exact .letterApart has alone
          | cons first behind =>
              by_cases isEquals : first = equals
              · rw [letterValue, if_pos isEquals] at taken
                rw [isEquals]
                exact .attached (.letterEquals has behind) taken
              · rw [letterValue, if_neg isEquals] at taken
                refine .attached (.letterJoined has (by simp) fun same => ?_) taken
                exact isEquals (Option.some.inj same)
      · cases reads
  · cases reads

/-- One argument is the closing mark, an option with or without a value, or a value. -/
theorem readArgument_read (isOpen : progress.closed = false)
    (reads : readArgument progress argument = .ok after) :
    ArgumentRead progress argument after := by
  unfold readArgument at reads
  rw [isOpen, if_neg Bool.false_ne_true] at reads
  split at reads
  · cases reads
    exact .closing rfl
  · exact readLong_read reads
  · exact readLetter_read reads
  · next notMark notLong notLetter =>
      refine .value ?_ (mapError_eq_ok.mp reads)
      match argument with
      | [] => exact .inl nofun
      | [first] =>
          by_cases isHyphen : first = hyphen
          · exact .inr (by rw [isHyphen])
          · exact .inl fun same => isHyphen (Option.some.inj same)
      | first :: second :: rest =>
          refine .inl fun same => ?_
          exact notLetter second rest (by rw [Option.some.inj same]; rfl)

/-! ## Whole command lines -/

/-- The arguments go on from progress. An option that waits for its value finds it. -/
def Progress.ContinuesBy (progress : Progress) (arguments : List Bytes) : Prop :=
  match progress.pending with
  | some (_, none) => ∃ value rest items,
      arguments = value :: rest ∧ StandsAlone value ∧ Written items rest
  | _ => ∃ items, Written items arguments

theorem Progress.continuesBy_of_settle (settles : progress.settle = .ok after)
    {arguments : List Bytes} (written : ∃ items, Written items arguments) :
    progress.ContinuesBy arguments := by
  obtain ⟨given, _ | ⟨setting, _ | raw⟩, closed⟩ := progress
  · exact written
  · cases settles
  · exact written

/-- After an option nothing is pending but what it waits for itself. -/
theorem Progress.option_eq_ok (isOpen : progress.closed = false) {setting : Setting}
    {attached : Option Bytes} (taken : progress.option setting attached = .ok after) :
    ∃ settled given, progress.settle = .ok settled ∧
      after = ⟨given, if attached.isSome then none else some (setting, none), false⟩ := by
  obtain ⟨settled, settles, later⟩ := bind_eq_ok.mp taken
  rcases progress.settle_cases isOpen with ⟨fault, stops⟩ | ⟨given, settlesAs⟩
  · cases settles.symm.trans stops
  · cases settles.symm.trans settlesAs
    cases attached with
    | none =>
        cases later
        exact ⟨_, given, settles, rfl⟩
    | some raw =>
        have accepted := (Progress.take_ofGiven given ⟨setting, raw⟩).symm.trans later
        obtain ⟨givenAfter, _, rfl⟩ := map_eq_ok.mp accepted
        exact ⟨_, givenAfter, settles, rfl⟩

theorem closed_readArgument (isClosed : progress.closed = true) :
    readArgument progress argument ≠ .ok after := by
  unfold readArgument
  rw [isClosed, if_pos rfl]
  exact nofun

/-- Where reading goes through and nothing is left waiting, items are written down. -/
theorem continuesBy_of_read {arguments : List Bytes} {last settled : Progress}
    (isOpen : progress.closed = false)
    (reads : arguments.foldlM readArgument progress = .ok last)
    (settles : last.settle = .ok settled) : progress.ContinuesBy arguments := by
  induction arguments generalizing progress with
  | nil =>
      cases reads
      exact Progress.continuesBy_of_settle settles ⟨[], .bare .nil⟩
  | cons argument rest ih =>
      rw [List.foldlM_cons, bind_eq_ok] at reads
      obtain ⟨middle, first, later⟩ := reads
      cases readArgument_read isOpen first with
      | closing isMark =>
          -- Nothing is read after the mark, so it is the last argument.
          cases rest with
          | nil =>
              cases later
              obtain ⟨given, _ | ⟨setting, _ | raw⟩, closed⟩ := progress
              · exact ⟨[], isMark ▸ .closed .nil⟩
              · cases settles
              · exact ⟨[], isMark ▸ .closed .nil⟩
          | cons next rest =>
              rw [List.foldlM_cons, bind_eq_ok] at later
              obtain ⟨_, second, -⟩ := later
              exact absurd second (closed_readArgument rfl)
      | @attached _ setting value spells taken =>
          obtain ⟨_, given, settlesFirst, rfl⟩ := Progress.option_eq_ok isOpen taken
          obtain ⟨items, written⟩ := ih rfl later
          exact Progress.continuesBy_of_settle settlesFirst ⟨_, written.cons spells⟩
      | @waiting _ setting spells taken =>
          obtain ⟨_, given, settlesFirst, rfl⟩ := Progress.option_eq_ok isOpen taken
          obtain ⟨value, rest, items, rfl, alone, written⟩ := ih rfl later
          exact Progress.continuesBy_of_settle settlesFirst ⟨_, written.cons (spells value alone)⟩
      | value alone taken =>
          obtain ⟨given, _ | ⟨setting, _ | raw⟩, closed⟩ := progress
          · cases taken
          · cases taken
            have isOpen : closed = false := isOpen
            obtain ⟨items, written⟩ :=
              @ih ⟨given, some (setting, some argument), closed⟩ isOpen later
            exact ⟨argument, rest, items, rfl, alone, written⟩
          · cases taken

theorem Spelled.isOpen {items : List Item} {arguments : List Bytes}
    (spelled : Spelled items arguments) (isOpen : progress.closed = false)
    (reads : arguments.foldlM readArgument progress = .ok after) : after.closed = false := by
  induction spelled generalizing progress with
  | nil =>
      cases reads
      exact isOpen
  | cons spells later ih =>
      rw [List.foldlM_append, bind_eq_ok] at reads
      obtain ⟨middle, first, rest⟩ := reads
      exact ih ((read_item isOpen spells).isOpen middle first) rest

/-- The closing mark at the end changes nothing. -/
theorem read_closed {items : List Item} {arguments : List Bytes} (presets : Presets)
    (spelled : Spelled items arguments) :
    read presets (arguments ++ [closingMark]) = read presets arguments := by
  unfold read
  rw [List.foldlM_append, bind_assoc]
  cases reads : arguments.foldlM readArgument Progress.start with
  | error stop => rfl
  | ok after =>
      have isOpen := spelled.isOpen rfl reads
      have marked :
          [closingMark].foldlM readArgument after = .ok { after with closed := true } := by
        rw [readArguments_single]
        unfold readArgument
        rw [isOpen]
        rfl
      change [closingMark].foldlM readArgument after >>= _ = (finish presets after).mapError _
      rw [marked]
      change (finish presets _).mapError _ = _
      rw [finish_eq, finish_eq, Progress.settled, Progress.settled]
      obtain ⟨given, _ | ⟨setting, _ | raw⟩, closed⟩ := after
      · rfl
      · rfl
      · simp only [Progress.settle, Progress.take]
        split
        · rfl
        · cases setting.accept raw <;> rfl

/-- A command line is read exactly if it is written with admissible items. -/
theorem read_eq_ok_iff_written {presets : Presets} {arguments : List Bytes} {given : List Given} :
    read presets arguments = .ok given ↔
      ∃ items, Written items arguments ∧ Admissible presets items ∧
        Accepted (used presets items) given := by
  constructor
  · intro reads
    obtain ⟨last, readsAll, finishes⟩ := bind_eq_ok.mp reads
    obtain ⟨settled, settles, -⟩ := bind_eq_ok.mp (mapError_eq_ok.mp finishes)
    have isOpen : Progress.start.closed = false := rfl
    obtain ⟨items, written⟩ := continuesBy_of_read isOpen readsAll settles
    refine ⟨items, written, ?_⟩
    cases written with
    | bare spelled => exact (read_eq_ok_iff presets spelled).mp reads
    | closed spelled =>
        rw [read_closed presets spelled] at reads
        exact (read_eq_ok_iff presets spelled).mp reads
  · rintro ⟨items, _ | spelled, accepted⟩
    · next spelled => exact (read_eq_ok_iff presets spelled).mpr accepted
    · rw [read_closed presets spelled]
      exact (read_eq_ok_iff presets spelled).mpr accepted

theorem headerReads_unique : Relator.RightUnique HeaderReads := by
  rintro value first second ⟨text, same, parses⟩ ⟨other, sameToo, parsesToo⟩
  obtain rfl := Utf8.encode_injective (same.trans sameToo.symm)
  exact Except.ok.inj (parses.symm.trans parsesToo)

/-- Items decode to one record of arguments at most. -/
theorem Decodes.unique {items : List Item} {first second : Arguments}
    (decodes : Decodes items first) (decodesToo : Decodes items second) : first = second := by
  have plugin := decodes.plugin.symm.trans decodesToo.plugin
  have symbol := decodes.symbol.trans decodesToo.symbol.symm
  have method := decodes.method.trans decodesToo.method.symm
  have uri := decodes.uri.trans decodesToo.uri.symm
  have headers := List.right_unique_forall₂' headerReads_unique decodes.headers decodesToo.headers
  have body := decodes.body.trans decodesToo.body.symm
  have bodyFile := decodes.bodyFile.trans decodesToo.bodyFile.symm
  obtain ⟨_, _, _, _, _, _, _⟩ := first
  obtain ⟨_, _, _, _, _, _, _⟩ := second
  cases Option.some.inj plugin
  cases Utf8.encode_injective symbol
  cases Utf8.encode_injective method
  cases Utf8.encode_injective uri
  cases headers
  cases Option.map_injective (fun _ _ => Utf8.encode_injective) body
  cases bodyFile
  rfl

theorem Admissible.used_hasPlugin {presets : Presets} {items : List Item}
    (admissible : Admissible presets items) : .plugin ∈ itemSettings (used presets items) :=
  mem_used.mpr (admissible.hasPlugin.imp_right fun given => .inl ⟨rfl, given⟩)

/-- What a command line that is parsed says: its items are admissible, and the arguments are what
they decode to. -/
theorem parse_eq_ok_iff {presets : Presets} {arguments : List Bytes} {parsed : Arguments} :
    Arguments.parse presets arguments = .ok parsed ↔
      ∃ items, Written items arguments ∧ Admissible presets items ∧
        Decodes (used presets items) parsed := by
  simp only [Arguments.parse, map_eq_ok, read_eq_ok_iff_written]
  constructor
  · rintro ⟨given, ⟨items, written, admissible, accepted⟩, rfl⟩
    exact ⟨items, written, admissible, decodes_ofGiven accepted
      (used_repeatless admissible.repeatless) admissible.used_hasPlugin⟩
  · rintro ⟨items, written, admissible, decodes⟩
    obtain ⟨given, accepted⟩ := (exists_accepted_iff _).mpr admissible.proper
    refine ⟨given, ⟨items, written, admissible, accepted⟩, ?_⟩
    exact (decodes_ofGiven accepted (used_repeatless admissible.repeatless)
      admissible.used_hasPlugin).unique decodes

end PluginHost.CommandLine
