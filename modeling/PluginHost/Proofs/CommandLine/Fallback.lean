import PluginHost.Proofs.CommandLine.Written
import PluginHost.Proofs.Runner.Report

/-!
# Variables in the place of options

What the environment gives to a setting means the same as an option that gives it, and is without
meaning for a command line that gives the setting itself.
-/

namespace PluginHost.CommandLine

open PluginHost.Text
open Bytes (hyphen equals)

/-- A setting that falls back on a variable of the environment. -/
inductive Fallback where
  | plugin
  | symbol
  deriving DecidableEq, Repr

namespace Fallback

def setting : Fallback → Setting
  | plugin => .plugin
  | symbol => .symbol

def variableName : Fallback → String
  | plugin => "TRIGGER_PLUGIN"
  | symbol => "TRIGGER_SYMBOL"

/-- The argument that gives a value to the setting. -/
def option (fallback : Fallback) (value : Bytes) : Bytes :=
  longOption fallback.setting ++ equals :: value

end Fallback

namespace Presets

/-- The value for a setting. -/
def value? (presets : Presets) : Setting → Option Bytes
  | .plugin => presets.plugin
  | .symbol => presets.symbol
  | _ => none

def set (presets : Presets) (fallback : Fallback) (value : Option Bytes) : Presets :=
  match fallback with
  | .plugin => { presets with plugin := value }
  | .symbol => { presets with symbol := value }

theorem value?_set (presets : Presets) (fallback : Fallback) (value : Option Bytes)
    (setting : Setting) :
    (presets.set fallback value).value? setting =
      if fallback.setting = setting then value else presets.value? setting := by
  cases fallback <;> cases setting <;> rfl

end Presets

/-! ## Items with those of the environment -/

variable {presets : Presets} {fallback : Fallback} {items later : List Item} {value : Bytes}

theorem valueOf?_append (items rest : List Item) (setting : Setting) :
    valueOf? (items ++ rest) setting = (valueOf? items setting).or (valueOf? rest setting) := by
  rw [valueOf?, List.find?_append, Option.map_or]
  rfl

theorem valueOf?_withPreset (items : List Item) (setting : Setting) (preset : Option Bytes)
    (other : Setting) :
    valueOf? (withPreset items setting preset) other =
      (valueOf? items other).or (if setting = other then preset else none) := by
  cases preset with
  | none => simp [withPreset]
  | some value =>
      rw [withPreset]
      split
      · next given =>
          by_cases same : setting = other
          · obtain ⟨held, found⟩ := Option.ne_none_iff_exists'.mp
              (mt valueOf?_eq_none_iff.mp (not_not_intro (same ▸ given)))
            rw [found, Option.some_or]
          · rw [if_neg same, Option.or_none]
      · rw [valueOf?_append, valueOf?_cons]
        rfl

/-- The command line comes first, and the environment after it. -/
theorem valueOf?_used (presets : Presets) (items : List Item) (setting : Setting) :
    valueOf? (used presets items) setting =
      (valueOf? items setting).or (presets.value? setting) := by
  rw [used, valueOf?_withPreset, valueOf?_withPreset, Option.or_assoc]
  cases setting <;> simp [Presets.value?]

theorem headerValues_withPreset {setting : Setting} (noHeader : setting ≠ .header)
    (items : List Item) (preset : Option Bytes) :
    headerValues (withPreset items setting preset) = headerValues items := by
  cases preset with
  | none => rfl
  | some value =>
      rw [withPreset]
      split
      · rfl
      · simp [headerValues, noHeader]

theorem headerValues_used (presets : Presets) (items : List Item) :
    headerValues (used presets items) = headerValues items := by
  rw [used, headerValues_withPreset (by decide), headerValues_withPreset (by decide)]

theorem mem_withPreset_iff {item : Item} {setting : Setting} {preset : Option Bytes} :
    item ∈ withPreset items setting preset ↔
      item ∈ items ∨
        setting ∉ itemSettings items ∧ item.setting = setting ∧ preset = some item.value := by
  cases preset with
  | none => simp [withPreset]
  | some value =>
      rw [withPreset]
      split
      · next given => simp [given]
      · next fresh =>
          obtain ⟨own, held⟩ := item
          simp [fresh, eq_comm]

theorem mem_used_iff {item : Item} :
    item ∈ used presets items ↔
      item ∈ items ∨
        item.setting ∉ itemSettings items ∧ presets.value? item.setting = some item.value := by
  obtain ⟨setting, value⟩ := item
  rw [used, mem_withPreset_iff, mem_withPreset_iff, mem_withPreset]
  cases setting <;> simp [Presets.value?]

/-- What items decode to depends on the values of single settings and on those of headers. -/
theorem Decodes.congr {first second : List Item} {parsed : Arguments}
    (sameValues : ∀ setting ≠ .header, valueOf? first setting = valueOf? second setting)
    (sameHeaders : headerValues first = headerValues second) (decodes : Decodes first parsed) :
    Decodes second parsed where
  plugin := sameValues .plugin (by decide) ▸ decodes.plugin
  symbol := sameValues .symbol (by decide) ▸ decodes.symbol
  method := sameValues .method (by decide) ▸ decodes.method
  uri := sameValues .uri (by decide) ▸ decodes.uri
  headers := sameHeaders ▸ decodes.headers
  body := sameValues .body (by decide) ▸ decodes.body
  bodyFile := sameValues .bodyFile (by decide) ▸ decodes.bodyFile

/-! ## An option and its variable -/

theorem fallback_single (fallback : Fallback) : fallback.setting ≠ .header := by
  cases fallback <;> decide

/-- An option before other items is admissible exactly if they do not give its setting, too, and are
admissible with its value as the preset. -/
theorem admissible_option_iff :
    Admissible (presets.set fallback none) (⟨fallback.setting, value⟩ :: later) ↔
      fallback.setting ∉ itemSettings later ∧
        Admissible (presets.set fallback (some value)) later := by
  have repeatless : Repeatless (⟨fallback.setting, value⟩ :: later) ↔
      fallback.setting ∉ itemSettings later ∧ Repeatless later := by
    refine List.pairwise_cons.trans (and_congr_left fun _ => ⟨fun apart given => ?_, ?_⟩)
    · obtain ⟨other, member, same⟩ := List.mem_map.mp given
      exact fallback_single fallback (same.symm.trans (apart other member same.symm))
    · intro fresh other member same
      exact absurd (List.mem_map.mpr ⟨other, member, same.symm⟩) fresh
  have hasPlugin : (.plugin ∈ itemSettings (⟨fallback.setting, value⟩ :: later) ∨
        (presets.set fallback none).plugin ≠ none) ↔
      (.plugin ∈ itemSettings later ∨ (presets.set fallback (some value)).plugin ≠ none) := by
    cases fallback <;> simp [itemSettings, Fallback.setting, Presets.set]
  have exclusive : (.body ∈ itemSettings (⟨fallback.setting, value⟩ :: later) ∧
        .bodyFile ∈ itemSettings (⟨fallback.setting, value⟩ :: later)) ↔
      (.body ∈ itemSettings later ∧ .bodyFile ∈ itemSettings later) := by
    cases fallback <;> simp [itemSettings, Fallback.setting]
  have members (fresh : fallback.setting ∉ itemSettings later) (item : Item) :
      item ∈ used (presets.set fallback none) (⟨fallback.setting, value⟩ :: later) ↔
        item ∈ used (presets.set fallback (some value)) later := by
    obtain ⟨setting, held⟩ := item
    simp only [mem_used_iff, Presets.value?_set]
    by_cases same : fallback.setting = setting
    · cases same
      simp [itemSettings, eq_comm, or_comm, show fallback.setting ∉ later.map _ from fresh]
    · simp [itemSettings, same, Ne.symm same]
  constructor
  · rintro ⟨apart, given, free, proper⟩
    obtain ⟨fresh, apart⟩ := repeatless.mp apart
    exact ⟨fresh, apart, hasPlugin.mp given, mt exclusive.mpr free, fun item member =>
      proper item ((members fresh item).mpr member)⟩
  · rintro ⟨fresh, apart, given, free, proper⟩
    exact ⟨repeatless.mpr ⟨fresh, apart⟩, hasPlugin.mpr given, mt exclusive.mp free,
      fun item member => proper item ((members fresh item).mp member)⟩

theorem decodes_option_iff (fresh : fallback.setting ∉ itemSettings later) {parsed : Arguments} :
    Decodes (used (presets.set fallback none) (⟨fallback.setting, value⟩ :: later)) parsed ↔
      Decodes (used (presets.set fallback (some value)) later) parsed := by
  have sameValues (setting : Setting) :
      valueOf? (used (presets.set fallback none) (⟨fallback.setting, value⟩ :: later)) setting =
        valueOf? (used (presets.set fallback (some value)) later) setting := by
    rw [valueOf?_used, valueOf?_used, Presets.value?_set, Presets.value?_set, valueOf?_cons]
    by_cases same : fallback.setting = setting
    · rw [if_pos same, if_pos same, if_pos same, ← same, valueOf?_eq_none_iff.mpr fresh]
      rfl
    · rw [if_neg same, if_neg same, if_neg same]
  have sameHeaders :
      headerValues (used (presets.set fallback none) (⟨fallback.setting, value⟩ :: later)) =
        headerValues (used (presets.set fallback (some value)) later) := by
    rw [headerValues_used, headerValues_used, headerValues_cons, if_neg (fallback_single fallback)]
  exact ⟨.congr (fun setting _ => sameValues setting) sameHeaders,
    .congr (fun setting _ => (sameValues setting).symm) sameHeaders.symm⟩

/-- A setting that items give is not looked for in the environment. -/
theorem withPreset_of_given {setting : Setting} (given : setting ∈ itemSettings items)
    (preset : Option Bytes) : withPreset items setting preset = items := by
  cases preset with
  | none => rfl
  | some value => exact if_pos given

theorem used_set_of_given (given : fallback.setting ∈ itemSettings items)
    (first second : Option Bytes) :
    used (presets.set fallback first) items = used (presets.set fallback second) items := by
  cases fallback with
  | plugin =>
      exact congrArg (withPreset · .symbol presets.symbol)
        ((withPreset_of_given given first).trans (withPreset_of_given given second).symm)
  | symbol =>
      have stays : .symbol ∈ itemSettings (withPreset items .plugin presets.plugin) :=
        mem_withPreset.mpr (.inl given)
      exact (withPreset_of_given stays first).trans (withPreset_of_given stays second).symm

theorem Admissible.set_of_given {first : Option Bytes}
    (admissible : Admissible (presets.set fallback first) items)
    (given : fallback.setting ∈ itemSettings items) (second : Option Bytes) :
    Admissible (presets.set fallback second) items where
  repeatless := admissible.repeatless
  hasPlugin := by
    cases fallback with
    | plugin => exact .inl given
    | symbol => exact admissible.hasPlugin
  exclusive := admissible.exclusive
  proper := used_set_of_given given first second ▸ admissible.proper

/-! ## Command lines -/

theorem setting_eq_of_name {first second : Setting} (same : first.name = second.name) :
    first = second := by
  cases first <;> cases second <;> first | rfl | exact absurd same (by decide)

/-- An option with its value attached spells nothing else. -/
theorem Item.Spells.of_option {item : Item} {first behind rest : List Bytes}
    (spells : item.Spells first) (same : first ++ behind = fallback.option value :: rest) :
    item = ⟨fallback.setting, value⟩ ∧ behind = rest := by
  have ofLong {setting : Setting} {held : Bytes} (long : longOption setting ++ held =
      fallback.option value) :
      splitEquals (Utf8.encode setting.name ++ held) =
        (Utf8.encode fallback.setting.name, some value) := by
    rw [← splitEquals_attached (name_noEquals _) value]
    exact congrArg splitEquals (List.cons.inj (List.cons.inj long).2).2
  have noLetter {setting : Setting} {letter : Char} (has : setting.letter? = some letter)
      {held : Bytes} : letterOption letter ++ held ≠ fallback.option value := by
    obtain ⟨byte, single, encoded⟩ := encodeChar_letter has
    intro letters
    rw [letterOption, encoded] at letters
    exact single (List.cons.inj (List.cons.inj letters).2).1
  obtain ⟨argument, others⟩ : ∃ head tail, first = head :: tail := by
    cases spells <;> exact ⟨_, _, rfl⟩
  cases spells with
  | attached setting held =>
      obtain ⟨long, rfl⟩ := List.cons.inj same
      have parts := ofLong long
      rw [splitEquals_attached (name_noEquals setting)] at parts
      obtain ⟨sameName, sameValue⟩ := Prod.mk.inj parts
      cases setting_eq_of_name (Utf8.encode_injective sameName)
      cases sameValue
      exact ⟨rfl, rfl⟩
  | apart setting alone =>
      have parts := ofLong ((List.append_nil _).trans (List.cons.inj same).1)
      rw [List.append_nil, splitEquals_bare (name_noEquals setting)] at parts
      cases (Prod.mk.inj parts).2
  | letterEquals has held => exact absurd (List.cons.inj same).1 (noLetter has)
  | letterJoined has visible plain => exact absurd (List.cons.inj same).1 (noLetter has)
  | letterApart has alone =>
      exact absurd ((List.append_nil _).trans (List.cons.inj same).1) (noLetter has)

theorem option_ne_closingMark : fallback.option value ≠ closingMark := by
  cases fallback <;> exact fun same => nomatch same

theorem written_option_iff {rest : List Bytes} :
    Written items (fallback.option value :: rest) ↔
      ∃ later, items = ⟨fallback.setting, value⟩ :: later ∧ Written later rest := by
  constructor
  · intro written
    generalize whole : fallback.option value :: rest = arguments at written
    cases written with
    | bare spelled =>
        cases spelled with
        | nil => cases whole
        | cons spells later =>
            obtain ⟨rfl, rfl⟩ := spells.of_option whole.symm
            exact ⟨_, rfl, .bare later⟩
    | closed spelled =>
        cases spelled with
        | nil => exact absurd (List.cons.inj whole).1 option_ne_closingMark
        | cons spells later =>
            obtain ⟨rfl, rfl⟩ := spells.of_option ((List.append_assoc ..).symm.trans whole.symm)
            exact ⟨_, rfl, .closed later⟩
  · rintro ⟨later, rfl, written⟩
    exact written.cons (.attached fallback.setting value)

variable {rest : List Bytes} {parsed : Arguments}

/-- Parsing with the option goes well exactly if parsing with the preset does, and the command line
does not give the setting once more. -/
theorem parse_option_iff :
    Arguments.parse (presets.set fallback none) (fallback.option value :: rest) = .ok parsed ↔
      ∃ items, Written items rest ∧ fallback.setting ∉ itemSettings items ∧
        Admissible (presets.set fallback (some value)) items ∧
          Decodes (used (presets.set fallback (some value)) items) parsed := by
  simp only [parse_eq_ok_iff, written_option_iff]
  constructor
  · rintro ⟨_, ⟨items, rfl, written⟩, admissible, decodes⟩
    obtain ⟨fresh, admissible⟩ := admissible_option_iff.mp admissible
    exact ⟨items, written, fresh, admissible, (decodes_option_iff fresh).mp decodes⟩
  · rintro ⟨items, written, fresh, admissible, decodes⟩
    exact ⟨_, ⟨items, rfl, written⟩, admissible_option_iff.mpr ⟨fresh, admissible⟩,
      (decodes_option_iff fresh).mpr decodes⟩

theorem parse_preset_of_option
    (parses : Arguments.parse (presets.set fallback none) (fallback.option value :: rest) =
      .ok parsed) :
    Arguments.parse (presets.set fallback (some value)) rest = .ok parsed := by
  obtain ⟨items, written, -, admissible, decodes⟩ := parse_option_iff.mp parses
  exact parse_eq_ok_iff.mpr ⟨items, written, admissible, decodes⟩

/-- A preset stands for its option, or is not used at all. -/
theorem parse_option_or_ignored
    (parses : Arguments.parse (presets.set fallback (some value)) rest = .ok parsed) :
    Arguments.parse (presets.set fallback none) (fallback.option value :: rest) = .ok parsed ∨
      ∀ other, Arguments.parse (presets.set fallback other) rest = .ok parsed := by
  obtain ⟨items, written, admissible, decodes⟩ := parse_eq_ok_iff.mp parses
  by_cases given : fallback.setting ∈ itemSettings items
  · refine .inr fun other => parse_eq_ok_iff.mpr ⟨items, written, ?_, ?_⟩
    · exact admissible.set_of_given given other
    · exact used_set_of_given given (some value) other ▸ decodes
  · exact .inl (parse_option_iff.mpr ⟨items, written, given, admissible, decodes⟩)

end PluginHost.CommandLine

namespace PluginHost

open CommandLine (Fallback)
open Text

namespace Environment

/-- The environment with a variable set to a value, or without the variable. -/
def set (environment : Environment) (name : String) (value : Option Bytes) : Environment :=
  let others := environment.filter fun entry => entry.1 ≠ name
  match value with
  | none => others
  | some value => (name, value) :: others

theorem find?_cons (name : String) (value : Bytes) (rest : Environment) (other : String) :
    find? ((name, value) :: rest) other =
      if other = name then some value else rest.find? other := by
  rw [find?, List.lookup_cons]
  by_cases same : other = name
  · simp [same]
  · rw [if_neg same, beq_false_of_ne same, find?]

theorem find?_set (environment : Environment) (name : String) (value : Option Bytes)
    (other : String) :
    (environment.set name value).find? other =
      if other = name then value else environment.find? other := by
  have others : find? (environment.filter fun entry => entry.1 ≠ name) other =
      if other = name then none else environment.find? other := by
    induction environment with
    | nil => exact (ite_self none).symm
    | cons entry rest ih =>
        obtain ⟨own, held⟩ := entry
        rw [find?_cons, List.filter_cons]
        by_cases isName : own = name
        · rw [if_neg (by simp [isName]), ih, isName]
          split <;> rfl
        · rw [if_pos (by simp [isName]), find?_cons, ih]
          by_cases isOther : other = own
          · rw [if_pos isOther, if_pos isOther, if_neg (isOther ▸ isName)]
          · rw [if_neg isOther, if_neg isOther]
  cases value with
  | none => exact others
  | some value =>
      rw [set, find?_cons, others]
      split <;> rfl

end Environment

namespace Situation

/-- What is parsed when the program is called by a name, with arguments and an environment. -/
def parsedFrom (situation : Situation) (name : Bytes) (arguments : List Bytes)
    (environment : Environment) : Except CommandLine.Stop Arguments :=
  parsed { situation with arguments := name :: arguments, environment := environment }

theorem presets_set (situation : Situation) (environment : Environment) (fallback : Fallback)
    (value : Option Bytes) :
    presets { situation with environment := environment.set fallback.variableName value } =
      (presets { situation with environment := environment }).set fallback value := by
  cases fallback <;>
    simp [presets, Environment.find?_set, CommandLine.Presets.set, Fallback.variableName]

/-- A variable of the environment means the same as the option in whose place it stands, and the
command line overrides it. No other variable has a say in what is parsed. -/
theorem parsed_fallback (situation : Situation) (fallback : Fallback) (environment : Environment)
    (name value : Bytes) (rest : List Bytes) :
    let withOption := situation.parsedFrom name (fallback.option value :: rest)
      (environment.set fallback.variableName none)
    let withVariable (value : Option Bytes) := situation.parsedFrom name rest
      (environment.set fallback.variableName value)
    (∀ parsed, withOption = .ok parsed → withVariable (some value) = .ok parsed) ∧
      (∀ parsed, withVariable (some value) = .ok parsed →
        withOption = .ok parsed ∨ ∀ other, withVariable other = .ok parsed) ∧
      ∀ first second : Environment,
        (∀ fallback : Fallback,
          first.find? fallback.variableName = second.find? fallback.variableName) →
        situation.parsedFrom name rest first = situation.parsedFrom name rest second := by
  have parses (arguments : List Bytes) (value : Option Bytes) :
      situation.parsedFrom name arguments (environment.set fallback.variableName value) =
        Arguments.parse ((presets { situation with environment }).set fallback value)
          arguments := by
    rw [← presets_set]
    rfl
  simp only [parses]
  refine ⟨fun _ => CommandLine.parse_preset_of_option,
    fun _ => CommandLine.parse_option_or_ignored, fun first second same => ?_⟩
  have samePresets : presets { situation with environment := first } =
      presets { situation with environment := second } :=
    congrArg₂ CommandLine.Presets.mk (same .plugin) (same .symbol)
  exact congrArg (Arguments.parse · rest) samePresets

/-- An empty symbol, called for by a variable. -/
theorem parsed_fallback_empty :
    loggingSituation.parsedFrom [] (["-X", "A"].map Utf8.encode)
        (loggingSituation.environment.set "TRIGGER_SYMBOL" (some [])) =
      .ok ⟨Utf8.encode "/p.so", "", "A", "/", [], none, none⟩ := by
  refine (parsed_fallback loggingSituation .symbol loggingSituation.environment [] []
    (["-X", "A"].map Utf8.encode)).1 _ ?_
  with_unfolding_all rfl

end Situation

end PluginHost
