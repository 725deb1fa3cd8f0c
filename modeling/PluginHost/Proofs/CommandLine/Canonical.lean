import PluginHost.Proofs.CommandLine.Fallback
import PluginHost.Proofs.Header

/-!
# Canonical command lines

What is parsed is well-formed, however it was written and wherever it came from. Well-formed
arguments have a command line of their own, with each value attached to its option's name, and that
is parsed as nothing but them.
-/

namespace PluginHost

open PluginHost.Text

namespace Header

/-- The text of a header with one blank, after the colon. -/
def line (header : Header) : String := header.name ++ ": " ++ header.value

def oneBlank : Padding where
  beforeName := ⟨"", by decide⟩
  afterName := ⟨"", by decide⟩
  beforeValue := ⟨" ", by decide⟩
  afterValue := ⟨"", by decide⟩

theorem written_oneBlank (header : Header) : header.written oneBlank = header.line := by
  refine String.toList_inj.mp ?_
  rw [toList_written, line]
  simp [oneBlank]

theorem parse_line {header : Header} (proper : header.Proper) :
    parse header.line = .ok header := by
  rw [← written_oneBlank]
  exact parse_written proper oneBlank

end Header

/-- Arguments that can be given: paths name something, only one of body and body file is there, and
headers are as reading leaves them. -/
structure Arguments.WellFormed (arguments : Arguments) : Prop where
  plugin : arguments.plugin ≠ []
  bodyFile : arguments.bodyFile ≠ some []
  exclusive : arguments.body = none ∨ arguments.bodyFile = none
  headers : ∀ header ∈ arguments.headers, header.Proper

namespace CommandLine

open Bytes (equals)

variable {presets : Presets} {items : List Item} {arguments : Arguments} {setting : Setting}
  {value : Bytes}

/-! ## What is parsed -/

theorem HeaderReads.proper {header : Header} (reads : HeaderReads value header) :
    header.Proper := by
  obtain ⟨_, _, parses⟩ := reads
  exact (Header.exists_written parses).1

theorem mem_of_valueOf?_eq_some (found : valueOf? items setting = some value) :
    ⟨setting, value⟩ ∈ items := by
  obtain ⟨item, first, rfl⟩ := Option.map_eq_some_iff.mp found
  have same : item.setting = setting := by simpa using List.find?_some first
  rw [← same]
  exact List.mem_of_find?_eq_some first

theorem Decodes.headers_proper (decodes : Decodes items arguments) :
    ∀ header ∈ arguments.headers, header.Proper := by
  have reads : arguments.headers.Forall₂ (fun header value => header.Proper ∧
      HeaderReads value header) (headerValues items) :=
    List.Forall₂.flip (decodes.headers.imp fun _ _ reads => ⟨reads.proper, reads⟩)
  exact ((List.forall₂_and_left _ _).mp reads).1

/-- Admissible items decode to well-formed arguments, those of the environment included. -/
theorem Admissible.wellFormed (admissible : Admissible presets items)
    (decodes : Decodes (used presets items) arguments) : arguments.WellFormed where
  plugin := admissible.proper _ (mem_of_valueOf?_eq_some decodes.plugin)
  bodyFile := by
    intro isEmpty
    have found := decodes.bodyFile.symm.trans isEmpty
    exact admissible.proper _ (mem_of_valueOf?_eq_some found) rfl
  exclusive := by
    have absent {setting : Setting} (fallsBack : presets.value? setting = none)
        (free : setting ∉ itemSettings items) : valueOf? (used presets items) setting = none := by
      rw [valueOf?_used, fallsBack, valueOf?_eq_none_iff.mpr free]
      rfl
    by_cases hasBody : .body ∈ itemSettings items
    · have noFile : .bodyFile ∉ itemSettings items := fun hasFile =>
        admissible.exclusive ⟨hasBody, hasFile⟩
      exact .inr (decodes.bodyFile.trans (absent rfl noFile))
    · exact .inl (Option.map_eq_none_iff.mp (decodes.body.trans (absent rfl hasBody)))
  headers := decodes.headers_proper

/-! ## Items of arguments -/

/-- The values that arguments hold for a setting. -/
def valuesFor (arguments : Arguments) : Setting → List Bytes
  | .header => arguments.headers.map fun header => Utf8.encode header.line
  | setting => (fieldBytes arguments setting).toList

/-- What arguments hold, setting by setting. -/
def itemsOf (arguments : Arguments) : List Item :=
  Setting.all.flatMap fun setting => (valuesFor arguments setting).map (Item.mk setting)

theorem valuesFor_single (single : setting ≠ .header) :
    valuesFor arguments setting = (fieldBytes arguments setting).toList := by
  cases setting with
  | header => exact absurd rfl single
  | _ => rfl

theorem mem_all (setting : Setting) : setting ∈ Setting.all := by
  cases setting <;> decide

theorem mem_itemsOf {item : Item} :
    item ∈ itemsOf arguments ↔ item.value ∈ valuesFor arguments item.setting := by
  obtain ⟨setting, value⟩ := item
  simp [itemsOf, mem_all]

theorem mem_itemSettings_itemsOf :
    setting ∈ itemSettings (itemsOf arguments) ↔ valuesFor arguments setting ≠ [] := by
  rw [itemSettings, List.mem_map]
  constructor
  · rintro ⟨item, member, rfl⟩
    exact List.ne_nil_of_mem (mem_itemsOf.mp member)
  · intro held
    obtain ⟨value, member⟩ := List.exists_mem_of_ne_nil _ held
    exact ⟨⟨setting, value⟩, mem_itemsOf.mpr member, rfl⟩

/-- The items for a setting are its values. -/
theorem filter_itemsOf (arguments : Arguments) (setting : Setting) :
    (itemsOf arguments).filter (fun item => item.setting = setting) =
      (valuesFor arguments setting).map (Item.mk setting) := by
  have own (other : Setting) :
      ((valuesFor arguments other).map (Item.mk other)).filter
          (fun item => item.setting = setting) =
        if other = setting then (valuesFor arguments other).map (Item.mk other) else [] := by
    by_cases same : other = setting
    · simp [same]
    · simp [same]
  rw [itemsOf, List.filter_flatMap]
  simp only [own, Setting.all]
  cases setting <;> simp

theorem valueOf?_itemsOf (single : setting ≠ .header) :
    valueOf? (itemsOf arguments) setting = fieldBytes arguments setting := by
  rw [valueOf?, ← List.head?_filter, filter_itemsOf, valuesFor_single single]
  cases fieldBytes arguments setting <;> rfl

theorem headerValues_itemsOf (arguments : Arguments) :
    headerValues (itemsOf arguments) =
      arguments.headers.map fun header => Utf8.encode header.line := by
  rw [headerValues, filter_itemsOf, List.map_map]
  exact List.map_id _

theorem itemsOf_repeatless (arguments : Arguments) : Repeatless (itemsOf arguments) := by
  refine List.pairwise_flatMap.mpr ⟨fun setting _ => ?_, ?_⟩
  · rw [List.pairwise_map]
    by_cases isHeader : setting = .header
    · exact List.pairwise_of_forall fun _ _ _ => isHeader
    · rw [valuesFor_single isHeader]
      cases fieldBytes arguments setting with
      | none => exact .nil
      | some value => exact List.pairwise_singleton _ _
  · have distinct : Setting.all.Pairwise (· ≠ ·) := by decide
    refine distinct.imp fun {first second} apart earlier member later memberLater same => ?_
    obtain ⟨_, _, rfl⟩ := List.mem_map.mp member
    obtain ⟨_, _, rfl⟩ := List.mem_map.mp memberLater
    exact absurd same apart

theorem headerReads_line {header : Header} (proper : header.Proper) :
    HeaderReads (Utf8.encode header.line) header :=
  ⟨header.line, rfl, Header.parse_line proper⟩

theorem itemsOf_proper (wellFormed : arguments.WellFormed) {item : Item}
    (member : item ∈ itemsOf arguments) : item.Proper := by
  obtain ⟨setting, value⟩ := item
  have held := mem_itemsOf.mp member
  cases setting with
  | plugin =>
      obtain rfl := List.mem_singleton.mp held
      exact wellFormed.plugin
  | symbol | method | uri => exact ⟨_, (List.mem_singleton.mp held).symm⟩
  | header =>
      obtain ⟨header, listed, same⟩ := List.mem_map.mp held
      exact ⟨header, same ▸ headerReads_line (wellFormed.headers header listed)⟩
  | body =>
      obtain ⟨text, _, same⟩ := Option.map_eq_some_iff.mp (Option.mem_toList.mp held)
      exact ⟨text, same⟩
  | bodyFile =>
      rintro rfl
      exact wellFormed.bodyFile (Option.mem_toList.mp held)

theorem decodes_itemsOf (wellFormed : arguments.WellFormed) :
    Decodes (itemsOf arguments) arguments where
  plugin := valueOf?_itemsOf (by decide)
  symbol := by
    rw [valueOf?_itemsOf (by decide)]
    rfl
  method := by
    rw [valueOf?_itemsOf (by decide)]
    rfl
  uri := by
    rw [valueOf?_itemsOf (by decide)]
    rfl
  headers := by
    rw [headerValues_itemsOf, List.forall₂_map_left_iff, List.forall₂_same]
    exact fun header listed => headerReads_line (wellFormed.headers header listed)
  body := by
    rw [valueOf?_itemsOf (by decide)]
    rfl
  bodyFile := by
    rw [valueOf?_itemsOf (by decide)]
    rfl

/-- Plugin and symbol are always among the items, so nothing comes from the environment. -/
theorem used_itemsOf (presets : Presets) (arguments : Arguments) :
    used presets (itemsOf arguments) = itemsOf arguments := by
  have plugin : .plugin ∈ itemSettings (itemsOf arguments) :=
    mem_itemSettings_itemsOf.mpr (List.cons_ne_nil _ _)
  have symbol : .symbol ∈ itemSettings (itemsOf arguments) :=
    mem_itemSettings_itemsOf.mpr (List.cons_ne_nil _ _)
  rw [used, withPreset_of_given plugin, withPreset_of_given symbol]

theorem admissible_itemsOf (presets : Presets) (wellFormed : arguments.WellFormed) :
    Admissible presets (itemsOf arguments) where
  repeatless := itemsOf_repeatless arguments
  hasPlugin := .inl (mem_itemSettings_itemsOf.mpr (List.cons_ne_nil _ _))
  exclusive := by
    rintro ⟨hasBody, hasFile⟩
    rcases wellFormed.exclusive with noBody | noFile
    · refine mem_itemSettings_itemsOf.mp hasBody ?_
      rw [valuesFor_single (by decide), fieldBytes, noBody]
      rfl
    · refine mem_itemSettings_itemsOf.mp hasFile ?_
      rw [valuesFor_single (by decide), fieldBytes, noFile]
      rfl
  proper := by
    rw [used_itemsOf]
    exact fun _ => itemsOf_proper wellFormed

/-! ## Command lines -/

/-- The argument in which the value is attached to the option's name. -/
def Item.argument (item : Item) : Bytes := longOption item.setting ++ equals :: item.value

theorem spelled_argument (items : List Item) : Spelled items (items.map Item.argument) := by
  induction items with
  | nil => exact .nil
  | cons item _ ih => exact .cons (.attached item.setting item.value) ih

end CommandLine

open CommandLine (Presets)

/-- The command line that gives all that arguments hold, setting by setting. -/
def Arguments.canonical (arguments : Arguments) : List Bytes :=
  (CommandLine.itemsOf arguments).map CommandLine.Item.argument

theorem Arguments.wellFormed_of_parse {presets : Presets} {given : List Bytes}
    {arguments : Arguments} (parses : parse presets given = .ok arguments) :
    arguments.WellFormed := by
  obtain ⟨_, _, admissible, decodes⟩ := CommandLine.parse_eq_ok_iff.mp parses
  exact admissible.wellFormed decodes

/-- The canonical command line is parsed as what it is made from exactly if that is well-formed. -/
theorem Arguments.parse_canonical_iff (presets : Presets) {arguments : Arguments} :
    parse presets arguments.canonical = .ok arguments ↔ arguments.WellFormed := by
  refine ⟨wellFormed_of_parse, fun wellFormed => CommandLine.parse_eq_ok_iff.mpr ?_⟩
  refine ⟨_, .bare (CommandLine.spelled_argument _),
    CommandLine.admissible_itemsOf presets wellFormed, ?_⟩
  rw [CommandLine.used_itemsOf]
  exact CommandLine.decodes_itemsOf wellFormed

namespace Situation

/-- Whatever the command line and the environment are, what is parsed from them is well-formed.
Well-formed arguments are those that are parsed again from their canonical command line, in every
environment, be it an empty one. -/
theorem parsed_again (situation : Situation) (arguments : Arguments) :
    (situation.parsed = .ok arguments → arguments.WellFormed) ∧
      (arguments.WellFormed ↔ ∀ name environment,
        situation.parsedFrom name arguments.canonical environment = .ok arguments) := by
  refine ⟨Arguments.wellFormed_of_parse, fun wellFormed name environment => ?_, fun parses => ?_⟩
  · exact (Arguments.parse_canonical_iff _).mpr wellFormed
  · exact (Arguments.parse_canonical_iff _).mp (parses [] [])

/-- Blanks around a header, a value that looks like an option, and a plugin from the
environment. -/
def mixedSituation : Situation :=
  { loggingSituation with
    arguments := ["runner", "-H \tA :b ", "--body=--uri", "-X", "", "--"].map Utf8.encode }

def mixedParsed : Arguments :=
  ⟨Utf8.encode "/p.so", "trigger", "", "/", [⟨"A", "b"⟩], some "--uri", none⟩

theorem parsed_again_mixed :
    mixedSituation.parsed = .ok mixedParsed ∧ mixedParsed.WellFormed ∧
      mixedSituation.parsedFrom [] (["--plugin=/p.so", "--symbol=trigger", "--method=", "--uri=/",
        "--header=A: b", "--body=--uri"].map Utf8.encode) [] = .ok mixedParsed := by
  have parses : mixedSituation.parsed = .ok mixedParsed := by
    with_unfolding_all rfl
  obtain ⟨isWellFormed, again⟩ := parsed_again mixedSituation mixedParsed
  exact ⟨parses, isWellFormed parses, again.mp (isWellFormed parses) [] []⟩

end Situation

end PluginHost
