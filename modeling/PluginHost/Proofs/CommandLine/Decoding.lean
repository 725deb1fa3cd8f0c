import PluginHost.CommandLine.Arguments
import PluginHost.Proofs.CommandLine.Admission

/-!
# Decoding

The arguments that a command line stands for. Each field holds the bytes of the one value for it,
and the headers are those of the command line in their order.
-/

namespace PluginHost.CommandLine

open PluginHost.Text
open PluginHost.Outcome (map_eq_ok)

/-- The first value for a setting. -/
def valueOf? (items : List Item) (setting : Setting) : Option Bytes :=
  (items.find? fun item => item.setting = setting).map Item.value

/-- The values for headers, in order. -/
def headerValues (items : List Item) : List Bytes :=
  (items.filter fun item => item.setting = .header).map Item.value

/-- Arguments hold what items say, byte for byte, and defaults for all else. -/
structure Decodes (items : List Item) (arguments : Arguments) : Prop where
  plugin : valueOf? items .plugin = some arguments.plugin
  symbol : Utf8.encode arguments.symbol = (valueOf? items .symbol).getD (Utf8.encode "trigger")
  method : Utf8.encode arguments.method = (valueOf? items .method).getD (Utf8.encode "GET")
  uri : Utf8.encode arguments.uri = (valueOf? items .uri).getD (Utf8.encode "/")
  headers : (headerValues items).Forall₂ HeaderReads arguments.headers
  body : arguments.body.map Utf8.encode = valueOf? items .body
  bodyFile : arguments.bodyFile = valueOf? items .bodyFile

/-! ## Single values -/

/-- The bytes that a setting but for headers has in arguments. -/
def fieldBytes (arguments : Arguments) : Setting → Option Bytes
  | .plugin => some arguments.plugin
  | .symbol => some (Utf8.encode arguments.symbol)
  | .method => some (Utf8.encode arguments.method)
  | .uri => some (Utf8.encode arguments.uri)
  | .header => none
  | .body => arguments.body.map Utf8.encode
  | .bodyFile => arguments.bodyFile

/-- Putting an accepted value gives its bytes to its field, and leaves the others. -/
theorem fieldBytes_put {item : Item} {value : Given} (accepts : Accepts item value)
    (arguments : Arguments) {setting : Setting} (single : setting ≠ .header) :
    fieldBytes (arguments.put value) setting =
      if item.setting = setting then some item.value else fieldBytes arguments setting := by
  obtain ⟨own, raw⟩ := item
  cases own with
  | plugin | bodyFile =>
      simp only [Accepts, Setting.accept] at accepts
      split at accepts <;> cases accepts
      cases setting <;> rfl
  | symbol | method | uri | body =>
      obtain ⟨text, decoded, rfl⟩ := map_eq_ok.mp accepts
      obtain rfl := textValue_eq_ok_iff.mp decoded
      cases setting <;> rfl
  | header =>
      obtain ⟨header, -, rfl⟩ := accept_header_eq_ok_iff.mp accepts
      rw [if_neg single.symm]
      cases setting <;> rfl

theorem valueOf?_cons (item : Item) (rest : List Item) (setting : Setting) :
    valueOf? (item :: rest) setting =
      if item.setting = setting then some item.value else valueOf? rest setting := by
  rw [valueOf?, List.find?_cons]
  by_cases same : item.setting = setting <;> simp [same, valueOf?]

theorem valueOf?_eq_none_iff {items : List Item} {setting : Setting} :
    valueOf? items setting = none ↔ setting ∉ itemSettings items := by
  rw [valueOf?, Option.map_eq_none_iff, List.find?_eq_none]
  simp [itemSettings]

/-- Since single settings come once, each field holds the one value for it, or what it held. -/
theorem fieldBytes_foldl_put {items : List Item} {given : List Given}
    (accepted : Accepted items given) (repeatless : Repeatless items) {setting : Setting}
    (single : setting ≠ .header) (arguments : Arguments) :
    fieldBytes (given.foldl Arguments.put arguments) setting =
      (valueOf? items setting).or (fieldBytes arguments setting) := by
  induction accepted generalizing arguments with
  | nil => rfl
  | @cons item value rest _ accepts _ ih =>
      obtain ⟨apart, repeatless⟩ := List.pairwise_cons.mp repeatless
      rw [List.foldl_cons, ih repeatless, fieldBytes_put accepts _ single, valueOf?_cons]
      by_cases same : item.setting = setting
      · have absent : setting ∉ itemSettings rest := fun member => by
          obtain ⟨other, inRest, sameToo⟩ := List.mem_map.mp member
          exact single (sameToo.symm.trans (apart other inRest (same.trans sameToo.symm)))
        rw [if_pos same, if_pos same, valueOf?_eq_none_iff.mpr absent]
        rfl
      · rw [if_neg same, if_neg same]

/-! ## Headers -/

theorem headerValues_cons (item : Item) (rest : List Item) :
    headerValues (item :: rest) =
      if item.setting = .header then item.value :: headerValues rest else headerValues rest := by
  by_cases isHeader : item.setting = .header <;> simp [headerValues, isHeader]

theorem headers_put {value : Given} (noHeader : value.setting ≠ .header) (arguments : Arguments) :
    (arguments.put value).headers = arguments.headers := by
  cases value with
  | header => exact absurd rfl noHeader
  | _ => rfl

theorem headers_foldl_put {items : List Item} {given : List Given}
    (accepted : Accepted items given) (arguments : Arguments) :
    ∃ headers, (given.foldl Arguments.put arguments).headers = arguments.headers ++ headers ∧
      (headerValues items).Forall₂ HeaderReads headers := by
  induction accepted generalizing arguments with
  | nil => exact ⟨[], (List.append_nil _).symm, .nil⟩
  | @cons item value rest _ accepts _ ih =>
      obtain ⟨headers, held, reads⟩ := ih (arguments.put value)
      rw [List.foldl_cons, held, headerValues_cons]
      by_cases isHeader : item.setting = .header
      · obtain ⟨setting, raw⟩ := item
        cases isHeader
        obtain ⟨header, readsFirst, rfl⟩ := accept_header_eq_ok_iff.mp accepts
        exact ⟨header :: headers, List.append_assoc .., .cons readsFirst reads⟩
      · rw [if_neg isHeader, headers_put (accepts.setting ▸ isHeader)]
        exact ⟨headers, rfl, reads⟩

/-! ## Whole command lines -/

theorem decodes_ofGiven {items : List Item} {given : List Given} (accepted : Accepted items given)
    (repeatless : Repeatless items) (hasPlugin : .plugin ∈ itemSettings items) :
    Decodes items (.ofGiven given) := by
  have field (setting : Setting) (single : setting ≠ .header) :=
    fieldBytes_foldl_put accepted repeatless single (.ofPlugin [])
  obtain ⟨headers, held, reads⟩ := headers_foldl_put accepted (.ofPlugin [])
  refine ⟨?_, ?_, ?_, ?_, ?_, ?_, ?_⟩
  · have path := field .plugin (by decide)
    cases found : valueOf? items .plugin with
    | none => exact absurd hasPlugin (valueOf?_eq_none_iff.mp found)
    | some value =>
        rw [found] at path
        exact path.symm
  · exact Option.some.inj ((field .symbol (by decide)).trans Option.or_some)
  · exact Option.some.inj ((field .method (by decide)).trans Option.or_some)
  · exact Option.some.inj ((field .uri (by decide)).trans Option.or_some)
  · exact held ▸ reads
  · exact (field .body (by decide)).trans Option.or_none
  · exact (field .bodyFile (by decide)).trans Option.or_none

/-- However the items are spelled, in whatever order, parsing succeeds exactly if they are
admissible, and then the arguments hold what they say. -/
theorem parse_spelled (presets : Presets) {items : List Item} {arguments : List Bytes}
    (spelled : Spelled items arguments) :
    ((∃ parsed, Arguments.parse presets arguments = .ok parsed) ↔ Admissible presets items) ∧
      ∀ parsed, Arguments.parse presets arguments = .ok parsed →
        Decodes (used presets items) parsed := by
  have parses {parsed : Arguments} : Arguments.parse presets arguments = .ok parsed ↔
      Admissible presets items ∧
        ∃ given, Accepted (used presets items) given ∧ .ofGiven given = parsed := by
    simp only [Arguments.parse, map_eq_ok, read_eq_ok_iff presets spelled, and_assoc,
      exists_and_left]
  refine ⟨⟨?_, ?_⟩, ?_⟩
  · rintro ⟨parsed, done⟩
    exact (parses.mp done).1
  · intro admissible
    obtain ⟨given, accepted⟩ := (exists_accepted_iff _).mpr admissible.proper
    exact ⟨_, parses.mpr ⟨admissible, given, accepted, rfl⟩⟩
  · intro parsed done
    obtain ⟨admissible, given, accepted, rfl⟩ := parses.mp done
    exact decodes_ofGiven accepted (used_repeatless admissible.repeatless)
      (mem_used.mpr (admissible.hasPlugin.imp_right fun given => .inl ⟨rfl, given⟩))

/-- Values that look like something else. -/
def mixedItems : List Item :=
  [⟨.header, Utf8.encode "A:b"⟩, ⟨.plugin, Utf8.encode "-"⟩, ⟨.method, Utf8.encode "="⟩,
    ⟨.symbol, []⟩, ⟨.header, Utf8.encode "C: "⟩, ⟨.body, Utf8.encode "--help"⟩]

def mixedArguments : List Bytes :=
  ["-HA:b", "--plugin", "-", "-X==", "--symbol", "", "-H", "C: ", "--body=--help"].map Utf8.encode

theorem mixed_spelled : Spelled mixedItems mixedArguments :=
  .cons (.letterJoined rfl (by decide) (by decide)) <|
    .cons (.apart .plugin (.inr (by decide))) <|
    .cons (.letterEquals rfl _) <|
    .cons (@Item.Spells.apart .symbol [] (.inl (by decide))) <|
    .cons (@Item.Spells.letterApart .header 'H' rfl (Utf8.encode "C: ") (.inl (by decide))) <|
    .cons (.attached .body _) .nil

theorem parse_spelled_mixed :
    ∃ parsed, Arguments.parse ⟨none, some [255]⟩ mixedArguments = .ok parsed ∧
      Decodes (used ⟨none, some [255]⟩ mixedItems) parsed := by
  obtain ⟨_, decodes⟩ := parse_spelled ⟨none, some [255]⟩ mixed_spelled
  exact ⟨_, rfl, decodes _ rfl⟩

end PluginHost.CommandLine
