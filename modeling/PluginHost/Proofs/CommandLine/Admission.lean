import Mathlib.Data.List.Forall2
import PluginHost.Proofs.CommandLine.Spelling

/-!
# Admission

Which items make up a command line that is accepted. Every value is accepted for itself, whatever
its place and its spelling, and the settings as a whole decide about the rest.
-/

namespace PluginHost.CommandLine

open PluginHost.Text
open PluginHost.Outcome (bind_eq_ok map_eq_ok mapError_eq_ok)

/-- Bytes are the text of a header. -/
def HeaderReads (value : Bytes) (header : Header) : Prop :=
  ∃ text, Utf8.encode text = value ∧ Header.parse text = .ok header

/-- The value is one that its setting accepts. A path names something, and all else is text. -/
def Item.Proper (item : Item) : Prop :=
  match item.setting with
  | .plugin | .bodyFile => item.value ≠ []
  | .header => ∃ header, HeaderReads item.value header
  | .symbol | .method | .uri | .body => ∃ text, Utf8.encode text = item.value

/-- The settings of items. -/
def itemSettings (items : List Item) : List Setting := items.map Item.setting

/-- No setting is given again, but for headers. -/
def Repeatless (items : List Item) : Prop :=
  items.Pairwise fun earlier later => earlier.setting = later.setting → later.setting = .header

/-- Items with a value from the environment for a setting that they leave open. -/
def withPreset (items : List Item) (setting : Setting) : Option Bytes → List Item
  | none => items
  | some value => if setting ∈ itemSettings items then items else items ++ [⟨setting, value⟩]

/-- All items that are used: those of the command line, and those of the environment. -/
def used (presets : Presets) (items : List Item) : List Item :=
  withPreset (withPreset items .plugin presets.plugin) .symbol presets.symbol

/-- The items of a command line that is accepted. -/
structure Admissible (presets : Presets) (items : List Item) : Prop where
  repeatless : Repeatless items
  hasPlugin : .plugin ∈ itemSettings items ∨ presets.plugin ≠ none
  exclusive : ¬(.body ∈ itemSettings items ∧ .bodyFile ∈ itemSettings items)
  proper : ∀ item ∈ used presets items, item.Proper

/-! ## Accepted values -/

theorem textValue_eq_ok_iff {raw : Bytes} {text : String} :
    textValue raw = .ok text ↔ Utf8.encode text = raw := by
  rw [← Utf8.decode?_eq_some_iff, textValue]
  cases Utf8.decode? raw with
  | none => simp
  | some decoded => simp

/-- A value has been accepted for an item. -/
def Accepts (item : Item) (value : Given) : Prop := item.setting.accept item.value = .ok value

theorem Accepts.setting {item : Item} {value : Given} (accepts : Accepts item value) :
    value.setting = item.setting := by
  obtain ⟨setting, raw⟩ := item
  cases setting with
  | plugin | bodyFile =>
      simp only [Accepts, Setting.accept] at accepts
      split at accepts <;> cases accepts
      rfl
  | symbol | method | uri | body =>
      obtain ⟨_, _, rfl⟩ := map_eq_ok.mp accepts
      rfl
  | header =>
      obtain ⟨text, _, parses⟩ := bind_eq_ok.mp accepts
      cases parsed : Header.parse text <;> rw [parsed] at parses <;> cases parses
      rfl

theorem accept_header_eq_ok_iff {raw : Bytes} {value : Given} :
    Setting.header.accept raw = .ok value ↔
      ∃ header, HeaderReads raw header ∧ .header header = value := by
  simp only [Setting.accept, bind_eq_ok, textValue_eq_ok_iff, HeaderReads]
  constructor
  · rintro ⟨text, same, parses⟩
    cases parsed : Header.parse text with
    | error error => rw [parsed] at parses; cases parses
    | ok header =>
        rw [parsed] at parses
        exact ⟨header, ⟨text, same, parsed⟩, Except.ok.inj parses⟩
  · rintro ⟨header, ⟨text, same, parses⟩, rfl⟩
    refine ⟨text, same, ?_⟩
    rw [parses]

theorem Item.proper_iff (item : Item) : item.Proper ↔ ∃ value, Accepts item value := by
  obtain ⟨setting, raw⟩ := item
  cases setting with
  | plugin | bodyFile =>
      simp only [Proper, Accepts, Setting.accept]
      by_cases nothing : raw = [] <;> simp [nothing]
  | symbol | method | uri | body =>
      simp only [Proper, Accepts, Setting.accept, map_eq_ok, textValue_eq_ok_iff]
      constructor
      · rintro ⟨text, same⟩
        exact ⟨_, text, same, rfl⟩
      · rintro ⟨_, text, same, _⟩
        exact ⟨text, same⟩
  | header =>
      simp only [Proper, Accepts, accept_header_eq_ok_iff]
      constructor
      · rintro ⟨header, reads⟩
        exact ⟨_, header, reads, rfl⟩
      · rintro ⟨_, header, reads, _⟩
        exact ⟨header, reads⟩

/-- The values that have been accepted for items, in order. -/
abbrev Accepted : List Item → List Given → Prop := List.Forall₂ Accepts

theorem Accepted.settings_eq {items : List Item} {given : List Given}
    (accepted : Accepted items given) : settings given = itemSettings items := by
  induction accepted with
  | nil => rfl
  | cons accepts _ ih => exact congrArg₂ List.cons accepts.setting ih

theorem exists_accepted_iff (items : List Item) :
    (∃ given, Accepted items given) ↔ ∀ item ∈ items, item.Proper := by
  induction items with
  | nil => exact ⟨fun _ => by simp, fun _ => ⟨[], .nil⟩⟩
  | cons item rest ih =>
      rw [List.forall_mem_cons, ← ih, Item.proper_iff]
      constructor
      · rintro ⟨_, _ | ⟨accepts, later⟩⟩
        exact ⟨⟨_, accepts⟩, ⟨_, later⟩⟩
      · rintro ⟨⟨value, accepts⟩, ⟨given, later⟩⟩
        exact ⟨value :: given, .cons accepts later⟩

/-! ## The items of the command line -/

theorem acceptItem_eq_ok_iff {given after : List Given} {item : Item} :
    acceptItem given item = .ok after ↔
      (item.setting ∈ settings given → item.setting = .header) ∧
        ∃ value, Accepts item value ∧ given ++ [value] = after := by
  rw [acceptItem]
  by_cases again : item.setting ∈ settings given
  · by_cases isHeader : item.setting = .header
    · simp [isHeader, Setting.mayRepeat, map_eq_ok, Accepts]
    · simp [again, isHeader, Setting.mayRepeat]
  · simp [again, map_eq_ok, Accepts]

/-- Items are accepted one after the other exactly if each is accepted for itself, and none repeats
a setting that must not repeat. -/
theorem acceptItems_eq_ok_iff {items : List Item} {given after : List Given} :
    items.foldlM acceptItem given = .ok after ↔
      (∀ item ∈ items, item.setting ∈ settings given → item.setting = .header) ∧
        Repeatless items ∧ ∃ values, Accepted items values ∧ given ++ values = after := by
  induction items generalizing given with
  | nil =>
      constructor
      · intro done
        cases done
        exact ⟨by simp, .nil, [], .nil, List.append_nil _⟩
      · rintro ⟨-, -, values, accepted, rfl⟩
        cases accepted
        exact congrArg Except.ok (List.append_nil given).symm
  | cons item rest ih =>
      rw [List.foldlM_cons, bind_eq_ok]
      constructor
      · rintro ⟨middle, first, later⟩
        obtain ⟨fresh, value, accepts, rfl⟩ := acceptItem_eq_ok_iff.mp first
        obtain ⟨laterFresh, repeatless, values, accepted, rfl⟩ := ih.mp later
        have known : settings (given ++ [value]) = settings given ++ [item.setting] := by
          rw [← accepts.setting, settings, List.map_append]
          rfl
        rw [known] at laterFresh
        refine ⟨?_, List.pairwise_cons.mpr ⟨?_, repeatless⟩, value :: values,
          .cons accepts accepted, by simp⟩
        · refine List.forall_mem_cons.mpr ⟨fresh, fun other member again => ?_⟩
          exact laterFresh other member (List.mem_append_left _ again)
        · intro other member same
          exact laterFresh other member (List.mem_append_right _ (by simp [same]))
      · rintro ⟨fresh, repeatless, _, accepted, rfl⟩
        obtain ⟨firstFresh, laterFresh⟩ := List.forall_mem_cons.mp fresh
        obtain ⟨apart, repeatless⟩ := List.pairwise_cons.mp repeatless
        obtain _ | ⟨accepts, accepted⟩ := accepted
        refine ⟨_, acceptItem_eq_ok_iff.mpr ⟨firstFresh, _, accepts, rfl⟩,
          ih.mpr ⟨fun other member again => ?_, repeatless, _, accepted, by simp⟩⟩
        rw [settings, List.map_append, List.mem_append] at again
        rcases again with again | again
        · exact laterFresh other member again
        · refine apart other member ?_
          rw [← accepts.setting, List.mem_singleton.mp again]

/-! ## The items of the environment -/

theorem mem_withPreset {items : List Item} {setting other : Setting} {preset : Option Bytes} :
    other ∈ itemSettings (withPreset items setting preset) ↔
      other ∈ itemSettings items ∨ other = setting ∧ preset ≠ none := by
  cases preset with
  | none => simp [withPreset]
  | some value =>
      rw [withPreset]
      split
      · next already =>
          constructor
          · exact .inl
          · rintro (member | ⟨rfl, -⟩)
            · exact member
            · exact already
      · simp [itemSettings]

theorem mem_withPreset_of_mem {items : List Item} {setting : Setting} {preset : Option Bytes}
    {item : Item} (member : item ∈ items) : item ∈ withPreset items setting preset := by
  cases preset with
  | none => exact member
  | some value =>
      rw [withPreset]
      split
      · exact member
      · exact List.mem_append_left _ member

theorem mem_used {presets : Presets} {items : List Item} {setting : Setting} :
    setting ∈ itemSettings (used presets items) ↔
      setting ∈ itemSettings items ∨ setting = .plugin ∧ presets.plugin ≠ none ∨
        setting = .symbol ∧ presets.symbol ≠ none := by
  rw [used, mem_withPreset, mem_withPreset, or_assoc]

theorem withPreset_repeatless {items : List Item} (repeatless : Repeatless items)
    (setting : Setting) (preset : Option Bytes) :
    Repeatless (withPreset items setting preset) := by
  cases preset with
  | none => exact repeatless
  | some value =>
      rw [withPreset]
      split
      · exact repeatless
      · next fresh =>
          refine List.pairwise_append.mpr ⟨repeatless, List.pairwise_singleton _ _, ?_⟩
          intro earlier member later single same
          have added : later.setting = setting := by rw [List.mem_singleton.mp single]
          exact absurd (List.mem_map.mpr ⟨earlier, member, same.trans added⟩) fresh

theorem used_repeatless {presets : Presets} {items : List Item} (repeatless : Repeatless items) :
    Repeatless (used presets items) :=
  withPreset_repeatless (withPreset_repeatless repeatless _ _) _ _

theorem Accepted.unique {items : List Item} {first second : List Given}
    (acceptedFirst : Accepted items first) (acceptedSecond : Accepted items second) :
    first = second := by
  induction acceptedFirst generalizing second with
  | nil =>
      cases acceptedSecond
      rfl
  | cons accepts _ ih =>
      obtain _ | ⟨acceptsToo, later⟩ := acceptedSecond
      exact congrArg₂ List.cons (Except.ok.inj (accepts.symm.trans acceptsToo)) (ih later)

theorem accepted_append_singleton {items : List Item} {given after : List Given} {item : Item}
    (accepted : Accepted items given) :
    Accepted (items ++ [item]) after ↔ ∃ value, Accepts item value ∧ given ++ [value] = after := by
  have together {value : Given} (accepts : Accepts item value) :
      Accepted (items ++ [item]) (given ++ [value]) :=
    List.rel_append accepted (.cons accepts .nil)
  constructor
  · intro whole
    obtain ⟨value, accepts⟩ := (Item.proper_iff item).mp
      ((exists_accepted_iff _).mp ⟨after, whole⟩ item (by simp))
    exact ⟨value, accepts, Accepted.unique (together accepts) whole⟩
  · rintro ⟨value, accepts, rfl⟩
    exact together accepts

theorem fallBack_eq_ok_iff {items : List Item} {given after : List Given}
    (accepted : Accepted items given) (setting : Setting) (preset : Option Bytes) :
    fallBack given setting preset = .ok after ↔
      Accepted (withPreset items setting preset) after := by
  have unchanged : .ok given = (.ok after : Except Fault _) ↔ Accepted items after := by
    rw [Except.ok.injEq]
    exact ⟨fun same => same ▸ accepted, accepted.unique⟩
  cases preset with
  | none => exact unchanged
  | some value =>
      rw [fallBack, withPreset, accepted.settings_eq]
      split
      · exact unchanged
      · rw [accepted_append_singleton accepted, map_eq_ok]
        rfl

/-! ## Whole command lines -/

/-- The rest of `finish`, when nothing is pending any more. -/
def complete (presets : Presets) (given : List Given) : Except Fault (List Given) := do
  let given ← fallBack given .plugin presets.plugin
  let given ← fallBack given .symbol presets.symbol
  checkConflict given
  if Setting.plugin ∈ settings given then return given else .error .missingPlugin

theorem finish_eq (presets : Presets) (progress : Progress) :
    (finish presets progress).mapError Stop.fault =
      progress.settled >>= fun given => (complete presets given).mapError .fault := by
  rw [finish, Progress.settled, Outcome.mapError_bind]
  cases progress.settle <;> rfl

theorem read_spelled {items : List Item} {arguments : List Bytes} (presets : Presets)
    (spelled : Spelled items arguments) :
    read presets arguments = (items.foldlM acceptItem [] >>= complete presets).mapError .fault := by
  rw [Outcome.mapError_bind, ← read_items_start spelled, bind_assoc]
  exact congrArg _ (funext (finish_eq presets))

/-- Body and body file do not come together. -/
theorem checkConflict_eq_ok_iff {items : List Item} {given : List Given}
    (accepted : Accepted items given) (repeatless : Repeatless items) :
    checkConflict given = .ok () ↔
      ¬(.body ∈ itemSettings items ∧ .bodyFile ∈ itemSettings items) := by
  have apart : (itemSettings items).Pairwise fun earlier later =>
      earlier = later → later = .header := List.pairwise_map.mpr repeatless
  have listed {setting : Setting} (isBody : setting = .body ∨ setting = .bodyFile) :
      setting ∈ (itemSettings items).filter (fun setting => setting = .body ∨ setting = .bodyFile) ↔
        setting ∈ itemSettings items := by
    simp [isBody]
  rw [checkConflict, accepted.settings_eq, ← listed (.inl rfl), ← listed (.inr rfl)]
  have apart := apart.filter fun setting => setting = .body ∨ setting = .bodyFile
  have bodies : ∀ setting ∈ (itemSettings items).filter
      (fun setting => setting = .body ∨ setting = .bodyFile),
      setting = .body ∨ setting = .bodyFile := fun setting member => by
    simpa using List.of_mem_filter member
  generalize (itemSettings items).filter
    (fun setting => setting = .body ∨ setting = .bodyFile) = both at apart bodies
  -- Nothing repeats, so two that are left are one of each, in either order.
  match both with
  | [] => simp
  | [only] =>
      refine ⟨fun _ ⟨isBody, isFile⟩ => ?_, fun _ => rfl⟩
      cases (List.mem_singleton.mp isBody).trans (List.mem_singleton.mp isFile).symm
  | first :: second :: rest =>
      have different : first ≠ second := fun same => by
        have isHeader := List.rel_of_pairwise_cons apart (List.mem_cons_self ..) same
        rcases bodies second (by simp) with isBody | isBody <;> cases isBody.symm.trans isHeader
      refine ⟨fun done => (nomatch done), fun exclusive => (exclusive ?_).elim⟩
      rcases bodies first (by simp) with rfl | rfl <;> rcases bodies second (by simp) with rfl | rfl
      · exact absurd rfl different
      · exact ⟨by simp, by simp⟩
      · exact ⟨by simp, by simp⟩
      · exact absurd rfl different

theorem complete_eq_ok_iff {presets : Presets} {items : List Item} {given after : List Given}
    (accepted : Accepted items given) (repeatless : Repeatless items) :
    complete presets given = .ok after ↔
      Accepted (used presets items) after ∧
        ¬(.body ∈ itemSettings items ∧ .bodyFile ∈ itemSettings items) ∧
          (.plugin ∈ itemSettings items ∨ presets.plugin ≠ none) := by
  have bodies : .body ∈ itemSettings (used presets items) ↔ .body ∈ itemSettings items := by
    simp [mem_used]
  have bodyFiles :
      .bodyFile ∈ itemSettings (used presets items) ↔ .bodyFile ∈ itemSettings items := by
    simp [mem_used]
  have plugins : .plugin ∈ itemSettings (used presets items) ↔
      .plugin ∈ itemSettings items ∨ presets.plugin ≠ none := by
    simp [mem_used]
  rw [← bodies, ← bodyFiles, ← plugins]
  simp only [complete, bind_eq_ok]
  constructor
  · rintro ⟨middle, first, last, second, ⟨⟩, free, done⟩
    have acceptedMiddle := (fallBack_eq_ok_iff accepted _ _).mp first
    have accepted : Accepted (used presets items) last :=
      (fallBack_eq_ok_iff acceptedMiddle _ _).mp second
    rw [accepted.settings_eq] at done
    split at done
    · next hasPlugin =>
        cases done
        exact ⟨accepted, (checkConflict_eq_ok_iff accepted (used_repeatless repeatless)).mp free,
          hasPlugin⟩
    · cases done
  · rintro ⟨acceptedAll, exclusive, hasPlugin⟩
    have proper := (exists_accepted_iff _).mp ⟨after, acceptedAll⟩
    obtain ⟨middle, acceptedMiddle⟩ := (exists_accepted_iff _).mpr fun item member =>
      proper item (mem_withPreset_of_mem member)
    refine ⟨middle, (fallBack_eq_ok_iff accepted _ _).mpr acceptedMiddle, after,
      (fallBack_eq_ok_iff acceptedMiddle _ _).mpr acceptedAll, (),
      (checkConflict_eq_ok_iff acceptedAll (used_repeatless repeatless)).mpr exclusive, ?_⟩
    rw [acceptedAll.settings_eq, if_pos hasPlugin]
    rfl

/-- A command line is read exactly if its items are admissible. -/
theorem read_eq_ok_iff {items : List Item} {arguments : List Bytes} {given : List Given}
    (presets : Presets) (spelled : Spelled items arguments) :
    read presets arguments = .ok given ↔
      Admissible presets items ∧ Accepted (used presets items) given := by
  rw [read_spelled presets spelled, mapError_eq_ok, bind_eq_ok]
  constructor
  · rintro ⟨before, first, later⟩
    obtain ⟨-, repeatless, values, accepted, same⟩ := acceptItems_eq_ok_iff.mp first
    rw [← same] at later
    obtain ⟨acceptedAll, exclusive, hasPlugin⟩ := (complete_eq_ok_iff accepted repeatless).mp later
    exact ⟨⟨repeatless, hasPlugin, exclusive, (exists_accepted_iff _).mp ⟨given, acceptedAll⟩⟩,
      acceptedAll⟩
  · rintro ⟨admissible, acceptedAll⟩
    obtain ⟨values, accepted⟩ := (exists_accepted_iff items).mpr fun item member =>
      admissible.proper item (mem_withPreset_of_mem (mem_withPreset_of_mem member))
    refine ⟨values, acceptItems_eq_ok_iff.mpr ⟨?_, admissible.repeatless, values, accepted, rfl⟩,
      (complete_eq_ok_iff accepted admissible.repeatless).mpr
        ⟨acceptedAll, admissible.exclusive, admissible.hasPlugin⟩⟩
    intro item _ before
    cases before

end PluginHost.CommandLine
