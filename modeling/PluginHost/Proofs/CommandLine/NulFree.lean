import PluginHost.CommandLine.Arguments
import PluginHost.Proofs.CommandLine.Admission
import PluginHost.Proofs.Header

/-!
# Command lines without NUL

Cutting and trimming bring no NUL into what had none. So if the system delivers no NUL, then no part
of the arguments holds one.
-/

namespace PluginHost

open PluginHost.Text
open PluginHost.Outcome (bind_eq_ok map_eq_ok mapError_eq_ok foldlM_keeps)

/-! ## Text -/

theorem Text.Utf8.zero_mem_encodeChar_iff (char : Char) :
    0 ∈ encodeChar char ↔ char = '\x00' := by
  constructor
  · intro isZero
    have bound : char.toNat < 0x110000 := by
      rcases char.valid with low | ⟨_, high⟩
      · exact Nat.lt_trans low (by decide)
      · exact high
    have value : char.toNat = 0 := by
      simp only [encodeChar] at isZero
      repeat' split at isZero
      all_goals
        simp [← UInt8.toNat_inj] at isZero
        omega
    exact Char.toNat_inj.mp value
  · rintro rfl
    decide

theorem Text.Utf8.zero_mem_encode_iff (text : String) :
    0 ∈ encode text ↔ '\x00' ∈ text.toList := by
  rw [encode, List.mem_flatMap]
  constructor
  · rintro ⟨char, member, isZero⟩
    exact (zero_mem_encodeChar_iff char).mp isZero ▸ member
  · intro member
    exact ⟨_, member, by decide⟩

/-! ## Headers -/

/-- Neither name nor value holds a NUL. -/
def Header.NulFree (header : Header) : Prop :=
  0 ∉ Utf8.encode header.name ∧ 0 ∉ Utf8.encode header.value

theorem Header.parse_nulFree {text : String} {header : Header} (nulFree : 0 ∉ Utf8.encode text)
    (parses : parse text = .ok header) : header.NulFree := by
  obtain ⟨_, padding, rfl⟩ := exists_written parses
  rw [Utf8.zero_mem_encode_iff, toList_written] at nulFree
  rw [NulFree, Utf8.zero_mem_encode_iff, Utf8.zero_mem_encode_iff]
  constructor
  · intro member
    exact nulFree (List.mem_append_left _ (List.mem_append_left _ (List.mem_append_right _ member)))
  · intro member
    exact nulFree (List.mem_append_right _ (List.mem_cons_of_mem _
      (List.mem_append_left _ (List.mem_append_right _ member))))

/-! ## Reading -/

namespace CommandLine

/-- No part of an accepted value holds a NUL. -/
def Given.NulFree : Given → Prop
  | .plugin path | .bodyFile path => 0 ∉ path
  | .symbol text | .method text | .uri text | .body text => 0 ∉ Utf8.encode text
  | .header parsed => parsed.NulFree

theorem accept_nulFree {setting : Setting} {raw : Bytes} {value : Given} (nulFree : 0 ∉ raw)
    (accepts : setting.accept raw = .ok value) : value.NulFree := by
  cases setting with
  | plugin | bodyFile =>
      simp only [Setting.accept] at accepts
      split at accepts <;> cases accepts
      exact nulFree
  | symbol | method | uri | body =>
      obtain ⟨text, decoded, rfl⟩ := map_eq_ok.mp accepts
      rw [← textValue_eq_ok_iff.mp decoded] at nulFree
      exact nulFree
  | header =>
      obtain ⟨header, ⟨text, rfl, parses⟩, rfl⟩ := accept_header_eq_ok_iff.mp accepts
      exact Header.parse_nulFree nulFree parses

/-- No accepted value holds a NUL, nor does the value that waits to be accepted. -/
structure Progress.NulFree (progress : Progress) : Prop where
  given : ∀ value ∈ progress.given, value.NulFree
  pending : ∀ setting raw, progress.pending = some (setting, some raw) → 0 ∉ raw

namespace Progress

variable {progress after : Progress}

theorem take_nulFree {setting : Setting} {raw : Bytes} (nulFree : progress.NulFree)
    (rawFree : 0 ∉ raw) (takes : progress.take setting raw = .ok after) : after.NulFree := by
  rw [take] at takes
  split at takes
  · cases takes
  · obtain ⟨value, accepts, done⟩ := bind_eq_ok.mp takes
    cases done
    refine ⟨fun other member => ?_, nulFree.pending⟩
    rcases List.mem_append.mp member with member | member
    · exact nulFree.given other member
    · exact List.mem_singleton.mp member ▸ accept_nulFree rawFree accepts

theorem settle_nulFree (nulFree : progress.NulFree) (settles : progress.settle = .ok after) :
    after.NulFree := by
  rw [settle] at settles
  split at settles
  · cases settles
    exact nulFree
  · cases settles
  · next waits =>
      have unburdened : NulFree { progress with pending := none } := ⟨nulFree.given, by simp⟩
      exact take_nulFree unburdened (nulFree.pending _ _ waits) settles

theorem option_nulFree {setting : Setting} {attached : Option Bytes} (nulFree : progress.NulFree)
    (rawFree : ∀ raw, attached = some raw → 0 ∉ raw)
    (reads : progress.option setting attached = .ok after) : after.NulFree := by
  obtain ⟨settled, settles, later⟩ := bind_eq_ok.mp reads
  have settledFree := settle_nulFree nulFree settles
  cases attached with
  | some raw => exact take_nulFree settledFree (rawFree raw rfl) later
  | none =>
      cases later
      exact ⟨settledFree.given, fun _ _ waits => nomatch waits⟩

theorem value_nulFree {argument : Bytes} (nulFree : progress.NulFree) (rawFree : 0 ∉ argument)
    (reads : progress.value argument = .ok after) : after.NulFree := by
  rw [value] at reads
  split at reads
  · cases reads
    refine ⟨nulFree.given, fun _ _ waits => ?_⟩
    cases waits
    exact rawFree
  · cases reads

end Progress

variable {progress after : Progress}

theorem help_ne_ok (progress : Progress) : progress.help ≠ .ok after := by
  rw [Progress.help]
  cases progress.settle <;> exact nofun

theorem readLong_nulFree {name : Bytes} {attached : Option Bytes} (nulFree : progress.NulFree)
    (rawFree : ∀ raw, attached = some raw → 0 ∉ raw)
    (reads : readLong progress name attached = .ok after) : after.NulFree := by
  unfold readLong at reads
  split at reads
  · exact absurd reads (help_ne_ok progress)
  · cases reads
  · split at reads
    · exact Progress.option_nulFree nulFree rawFree (mapError_eq_ok.mp reads)
    · cases reads

theorem letterValue_nulFree {rest : Bytes} (rawFree : 0 ∉ rest) :
    ∀ raw, letterValue rest = some raw → 0 ∉ raw := by
  intro raw isValue
  cases rest with
  | nil => cases isValue
  | cons first rest =>
      rw [letterValue] at isValue
      cases isValue
      split
      · exact fun member => rawFree (List.mem_cons_of_mem _ member)
      · exact rawFree

theorem readLetter_nulFree {rest : Bytes} (nulFree : progress.NulFree) (rawFree : 0 ∉ rest)
    (reads : readLetter progress rest = .ok after) : after.NulFree := by
  unfold readLetter at reads
  split at reads
  · exact absurd reads (help_ne_ok progress)
  · split at reads
    · exact Progress.option_nulFree nulFree
        (letterValue_nulFree fun member => rawFree (List.mem_of_mem_drop member))
        (mapError_eq_ok.mp reads)
    · cases reads
  · cases reads

theorem splitEquals_nulFree {bytes : Bytes} (rawFree : 0 ∉ bytes) :
    ∀ raw, (splitEquals bytes).2 = some raw → 0 ∉ raw := by
  intro raw isValue member
  simp only [splitEquals] at isValue
  cases rest : bytes.dropWhile (· ≠ Bytes.equals) with
  | nil => rw [rest] at isValue; cases isValue
  | cons first after =>
      rw [rest] at isValue
      cases isValue
      exact rawFree ((List.dropWhile_sublist _).subset (rest ▸ List.mem_cons_of_mem first member))

/-- Reading an argument brings no NUL into what has none. -/
theorem readArgument_nulFree {argument : Bytes} (nulFree : progress.NulFree)
    (rawFree : 0 ∉ argument) (reads : readArgument progress argument = .ok after) :
    after.NulFree := by
  unfold readArgument at reads
  split at reads
  · cases reads
  · split at reads
    · cases reads
      exact ⟨nulFree.given, nulFree.pending⟩
    · exact readLong_nulFree nulFree (splitEquals_nulFree fun member => rawFree
        (List.mem_cons_of_mem _ (List.mem_cons_of_mem _ member))) reads
    · exact readLetter_nulFree nulFree (fun member => rawFree (List.mem_cons_of_mem _ member)) reads
    · exact Progress.value_nulFree nulFree rawFree (mapError_eq_ok.mp reads)

/-! ## Whole command lines -/

/-- The environment gives no NUL. -/
structure Presets.NulFree (presets : Presets) : Prop where
  plugin : ∀ raw, presets.plugin = some raw → 0 ∉ raw
  symbol : ∀ raw, presets.symbol = some raw → 0 ∉ raw

theorem fallBack_nulFree {given after : List Given} {setting : Setting} {preset : Option Bytes}
    (nulFree : ∀ value ∈ given, value.NulFree) (rawFree : ∀ raw, preset = some raw → 0 ∉ raw)
    (done : fallBack given setting preset = .ok after) : ∀ value ∈ after, value.NulFree := by
  cases preset with
  | none =>
      cases done
      exact nulFree
  | some raw =>
      rw [fallBack] at done
      split at done
      · cases done
        exact nulFree
      · obtain ⟨value, accepts, rfl⟩ := map_eq_ok.mp done
        intro other member
        rcases List.mem_append.mp member with member | member
        · exact nulFree other member
        · exact List.mem_singleton.mp member ▸ accept_nulFree (rawFree raw rfl) accepts

theorem finish_nulFree {presets : Presets} {given : List Given} (presetsFree : presets.NulFree)
    (nulFree : progress.NulFree) (done : finish presets progress = .ok given) :
    ∀ value ∈ given, value.NulFree := by
  simp only [finish, bind_eq_ok] at done
  obtain ⟨settled, settles, first, firstDone, second, secondDone, _, _, last⟩ := done
  have firstFree := fallBack_nulFree (Progress.settle_nulFree nulFree settles).given
    presetsFree.plugin firstDone
  have secondFree := fallBack_nulFree firstFree presetsFree.symbol secondDone
  split at last <;> cases last
  exact secondFree

theorem read_nulFree {presets : Presets} {arguments : List Bytes} {given : List Given}
    (presetsFree : presets.NulFree) (argumentsFree : ∀ argument ∈ arguments, 0 ∉ argument)
    (done : read presets arguments = .ok given) : ∀ value ∈ given, value.NulFree := by
  obtain ⟨progress, reads, last⟩ := bind_eq_ok.mp done
  have nulFree : progress.NulFree := by
    refine foldlM_keeps Progress.NulFree (fun before argument after member nulFree => ?_)
      ⟨by simp [Progress.start], by simp [Progress.start]⟩ reads
    exact readArgument_nulFree nulFree (argumentsFree argument member)
  exact finish_nulFree presetsFree nulFree (mapError_eq_ok.mp last)

end CommandLine

/-! ## Arguments -/

open CommandLine (Given Presets)

/-- No part of arguments holds a NUL. -/
structure Arguments.NulFree (arguments : Arguments) : Prop where
  plugin : 0 ∉ arguments.plugin
  symbol : 0 ∉ Utf8.encode arguments.symbol
  method : 0 ∉ Utf8.encode arguments.method
  uri : 0 ∉ Utf8.encode arguments.uri
  headers : ∀ header ∈ arguments.headers, header.NulFree
  body : ∀ text, arguments.body = some text → 0 ∉ Utf8.encode text
  bodyFile : ∀ path, arguments.bodyFile = some path → 0 ∉ path

namespace Arguments

theorem ofPlugin_nulFree {path : Bytes} (pathFree : 0 ∉ path) : (ofPlugin path).NulFree where
  plugin := pathFree
  symbol := show 0 ∉ Utf8.encode "trigger" by decide
  method := show 0 ∉ Utf8.encode "GET" by decide
  uri := show 0 ∉ Utf8.encode "/" by decide
  headers := by simp [ofPlugin]
  body := by simp [ofPlugin]
  bodyFile := by simp [ofPlugin]

theorem put_nulFree {arguments : Arguments} {value : Given} (nulFree : arguments.NulFree)
    (valueFree : value.NulFree) : (arguments.put value).NulFree := by
  cases value with
  | plugin path => exact { nulFree with plugin := valueFree }
  | symbol name => exact { nulFree with symbol := valueFree }
  | method text => exact { nulFree with method := valueFree }
  | uri text => exact { nulFree with uri := valueFree }
  | header parsed =>
      refine { nulFree with headers := fun header member => ?_ }
      rcases List.mem_append.mp member with member | member
      · exact nulFree.headers header member
      · exact List.mem_singleton.mp member ▸ valueFree
  | body text => exact { nulFree with body := fun _ same => Option.some.inj same ▸ valueFree }
  | bodyFile path =>
      exact { nulFree with bodyFile := fun _ same => Option.some.inj same ▸ valueFree }

/-- Parsing what holds no NUL gives arguments that hold none. -/
theorem parse_nulFree {presets : Presets} {arguments : List Bytes} {parsed : Arguments}
    (presetsFree : presets.NulFree) (argumentsFree : ∀ argument ∈ arguments, 0 ∉ argument)
    (parses : parse presets arguments = .ok parsed) : parsed.NulFree := by
  obtain ⟨given, reads, rfl⟩ := map_eq_ok.mp parses
  have givenFree := CommandLine.read_nulFree presetsFree argumentsFree reads
  refine List.foldlRecOn given put (ofPlugin_nulFree List.not_mem_nil)
    fun arguments nulFree value member => ?_
  exact put_nulFree nulFree (givenFree value member)

end Arguments

end PluginHost
