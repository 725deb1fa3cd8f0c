import PluginHost.Proofs.Text.Utf8

/-!
# Well-formed UTF-8

The syntax of UTF-8, byte by byte. No character has more than one form, surrogates have none, and
nothing stands for a value above U+10FFFF. The well-formed byte strings are exactly the encodings of
texts.
-/

namespace PluginHost.Text.Utf8

/-- The bytes of one character. -/
inductive Sequence : Bytes → Prop where
  | one {first : UInt8} (high : first ≤ 0x7F) : Sequence [first]
  | two {first second : UInt8} (low : 0xC2 ≤ first) (high : first ≤ 0xDF)
      (later : IsLater second) : Sequence [first, second]
  | three {first second third : UInt8} (low : 0xE1 ≤ first) (high : first ≤ 0xEC)
      (later : IsLater second) (last : IsLater third) : Sequence [first, second, third]
  /-- Below U+0800 there are shorter forms. -/
  | threeLow {second third : UInt8} (low : 0xA0 ≤ second) (high : second ≤ 0xBF)
      (last : IsLater third) : Sequence [0xE0, second, third]
  /-- From U+D800 on there are surrogates. -/
  | beforeSurrogates {second third : UInt8} (low : 0x80 ≤ second) (high : second ≤ 0x9F)
      (last : IsLater third) : Sequence [0xED, second, third]
  | afterSurrogates {first second third : UInt8} (low : 0xEE ≤ first) (high : first ≤ 0xEF)
      (later : IsLater second) (last : IsLater third) : Sequence [first, second, third]
  /-- Below U+10000 there are shorter forms. -/
  | fourLow {second third fourth : UInt8} (low : 0x90 ≤ second) (high : second ≤ 0xBF)
      (later : IsLater third) (last : IsLater fourth) : Sequence [0xF0, second, third, fourth]
  | four {first second third fourth : UInt8} (low : 0xF1 ≤ first) (high : first ≤ 0xF3)
      (next : IsLater second) (later : IsLater third) (last : IsLater fourth) :
      Sequence [first, second, third, fourth]
  /-- From U+110000 on there are no characters. -/
  | fourHigh {second third fourth : UInt8} (low : 0x80 ≤ second) (high : second ≤ 0x8F)
      (later : IsLater third) (last : IsLater fourth) : Sequence [0xF4, second, third, fourth]

/-- Characters, one after the other. -/
inductive WellFormed : Bytes → Prop where
  | nil : WellFormed []
  | cons {first rest : Bytes} (sequence : Sequence first) (later : WellFormed rest) :
      WellFormed (first ++ rest)

/-! ## One character -/

theorem exists_char_of_three {first second third : UInt8} (low : 0xE0 ≤ first.toNat)
    (high : first.toNat < 0xF0) (later : IsLater second) (last : IsLater third)
    (shortest : first = 0xE0 → 0xA0 ≤ second) (noSurrogate : first = 0xED → second ≤ 0x9F) :
    ∃ char, encodeChar char = [first, second, third] := by
  refine ⟨_, leads_three low high second [third] ?_ ?_ rfl ?_⟩
  · dsimp only
    split
    · next least => exact shortest least
    · exact UInt8.le_iff_toNat_le.mpr later.1
  · dsimp only
    split
    · next surrogate => exact noSurrogate surrogate
    · exact UInt8.le_iff_toNat_le.mpr later.2
  · exact List.forall_mem_singleton.mpr last

theorem exists_char_of_four {first second third fourth : UInt8} (low : 0xF0 ≤ first.toNat)
    (high : first.toNat < 0xF5) (next : IsLater second) (later : IsLater third)
    (last : IsLater fourth) (shortest : first = 0xF0 → 0x90 ≤ second)
    (within : first = 0xF4 → second ≤ 0x8F) :
    ∃ char, encodeChar char = [first, second, third, fourth] := by
  refine ⟨_, leads_four low high second [third, fourth] ?_ ?_ rfl ?_⟩
  · dsimp only
    split
    · next least => exact shortest least
    · exact UInt8.le_iff_toNat_le.mpr next.1
  · dsimp only
    split
    · next greatest => exact within greatest
    · exact UInt8.le_iff_toNat_le.mpr next.2
  · exact List.forall_mem_cons.mpr ⟨later, List.forall_mem_singleton.mpr last⟩

theorem Sequence.exists_char {bytes : Bytes} (sequence : Sequence bytes) :
    ∃ char, encodeChar char = bytes := by
  cases sequence with
  | @one first high =>
      simp only [UInt8.le_iff_toNat_le, UInt8.reduceToNat] at high
      refine ⟨Char.ofNat first.toNat, ?_⟩
      rw [encodeChar_ofNat (.inl (by omega)), if_pos (by omega), eq_toUInt8 first rfl]
  | @two first second low high later =>
      simp only [UInt8.le_iff_toNat_le, UInt8.reduceToNat] at low high
      exact ⟨_, leads_two low (by omega) second [] (UInt8.le_iff_toNat_le.mpr later.1)
        (UInt8.le_iff_toNat_le.mpr later.2) rfl (List.forall_mem_nil _)⟩
  | three low high later last =>
      simp only [UInt8.le_iff_toNat_le, UInt8.reduceToNat] at low high
      refine exists_char_of_three (by omega) (by omega) later last ?_ ?_
      · rintro rfl; exact absurd low (by decide)
      · rintro rfl; exact absurd high (by decide)
  | threeLow low high last =>
      exact exists_char_of_three (by decide) (by decide)
        ⟨Nat.le_trans (by decide) (UInt8.le_iff_toNat_le.mp low), UInt8.le_iff_toNat_le.mp high⟩
        last (fun _ => low) (fun surrogate => absurd surrogate (by decide))
  | beforeSurrogates low high last =>
      exact exists_char_of_three (by decide) (by decide)
        ⟨UInt8.le_iff_toNat_le.mp low, Nat.le_trans (UInt8.le_iff_toNat_le.mp high) (by decide)⟩
        last (fun least => absurd least (by decide)) (fun _ => high)
  | afterSurrogates low high later last =>
      simp only [UInt8.le_iff_toNat_le, UInt8.reduceToNat] at low high
      refine exists_char_of_three (by omega) (by omega) later last ?_ ?_
      · rintro rfl; exact absurd low (by decide)
      · rintro rfl; exact absurd low (by decide)
  | fourLow low high later last =>
      exact exists_char_of_four (by decide) (by decide)
        ⟨Nat.le_trans (by decide) (UInt8.le_iff_toNat_le.mp low), UInt8.le_iff_toNat_le.mp high⟩
        later last (fun _ => low) (fun greatest => absurd greatest (by decide))
  | four low high next later last =>
      simp only [UInt8.le_iff_toNat_le, UInt8.reduceToNat] at low high
      refine exists_char_of_four (by omega) (by omega) next later last ?_ ?_
      · rintro rfl; exact absurd low (by decide)
      · rintro rfl; exact absurd high (by decide)
  | fourHigh low high later last =>
      exact exists_char_of_four (by decide) (by decide)
        ⟨UInt8.le_iff_toNat_le.mp low, Nat.le_trans (UInt8.le_iff_toNat_le.mp high) (by decide)⟩
        later last (fun least => absurd least (by decide)) (fun _ => high)

theorem isLater_toUInt8 (value : Nat) : IsLater (0x80 + value % 0x40).toUInt8 := by
  have same := toNat_toUInt8 (0x80 + value % 0x40) (by omega)
  rw [IsLater, same]
  omega

theorem toUInt8_le {value bound : Nat} (below : value ≤ bound) (small : bound < 0x100) :
    value.toUInt8 ≤ bound.toUInt8 := by
  rw [UInt8.le_iff_toNat_le, toNat_toUInt8 value (by omega), toNat_toUInt8 bound small]
  exact below

theorem sequence_encodeChar (char : Char) : Sequence (encodeChar char) := by
  have valid : char.toNat < 0xD800 ∨ 0xDFFF < char.toNat ∧ char.toNat < 0x110000 := char.valid
  rw [encodeChar]
  generalize char.toNat = code at valid
  split
  · next one => exact .one (toUInt8_le (by omega : code ≤ 0x7F) (by decide))
  split
  · next two =>
      exact .two (toUInt8_le (by omega : 0xC2 ≤ 0xC0 + code / 0x40) (by omega))
        (toUInt8_le (by omega : 0xC0 + code / 0x40 ≤ 0xDF) (by decide)) (isLater_toUInt8 code)
  have later := isLater_toUInt8 (code / 0x40)
  have last := isLater_toUInt8 code
  split
  · next three =>
      rcases (by omega : code / 0x1000 = 0 ∨ 1 ≤ code / 0x1000 ∧ code / 0x1000 ≤ 0xC ∨
        code / 0x1000 = 0xD ∨ 0xE ≤ code / 0x1000) with least | middle | surrogate | high
      · rw [least]
        exact .threeLow (toUInt8_le (by omega : 0xA0 ≤ 0x80 + code / 0x40 % 0x40) (by omega))
          (UInt8.le_iff_toNat_le.mpr later.2) last
      · exact .three (toUInt8_le (by omega : 0xE1 ≤ 0xE0 + code / 0x1000) (by omega))
          (toUInt8_le (by omega : 0xE0 + code / 0x1000 ≤ 0xEC) (by decide)) later last
      · rw [surrogate]
        exact .beforeSurrogates (UInt8.le_iff_toNat_le.mpr later.1)
          (toUInt8_le (by omega : 0x80 + code / 0x40 % 0x40 ≤ 0x9F) (by decide)) last
      · exact .afterSurrogates (toUInt8_le (by omega : 0xEE ≤ 0xE0 + code / 0x1000) (by omega))
          (toUInt8_le (by omega : 0xE0 + code / 0x1000 ≤ 0xEF) (by decide)) later last
  · next four =>
      have second := isLater_toUInt8 (code / 0x1000)
      rcases (by omega : code / 0x40000 = 0 ∨ 1 ≤ code / 0x40000 ∧ code / 0x40000 ≤ 3 ∨
        code / 0x40000 = 4) with least | middle | greatest
      · rw [least]
        exact .fourLow (toUInt8_le (by omega : 0x90 ≤ 0x80 + code / 0x1000 % 0x40) (by omega))
          (UInt8.le_iff_toNat_le.mpr second.2) later last
      · exact .four (toUInt8_le (by omega : 0xF1 ≤ 0xF0 + code / 0x40000) (by omega))
          (toUInt8_le (by omega : 0xF0 + code / 0x40000 ≤ 0xF3) (by decide)) second later last
      · rw [greatest]
        exact .fourHigh (UInt8.le_iff_toNat_le.mpr second.1)
          (toUInt8_le (by omega : 0x80 + code / 0x1000 % 0x40 ≤ 0x8F) (by decide)) later last

/-! ## All characters -/

/-- The bytes of characters, one after the other. -/
def encodeChars (chars : List Char) : Bytes := chars.flatMap encodeChar

theorem encodeChars_cons (char : Char) (chars : List Char) :
    encodeChars (char :: chars) = encodeChar char ++ encodeChars chars := List.flatMap_cons

theorem encodeChars_append (first second : List Char) :
    encodeChars (first ++ second) = encodeChars first ++ encodeChars second := List.flatMap_append

theorem encode_ofList (chars : List Char) : encode (.ofList chars) = encodeChars chars := by
  rw [encode, String.toList_ofList, encodeChars]

theorem wellFormed_encodeChars (chars : List Char) : WellFormed (encodeChars chars) := by
  induction chars with
  | nil => exact .nil
  | cons char chars ih =>
      rw [encodeChars_cons]
      exact .cons (sequence_encodeChar char) ih

theorem WellFormed.exists_chars {bytes : Bytes} (wellFormed : WellFormed bytes) :
    ∃ chars, encodeChars chars = bytes := by
  induction wellFormed with
  | nil => exact ⟨[], rfl⟩
  | cons sequence later ih =>
      obtain ⟨char, rfl⟩ := sequence.exists_char
      obtain ⟨chars, rfl⟩ := ih
      exact ⟨char :: chars, encodeChars_cons char chars⟩

theorem WellFormed.append {first rest : Bytes} (wellFormed : WellFormed first)
    (wellFormedRest : WellFormed rest) : WellFormed (first ++ rest) := by
  induction wellFormed with
  | nil => exact wellFormedRest
  | cons sequence _ ih =>
      rw [List.append_assoc]
      exact .cons sequence ih

/-- What is well-formed is what encodes a text. -/
theorem wellFormed_iff {bytes : Bytes} : WellFormed bytes ↔ ∃ text, encode text = bytes := by
  constructor
  · intro wellFormed
    obtain ⟨chars, rfl⟩ := wellFormed.exists_chars
    exact ⟨.ofList chars, encode_ofList chars⟩
  · rintro ⟨text, rfl⟩
    exact wellFormed_encodeChars text.toList

end PluginHost.Text.Utf8
