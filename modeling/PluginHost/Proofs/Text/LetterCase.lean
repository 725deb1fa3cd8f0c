import Mathlib.Data.List.Forall2
import PluginHost.Proofs.Text.Utf8

/-!
# Letter case

Small letters stand for byte strings that differ only in the case of ASCII letters. What encodes a
text still encodes a text once its letters are small, since no byte of a longer sequence is a
letter.
-/

namespace PluginHost

namespace Bytes

/-- One of the letters `A` to `Z`. -/
def IsCapital (byte : UInt8) : Prop := 65 ≤ byte ∧ byte ≤ 90

instance (byte : UInt8) : Decidable (IsCapital byte) :=
  inferInstanceAs (Decidable (65 ≤ byte ∧ byte ≤ 90))

/-- The same byte, or the same letter in the other case. -/
def SameLetter (first second : UInt8) : Prop :=
  first = second ∨ IsCapital first ∧ first + 32 = second ∨ IsCapital second ∧ second + 32 = first

instance : DecidableRel SameLetter := fun first second =>
  inferInstanceAs (Decidable (first = second ∨ IsCapital first ∧ first + 32 = second ∨
    IsCapital second ∧ second + 32 = first))

/-- Equally long, with the same letters and the same other bytes, whatever the case of letters. -/
def SameButCase (first second : Bytes) : Prop := List.Forall₂ SameLetter first second

instance : DecidableRel SameButCase := fun first second =>
  inferInstanceAs (Decidable (List.Forall₂ SameLetter first second))

theorem isCapital_iff (byte : UInt8) : IsCapital byte ↔ 65 ≤ byte.toNat ∧ byte.toNat ≤ 90 := by
  simp only [IsCapital, UInt8.le_iff_toNat_le, UInt8.reduceToNat]

theorem lowerByte_of_isCapital {byte : UInt8} (capital : IsCapital byte) :
    lowerByte byte = byte + 32 := if_pos capital

theorem lowerByte_of_not_isCapital {byte : UInt8} (other : ¬ IsCapital byte) :
    lowerByte byte = byte := if_neg other

theorem toNat_lowerByte (byte : UInt8) :
    (lowerByte byte).toNat = byte.toNat + if IsCapital byte then 32 else 0 := by
  by_cases capital : IsCapital byte
  · have bounds := (isCapital_iff byte).mp capital
    simp only [lowerByte_of_isCapital capital, if_pos capital, UInt8.toNat_add, UInt8.reduceToNat]
    omega
  · rw [lowerByte_of_not_isCapital capital, if_neg capital, Nat.add_zero]

/-- No capital letter is left. -/
theorem not_isCapital_lowerByte (byte : UInt8) : ¬ IsCapital (lowerByte byte) := by
  rw [isCapital_iff, toNat_lowerByte]
  split
  · next capital =>
      rw [isCapital_iff] at capital
      omega
  · next other =>
      rwa [isCapital_iff] at other

theorem lowerByte_eq_iff (first second : UInt8) :
    lowerByte first = lowerByte second ↔ SameLetter first second := by
  simp only [SameLetter, ← UInt8.toNat_inj, toNat_lowerByte, isCapital_iff, UInt8.toNat_add,
    UInt8.reduceToNat]
  split <;> split <;> omega

theorem lowerByte_eq_zero_iff (byte : UInt8) : lowerByte byte = 0 ↔ byte = 0 := by
  simp only [← UInt8.toNat_inj, toNat_lowerByte, isCapital_iff, UInt8.reduceToNat]
  split <;> omega

/-- Small letters are equal exactly for byte strings that differ only in letter case. -/
theorem lower_eq_lower_iff (first second : Bytes) :
    lower first = lower second ↔ SameButCase first second := by
  rw [lower, lower, ← List.forall₂_eq_eq_eq, List.forall₂_map_left_iff, List.forall₂_map_right_iff,
    SameButCase]
  simp only [lowerByte_eq_iff]

theorem not_isCapital_of_mem_lower {bytes : Bytes} {byte : UInt8} (member : byte ∈ lower bytes) :
    ¬ IsCapital byte := by
  obtain ⟨before, _, rfl⟩ := List.mem_map.mp member
  exact not_isCapital_lowerByte before

theorem lower_of_not_isCapital {bytes : Bytes} (none : ∀ byte ∈ bytes, ¬ IsCapital byte) :
    lower bytes = bytes := by
  rw [lower, List.map_congr_left fun byte member => lowerByte_of_not_isCapital (none byte member),
    List.map_id']

theorem zero_mem_lower_iff (bytes : Bytes) : 0 ∈ lower bytes ↔ 0 ∈ bytes := by
  simp only [lower, List.mem_map, lowerByte_eq_zero_iff, exists_eq_right]

/-- Small letters leave the first NUL where it is. -/
theorem firstNul?_lower (bytes : Bytes) : firstNul? (lower bytes) = firstNul? bytes := by
  have same (byte : UInt8) : (lowerByte byte == 0) = (byte == 0) := by
    rw [Bool.eq_iff_iff, beq_iff_eq, beq_iff_eq, lowerByte_eq_zero_iff]
  rw [firstNul?, lower, List.findIdx?_map, firstNul?]
  exact congrArg (List.findIdx? · bytes) (funext same)

end Bytes

namespace Text.Utf8

theorem encodeChar_of_lt {char : Char} (small : char.toNat < 0x80) :
    encodeChar char = [char.toNat.toUInt8] := if_pos small

/-- A sequence of several bytes has no byte of ASCII. -/
theorem le_of_mem_encodeChar {char : Char} (large : 0x80 ≤ char.toNat) {byte : UInt8}
    (member : byte ∈ encodeChar char) : 0x80 ≤ byte.toNat := by
  have valid : char.toNat < 0xD800 ∨ 0xDFFF < char.toNat ∧ char.toNat < 0x110000 := char.valid
  have within {value : Nat} (low : 0x80 ≤ value) (high : value < 0x100) :
      0x80 ≤ value.toUInt8.toNat := by
    rwa [toNat_toUInt8 value high]
  rw [encodeChar, if_neg (Nat.not_lt.mpr large)] at member
  split at member
  · next two =>
      simp only [List.mem_cons, List.not_mem_nil, or_false] at member
      rcases member with rfl | rfl <;> exact within (by omega) (by omega)
  split at member
  · next three =>
      simp only [List.mem_cons, List.not_mem_nil, or_false] at member
      rcases member with rfl | rfl | rfl <;> exact within (by omega) (by omega)
  · next four =>
      simp only [List.mem_cons, List.not_mem_nil, or_false] at member
      rcases member with rfl | rfl | rfl | rfl <;> exact within (by omega) (by omega)

theorem toNat_toLower (char : Char) :
    char.toLower.toNat = char.toNat + if 65 ≤ char.toNat ∧ char.toNat ≤ 90 then 32 else 0 := by
  have bounds : (char.val ≥ 'A'.val ∧ char.val ≤ 'Z'.val) ↔ 65 ≤ char.toNat ∧ char.toNat ≤ 90 := by
    simp only [ge_iff_le, UInt32.le_iff_toNat_le]
    rfl
  by_cases capital : char.val ≥ 'A'.val ∧ char.val ≤ 'Z'.val
  · have within : 65 ≤ char.val.toNat ∧ char.val.toNat ≤ 90 := bounds.mp capital
    have lowered : char.toLower.val = char.val + 32 := congrArg Char.val (dif_pos capital)
    rw [if_pos (bounds.mp capital)]
    change char.toLower.val.toNat = char.val.toNat + 32
    simp only [lowered, UInt32.toNat_add, UInt32.reduceToNat]
    omega
  · have kept : char.toLower = char := dif_neg capital
    rw [kept, if_neg (mt bounds.mpr capital), Nat.add_zero]

theorem lower_encodeChar (char : Char) :
    Bytes.lower (encodeChar char) = encodeChar char.toLower := by
  have lowered := toNat_toLower char
  by_cases small : char.toNat < 0x80
  · have stillSmall : char.toLower.toNat < 0x80 := by
      split at lowered <;> omega
    rw [encodeChar_of_lt small, encodeChar_of_lt stillSmall, Bytes.lower, List.map_singleton,
      List.cons.injEq, and_iff_left rfl, ← UInt8.toNat_inj, Bytes.toNat_lowerByte,
      toNat_toUInt8 _ (by omega), toNat_toUInt8 _ (by omega), lowered]
    simp only [Bytes.isCapital_iff, toNat_toUInt8 _ (by omega : char.toNat < 0x100)]
  · have same : char.toLower = char := by
      rw [if_neg (by omega), Nat.add_zero] at lowered
      exact Char.toNat_inj.mp lowered
    rw [same]
    refine Bytes.lower_of_not_isCapital fun byte member => ?_
    have large := le_of_mem_encodeChar (Nat.not_lt.mp small) member
    rw [Bytes.isCapital_iff]
    omega

/-- Small letters in the encoding of a text are small letters in the text. -/
theorem lower_encode (text : String) : Bytes.lower (encode text) = encode text.toLower := by
  have each : text.toLower.toList = text.toList.map Char.toLower := String.toList_map
  rw [encode, encode, each, List.flatMap_map, Bytes.lower, List.map_flatMap]
  exact congrArg (List.flatMap · text.toList) (funext lower_encodeChar)

/-- A letter in the other case is a character still, and no other byte changes. -/
theorem exists_encodeChar_of_lower {bytes : Bytes} {char : Char}
    (lowered : Bytes.lower bytes = encodeChar char) : ∃ other, encodeChar other = bytes := by
  by_cases small : char.toNat < 0x80
  · rw [encodeChar_of_lt small, Bytes.lower] at lowered
    obtain ⟨byte, rest, rfl, isByte, isRest⟩ := List.map_eq_cons_iff.mp lowered
    obtain rfl := List.map_eq_nil_iff.mp isRest
    have smallByte : byte.toNat < 0x80 := by
      have sameNat := congrArg UInt8.toNat isByte
      rw [Bytes.toNat_lowerByte, toNat_toUInt8 _ (by omega)] at sameNat
      omega
    refine ⟨Char.ofNat byte.toNat, ?_⟩
    rw [encodeChar_ofNat (.inl (by omega)), if_pos smallByte, eq_toUInt8 byte rfl]
  · have noCapital (byte : UInt8) (member : byte ∈ bytes) : ¬ Bytes.IsCapital byte := by
      intro capital
      have isLarge : 0x80 ≤ (Bytes.lowerByte byte).toNat := by
        apply le_of_mem_encodeChar (Nat.not_lt.mp small)
        rw [← lowered]
        exact List.mem_map_of_mem member
      rw [Bytes.toNat_lowerByte, if_pos capital] at isLarge
      rw [Bytes.isCapital_iff] at capital
      omega
    exact ⟨char, lowered.symm.trans (Bytes.lower_of_not_isCapital noCapital)⟩

/-- What is a text in small letters is one as it stands. -/
theorem exists_encode_of_lower {bytes : Bytes} {text : String}
    (lowered : Bytes.lower bytes = encode text) : ∃ other, encode other = bytes := by
  have onward (chars : List Char) (bytes : Bytes)
      (lowered : Bytes.lower bytes = chars.flatMap encodeChar) :
      ∃ others : List Char, others.flatMap encodeChar = bytes := by
    induction chars generalizing bytes with
    | nil => exact ⟨[], (List.map_eq_nil_iff.mp lowered).symm⟩
    | cons char chars ih =>
        rw [List.flatMap_cons] at lowered
        obtain ⟨first, rest, rfl, isFirst, isRest⟩ := List.map_eq_append_iff.mp lowered
        obtain ⟨other, rfl⟩ := exists_encodeChar_of_lower isFirst
        obtain ⟨others, rfl⟩ := ih rest isRest
        exact ⟨other :: others, List.flatMap_cons⟩
  obtain ⟨others, isBytes⟩ := onward text.toList bytes lowered
  exact ⟨.ofList others, by rwa [encode, String.toList_ofList]⟩

end Text.Utf8

end PluginHost
