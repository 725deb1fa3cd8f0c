import PluginHost.Proofs.Outcome
import PluginHost.Text.Utf8

/-!
# Reading what was encoded

Strict reading gives back exactly the text that was encoded, and accepts nothing but encodings.
While a sequence is under way, it can only be completed to the encoding of the value that it
carries.
-/

namespace PluginHost.Text.Utf8

/-! ## The encoding of strings -/

theorem encodeChar_eq_utf8EncodeChar (char : Char) :
    encodeChar char = String.utf8EncodeChar char := by
  have bound : char.val.toNat < 0x110000 := by
    rcases char.valid with low | ⟨_, high⟩
    · omega
    · exact high
  simp only [encodeChar, String.utf8EncodeChar, Char.toNat]
  generalize char.val.toNat = code at bound
  by_cases one : code < 0x80
  · rw [if_pos one, if_pos (by omega)]
  by_cases two : code < 0x800
  · rw [if_neg one, if_pos two, if_neg (by omega), if_pos (by omega),
      Nat.mod_eq_of_lt (by omega : code / 64 < 0x20), Nat.add_comm, Nat.add_comm (code % _)]
  by_cases three : code < 0x10000
  · rw [if_neg one, if_neg two, if_pos three, if_neg (by omega), if_neg (by omega),
      if_pos (by omega), Nat.mod_eq_of_lt (by omega : code / 4096 < 0x10), Nat.add_comm,
      Nat.add_comm (code / 64 % _), Nat.add_comm (code % _)]
  · rw [if_neg one, if_neg two, if_neg three, if_neg (by omega), if_neg (by omega),
      if_neg (by omega), Nat.mod_eq_of_lt (by omega : code / 262144 < 0x08), Nat.add_comm,
      Nat.add_comm (code / 4096 % _), Nat.add_comm (code / 64 % _), Nat.add_comm (code % _)]

/-- The encoding is that of strings themselves. -/
theorem encode_toByteArray (text : String) : (encode text).toByteArray = text.toByteArray := by
  rw [← String.utf8Encode_toList, encode, List.utf8Encode, funext encodeChar_eq_utf8EncodeChar]

/-! ## First bytes -/

variable {pieces : List Piece} {byte : UInt8}

theorem begin_one (small : byte.toNat < 0x80) :
    begin pieces byte = ⟨.scalar (Char.ofNat byte.toNat) :: pieces, none⟩ := by
  simp only [begin, UInt8.lt_iff_toNat_lt]
  exact if_pos small

theorem begin_two (low : 0xC2 ≤ byte.toNat) (high : byte.toNat < 0xE0) :
    begin pieces byte = ⟨pieces, some ⟨[byte], byte.toNat - 0xC0, 0x80, 0xBF, 0⟩⟩ := by
  simp only [begin, UInt8.lt_iff_toNat_lt, UInt8.reduceToNat]
  rw [if_neg (by omega), if_neg (by omega), if_pos high]

theorem begin_three (low : 0xE0 ≤ byte.toNat) (high : byte.toNat < 0xF0) :
    begin pieces byte = ⟨pieces, some ⟨[byte], byte.toNat - 0xE0,
      if byte = 0xE0 then 0xA0 else 0x80, if byte = 0xED then 0x9F else 0xBF, 1⟩⟩ := by
  by_cases least : byte = 0xE0
  · subst least; rfl
  by_cases surrogate : byte = 0xED
  · subst surrogate; rfl
  simp only [begin, least, surrogate, UInt8.lt_iff_toNat_lt, UInt8.reduceToNat, ↓reduceIte]
  rw [if_neg (by omega), if_neg (by omega), if_neg (by omega), if_pos high]

theorem begin_four (low : 0xF0 ≤ byte.toNat) (high : byte.toNat < 0xF5) :
    begin pieces byte = ⟨pieces, some ⟨[byte], byte.toNat - 0xF0,
      if byte = 0xF0 then 0x90 else 0x80, if byte = 0xF4 then 0x8F else 0xBF, 2⟩⟩ := by
  by_cases least : byte = 0xF0
  · subst least; rfl
  by_cases greatest : byte = 0xF4
  · subst greatest; rfl
  simp only [begin, least, greatest, UInt8.lt_iff_toNat_lt, UInt8.reduceToNat, ↓reduceIte]
  simp only [← UInt8.toNat_inj, UInt8.reduceToNat] at greatest ⊢
  rw [if_neg (by omega), if_neg (by omega), if_neg (by omega), if_neg (by omega),
    if_neg (by omega), if_neg (by omega), if_pos (by omega)]

theorem begin_stray (stray : 0x80 ≤ byte.toNat ∧ byte.toNat < 0xC2 ∨ 0xF5 ≤ byte.toNat) :
    begin pieces byte = ⟨.malformed [byte] :: pieces, none⟩ := by
  simp only [begin, UInt8.lt_iff_toNat_lt, ← UInt8.toNat_inj, UInt8.reduceToNat]
  rw [if_neg (by omega)]
  rcases stray with ⟨low, high⟩ | low
  · exact if_pos high
  · rw [if_neg (by omega), if_neg (by omega), if_neg (by omega), if_neg (by omega),
      if_neg (by omega), if_neg (by omega), if_neg (by omega), if_neg (by omega)]

/-! ## Encodings of numbers -/

theorem encodeChar_ofNat {code : Nat} (valid : code.isValidChar) :
    encodeChar (Char.ofNat code) =
      if code < 0x80 then [code.toUInt8]
      else if code < 0x800 then [(0xC0 + code / 0x40).toUInt8, (0x80 + code % 0x40).toUInt8]
      else if code < 0x10000 then
        [(0xE0 + code / 0x1000).toUInt8, (0x80 + code / 0x40 % 0x40).toUInt8,
          (0x80 + code % 0x40).toUInt8]
      else
        [(0xF0 + code / 0x40000).toUInt8, (0x80 + code / 0x1000 % 0x40).toUInt8,
          (0x80 + code / 0x40 % 0x40).toUInt8, (0x80 + code % 0x40).toUInt8] := by
  have value : (Char.ofNat code).toNat = code := by
    rw [Char.ofNat, dif_pos valid]
    rfl
  rw [encodeChar, value]

theorem eq_toUInt8 (byte : UInt8) {value : Nat} (same : byte.toNat = value) :
    value.toUInt8 = byte := by
  rw [← same]
  exact UInt8.ofNat_toNat

/-- A byte that goes on with a sequence. -/
def IsLater (byte : UInt8) : Prop := 0x80 ≤ byte.toNat ∧ byte.toNat ≤ 0xBF

/-- The value that a sequence carries after some more bytes. -/
def carried (value : Nat) (bytes : Bytes) : Nat :=
  bytes.foldl (fun value byte => value * 0x40 + (byte.toNat - 0x80)) value

theorem carried_cons (value : Nat) (byte : UInt8) (rest : Bytes) :
    carried value (byte :: rest) = carried (value * 0x40 + (byte.toNat - 0x80)) rest := by
  simp only [carried, List.foldl_cons]

/-- All that can complete a sequence makes it the encoding of the value carried. -/
def Partial.Leads (sequence : Partial) : Prop :=
  ∀ byte later, sequence.low ≤ byte → byte ≤ sequence.high → later.length = sequence.later →
    (∀ byte ∈ later, IsLater byte) →
    encodeChar (Char.ofNat (carried sequence.value (byte :: later))) =
      sequence.bytes ++ byte :: later

theorem leads_two (low : 0xC2 ≤ byte.toNat) (high : byte.toNat < 0xE0) :
    Partial.Leads ⟨[byte], byte.toNat - 0xC0, 0x80, 0xBF, 0⟩ := by
  intro second later above below length _
  obtain rfl := List.length_eq_zero_iff.mp length
  simp only [UInt8.le_iff_toNat_le, UInt8.reduceToNat] at above below
  simp only [carried, List.foldl_cons, List.foldl_nil]
  rw [encodeChar_ofNat (.inl (by omega)), if_neg (by omega), if_pos (by omega)]
  simp only [List.cons_append, List.nil_append]
  rw [eq_toUInt8 byte (by omega), eq_toUInt8 second (by omega)]

theorem leads_three (low : 0xE0 ≤ byte.toNat) (high : byte.toNat < 0xF0) :
    Partial.Leads ⟨[byte], byte.toNat - 0xE0, if byte = 0xE0 then 0xA0 else 0x80,
      if byte = 0xED then 0x9F else 0xBF, 1⟩ := by
  intro second later above below length isLater
  obtain ⟨third, rfl⟩ := List.length_eq_one_iff.mp length
  obtain ⟨aboveThird, belowThird⟩ := isLater third (List.mem_singleton_self third)
  simp only [UInt8.le_iff_toNat_le, ← UInt8.toNat_inj, apply_ite UInt8.toNat,
    UInt8.reduceToNat] at above below
  -- These bounds keep out what has a shorter encoding, and surrogates.
  have atLeast : 0x80 ≤ second.toNat ∧ (byte.toNat = 0xE0 → 0xA0 ≤ second.toNat) := by
    split at above <;> omega
  have atMost : second.toNat ≤ 0xBF ∧ (byte.toNat = 0xED → second.toNat ≤ 0x9F) := by
    split at below <;> omega
  simp only [carried, List.foldl_cons, List.foldl_nil]
  rw [encodeChar_ofNat (by unfold Nat.isValidChar; omega), if_neg (by omega), if_neg (by omega),
    if_pos (by omega)]
  simp only [List.cons_append, List.nil_append]
  rw [eq_toUInt8 byte (by omega), eq_toUInt8 second (by omega),
    eq_toUInt8 third (by omega)]

theorem leads_four (low : 0xF0 ≤ byte.toNat) (high : byte.toNat < 0xF5) :
    Partial.Leads ⟨[byte], byte.toNat - 0xF0, if byte = 0xF0 then 0x90 else 0x80,
      if byte = 0xF4 then 0x8F else 0xBF, 2⟩ := by
  intro second later above below length isLater
  obtain ⟨third, fourth, rfl⟩ : ∃ third fourth, later = [third, fourth] := by
    match later, length with
    | [third, fourth], _ => exact ⟨third, fourth, rfl⟩
  obtain ⟨aboveThird, belowThird⟩ := isLater third (by simp)
  obtain ⟨aboveFourth, belowFourth⟩ := isLater fourth (by simp)
  simp only [UInt8.le_iff_toNat_le, ← UInt8.toNat_inj, apply_ite UInt8.toNat,
    UInt8.reduceToNat] at above below
  -- These bounds keep out what has a shorter encoding, and what is above all scalars.
  have atLeast : 0x80 ≤ second.toNat ∧ (byte.toNat = 0xF0 → 0x90 ≤ second.toNat) := by
    split at above <;> omega
  have atMost : second.toNat ≤ 0xBF ∧ (byte.toNat = 0xF4 → second.toNat ≤ 0x8F) := by
    split at below <;> omega
  simp only [carried, List.foldl_cons, List.foldl_nil]
  rw [encodeChar_ofNat (by unfold Nat.isValidChar; omega), if_neg (by omega), if_neg (by omega),
    if_neg (by omega)]
  simp only [List.cons_append, List.nil_append]
  rw [eq_toUInt8 byte (by omega), eq_toUInt8 second (by omega),
    eq_toUInt8 third (by omega), eq_toUInt8 fourth (by omega)]

/-! ## What has been read -/

def Piece.bytes : Piece → Bytes
  | scalar char => encodeChar char
  | malformed bytes => bytes

/-- The bytes of the pieces and of the sequence under way are those that have been read. -/
structure Reading.Covers (reading : Reading) (bytes : Bytes) : Prop where
  bytes_eq : reading.pieces.reverse.flatMap Piece.bytes ++
    (reading.underway.map Partial.bytes).getD [] = bytes
  leads : ∀ sequence, reading.underway = some sequence → sequence.Leads

/-- A first byte is a piece by itself, or a sequence is under way. -/
theorem begin_cases (pieces : List Piece) (byte : UInt8) :
    (∃ piece : Piece, piece.bytes = [byte] ∧ begin pieces byte = ⟨piece :: pieces, none⟩) ∨
      ∃ sequence : Partial, sequence.bytes = [byte] ∧ sequence.Leads ∧
        begin pieces byte = ⟨pieces, some sequence⟩ := by
  rcases Nat.lt_or_ge byte.toNat 0x80 with small | notSmall
  · refine .inl ⟨_, ?_, begin_one small⟩
    rw [Piece.bytes, encodeChar_ofNat (.inl (by omega)), if_pos small, eq_toUInt8 _ rfl]
  by_cases stray : 0x80 ≤ byte.toNat ∧ byte.toNat < 0xC2 ∨ 0xF5 ≤ byte.toNat
  · exact .inl ⟨_, rfl, begin_stray stray⟩
  rcases Nat.lt_or_ge byte.toNat 0xE0 with two | notTwo
  · exact .inr ⟨_, rfl, leads_two (by omega) two, begin_two (by omega) two⟩
  rcases Nat.lt_or_ge byte.toNat 0xF0 with three | notThree
  · exact .inr ⟨_, rfl, leads_three notTwo three, begin_three notTwo three⟩
  · exact .inr ⟨_, rfl, leads_four notThree (by omega), begin_four notThree (by omega)⟩

theorem begin_covers {bytes : Bytes} (covered : pieces.reverse.flatMap Piece.bytes = bytes)
    (byte : UInt8) : (begin pieces byte).Covers (bytes ++ [byte]) := by
  rcases begin_cases pieces byte with ⟨piece, same, begun⟩ | ⟨sequence, same, leads, begun⟩
  · rw [begun]
    exact ⟨by simp [covered, same], by simp⟩
  · rw [begun]
    exact ⟨by simp [covered, same], by rintro _ ⟨rfl⟩; exact leads⟩

/-- A byte that a sequence expects leads on, or completes the sequence. -/
theorem Partial.Leads.next {sequence : Partial} (leads : sequence.Leads)
    (above : sequence.low ≤ byte) (below : byte ≤ sequence.high) {later : Nat}
    (due : sequence.later = later + 1) :
    Partial.Leads ⟨sequence.bytes ++ [byte], sequence.value * 0x40 + (byte.toNat - 0x80), 0x80,
      0xBF, later⟩ := by
  intro second rest aboveSecond belowSecond length isLater
  have isLaterSecond : IsLater second :=
    ⟨UInt8.le_iff_toNat_le.mp aboveSecond, UInt8.le_iff_toNat_le.mp belowSecond⟩
  have whole := leads byte (second :: rest) above below
    (by rw [due, List.length_cons]; exact congrArg Nat.succ length)
    (List.forall_mem_cons.mpr ⟨isLaterSecond, isLater⟩)
  rw [carried_cons] at whole
  rw [List.append_assoc, whole]
  rfl

theorem next_covers {reading : Reading} {bytes : Bytes} (covers : reading.Covers bytes)
    (byte : UInt8) : (next reading byte).Covers (bytes ++ [byte]) := by
  obtain ⟨pieces, underway⟩ := reading
  cases underway with
  | none => exact begin_covers ((List.append_nil _).symm.trans covers.bytes_eq) byte
  | some sequence =>
      have bytes_eq := covers.bytes_eq
      have leads := covers.leads sequence rfl
      simp only [Option.map_some, Option.getD_some] at bytes_eq
      simp only [next]
      split
      · next within =>
          split
          · next due =>
              have whole := leads byte [] within.1 within.2 due.symm (by simp)
              refine ⟨?_, by simp⟩
              simp only [carried, List.foldl_cons, List.foldl_nil] at whole
              simp [← bytes_eq, Piece.bytes, whole]
          · next later due =>
              refine ⟨?_, ?_⟩
              · rw [← bytes_eq]
                simp
              · rintro _ ⟨rfl⟩
                exact leads.next within.1 within.2 due
      · refine begin_covers ?_ byte
        rw [← bytes_eq]
        simp [Piece.bytes]

theorem read_covers (bytes : Bytes) : (read bytes).Covers bytes := by
  have onward (done later : Bytes) (reading : Reading) (covers : reading.Covers done) :
      (later.foldl next reading).Covers (done ++ later) := by
    induction later generalizing done reading with
    | nil => rwa [List.append_nil]
    | cons byte later ih =>
        have covered := ih _ _ (next_covers covers byte)
        rwa [List.append_assoc] at covered
  exact onward [] bytes ⟨[], none⟩ ⟨rfl, by simp⟩

theorem pieces_suffix_begin (pieces : List Piece) (byte : UInt8) :
    pieces <:+ (begin pieces byte).pieces := by
  rcases begin_cases pieces byte with ⟨piece, _, begun⟩ | ⟨sequence, _, _, begun⟩
  · exact begun ▸ List.suffix_cons piece pieces
  · exact begun ▸ List.suffix_rfl

/-- What has been read stays. -/
theorem pieces_suffix_foldl_next (bytes : Bytes) (reading : Reading) :
    reading.pieces <:+ (bytes.foldl next reading).pieces := by
  induction bytes generalizing reading with
  | nil => exact List.suffix_rfl
  | cons byte bytes ih =>
      refine List.IsSuffix.trans ?_ (ih (next reading byte))
      unfold next
      split
      · exact pieces_suffix_begin reading.pieces byte
      · split
        · split
          · exact List.suffix_cons _ reading.pieces
          · exact List.suffix_rfl
        · exact (List.suffix_cons _ reading.pieces).trans (pieces_suffix_begin _ byte)

/-! ## Reading encodings -/

/-- The bytes that a sequence expects complete it. -/
theorem foldl_next_complete {sequence : Partial} {later : Bytes} (above : sequence.low ≤ byte)
    (below : byte ≤ sequence.high) (due : later.length = sequence.later)
    (isLater : ∀ byte ∈ later, IsLater byte) :
    (byte :: later).foldl next ⟨pieces, some sequence⟩ =
      ⟨.scalar (Char.ofNat (carried sequence.value (byte :: later))) :: pieces, none⟩ := by
  induction later generalizing sequence byte with
  | nil =>
      rw [List.foldl_cons, List.foldl_nil, next]
      simp only [above, below, and_self, ↓reduceIte, ← due, List.length_nil]
      rfl
  | cons second later ih =>
      rw [List.forall_mem_cons] at isLater
      obtain ⟨⟨least, most⟩, isLater⟩ := isLater
      have step : next ⟨pieces, some sequence⟩ byte = ⟨pieces, some ⟨sequence.bytes ++ [byte],
          sequence.value * 0x40 + (byte.toNat - 0x80), 0x80, 0xBF, later.length⟩⟩ := by
        simp only [next, above, below, and_self, ↓reduceIte, ← due, List.length_cons]
      have above : 0x80 ≤ second := UInt8.le_iff_toNat_le.mpr least
      have below : second ≤ 0xBF := UInt8.le_iff_toNat_le.mpr most
      rw [List.foldl_cons, step, carried_cons, ih above below rfl isLater]

theorem toNat_toUInt8 (value : Nat) (small : value < 0x100) : value.toUInt8.toNat = value :=
  UInt8.toNat_ofNat_of_lt' small

/-- A first byte and the bytes that it expects are read as the character whose value they carry. -/
theorem foldl_next_scalar {sequence : Partial} {second : UInt8} {later : Bytes} {char : Char}
    (first : begin pieces byte = ⟨pieces, some sequence⟩) (above : sequence.low ≤ second)
    (below : second ≤ sequence.high) (due : later.length = sequence.later)
    (isLater : ∀ byte ∈ later, IsLater byte)
    (value : carried sequence.value (second :: later) = char.toNat) :
    (byte :: second :: later).foldl next ⟨pieces, none⟩ = ⟨.scalar char :: pieces, none⟩ := by
  have start : next ⟨pieces, none⟩ byte = ⟨pieces, some sequence⟩ := first
  rw [List.foldl_cons, start, foldl_next_complete above below due isLater, value,
    Char.ofNat_toNat]

theorem foldl_next_encodeChar (char : Char) :
    (encodeChar char).foldl next ⟨pieces, none⟩ = ⟨.scalar char :: pieces, none⟩ := by
  have valid : char.toNat < 0xD800 ∨ 0xDFFF < char.toNat ∧ char.toNat < 0x110000 := char.valid
  rw [encodeChar]
  split
  · next small =>
      have start : next ⟨pieces, none⟩ char.toNat.toUInt8 = begin pieces char.toNat.toUInt8 := rfl
      have same := toNat_toUInt8 char.toNat (by omega)
      rw [List.foldl_cons, List.foldl_nil, start, begin_one (by rw [same]; exact small), same,
        Char.ofNat_toNat]
  split
  · next two =>
      have first := toNat_toUInt8 (0xC0 + char.toNat / 0x40) (by omega)
      apply foldl_next_scalar (begin_two (by omega) (by omega))
      · simp [UInt8.le_iff_toNat_le]; omega
      · simp [UInt8.le_iff_toNat_le]; omega
      · rfl
      · simp
      · simp [carried]; omega
  split
  · next three =>
      have first := toNat_toUInt8 (0xE0 + char.toNat / 0x1000) (by omega)
      apply foldl_next_scalar (begin_three (by omega) (by omega))
      · simp [UInt8.le_iff_toNat_le, ← UInt8.toNat_inj, apply_ite UInt8.toNat]
        split <;> omega
      · simp [UInt8.le_iff_toNat_le, ← UInt8.toNat_inj, apply_ite UInt8.toNat]
        split <;> omega
      · rfl
      · simp [IsLater]; omega
      · simp [carried]; omega
  · next four =>
      have first := toNat_toUInt8 (0xF0 + char.toNat / 0x40000) (by omega)
      apply foldl_next_scalar (begin_four (by omega) (by omega))
      · simp [UInt8.le_iff_toNat_le, ← UInt8.toNat_inj, apply_ite UInt8.toNat]
        split <;> omega
      · simp [UInt8.le_iff_toNat_le, ← UInt8.toNat_inj, apply_ite UInt8.toNat]
        split <;> omega
      · rfl
      · simp [IsLater]; omega
      · simp [carried]; omega

/-- The first character of an encoding is read first, whatever follows. -/
theorem read_encodeChar_append (char : Char) (rest : Bytes) :
    (read (encodeChar char ++ rest)).pieces.getLast? = some (.scalar char) := by
  rw [read, List.foldl_append, foldl_next_encodeChar]
  obtain ⟨later, same⟩ := pieces_suffix_foldl_next rest ⟨[.scalar char], none⟩
  rw [← same]
  exact List.getLast?_concat

theorem read_encode (text : String) :
    read (encode text) = ⟨(text.toList.map .scalar).reverse, none⟩ := by
  have onward (chars : List Char) (pieces : List Piece) :
      (chars.flatMap encodeChar).foldl next ⟨pieces, none⟩ =
        ⟨(chars.map .scalar).reverse ++ pieces, none⟩ := by
    induction chars generalizing pieces with
    | nil => rfl
    | cons char chars ih =>
        rw [List.flatMap_cons, List.foldl_append, foldl_next_encodeChar, ih]
        simp
  rw [read, encode, onward, List.append_nil]

theorem decodePieces_eq_ok_iff {underway : Option Partial} {done chars : List Char} {index : Nat} :
    decodePieces underway pieces done index = .ok chars ↔
      underway = none ∧ ∃ later : List Char, pieces = later.map .scalar ∧
        done.reverse ++ later = chars := by
  induction pieces generalizing done index with
  | nil => cases underway <;> simp [decodePieces]
  | cons piece pieces ih =>
      cases piece with
      | malformed bytes =>
          simp only [decodePieces, reduceCtorEq, false_iff]
          rintro ⟨_, _ | ⟨char, later⟩, same, _⟩ <;> cases same
      | scalar char =>
          rw [decodePieces, ih]
          refine and_congr_right fun _ => ⟨?_, ?_⟩
          · rintro ⟨later, rfl, rfl⟩
            exact ⟨char :: later, rfl, by simp⟩
          · rintro ⟨_ | ⟨other, later⟩, same, rfl⟩
            · cases same
            · cases same
              exact ⟨later, rfl, by simp⟩

/-- Strict reading accepts exactly what encoding produces. -/
theorem decode_eq_ok_iff {bytes : Bytes} {text : String} :
    decode bytes = .ok text ↔ encode text = bytes := by
  simp only [decode, Outcome.map_eq_ok, decodePieces_eq_ok_iff]
  constructor
  · rintro ⟨chars, ⟨ended, later, pieces_eq, rfl⟩, rfl⟩
    have bytes_eq := (read_covers bytes).bytes_eq
    rw [ended, pieces_eq] at bytes_eq
    rw [encode, String.toList_ofList]
    simpa [List.flatMap_map, Piece.bytes] using bytes_eq
  · rintro rfl
    rw [read_encode]
    exact ⟨text.toList, ⟨rfl, text.toList, by simp, rfl⟩, String.ofList_toList⟩

theorem decode?_eq_some_iff {bytes : Bytes} {text : String} :
    decode? bytes = some text ↔ encode text = bytes := by
  rw [← decode_eq_ok_iff, decode?]
  cases decode bytes with
  | error fault => simp [Except.toOption]
  | ok other => simp [Except.toOption]

theorem decode?_eq_none_iff {bytes : Bytes} :
    decode? bytes = none ↔ ∀ text, encode text ≠ bytes := by
  rw [Option.eq_none_iff_forall_ne_some]
  simp only [Ne, decode?_eq_some_iff]

/-- Strict reading finds a fault exactly in what encodes no text. -/
theorem exists_decode_eq_error_iff {bytes : Bytes} :
    (∃ fault, decode bytes = .error fault) ↔ ∀ text, encode text ≠ bytes := by
  simp only [Outcome.exists_error_iff, ne_eq, decode_eq_ok_iff]

theorem decode?_encode (text : String) : decode? (encode text) = some text :=
  decode?_eq_some_iff.mpr rfl

theorem encode_injective {first second : String} (same : encode first = encode second) :
    first = second :=
  Option.some.inj ((decode?_encode first).symm.trans (same ▸ decode?_encode second))

end PluginHost.Text.Utf8
