import PluginHost.Proofs.Text.Utf8.WellFormed

/-!
# Faults

What strict reading says of bytes that are no text. The index is where the longest well-formed
beginning ends. Bytes are incomplete if more of them would make a text; else the length is that of
the longest part behind the index that some character could begin with, and at least one.
-/

namespace PluginHost.Text.Utf8

/-! ## What is said -/

/-- More bytes would make a text. -/
def Completable (bytes : Bytes) : Prop := ∃ more, WellFormed (bytes ++ more)

/-- The longest beginning of the bytes for which something holds. -/
structure Longest (Holds : Bytes → Prop) (bytes front : Bytes) : Prop where
  leads : front <+: bytes
  holds : Holds front
  length_le : ∀ other, other <+: bytes → Holds other → other.length ≤ front.length

inductive Describes (bytes : Bytes) : Fault → Prop where
  | incomplete {front : Bytes} (longest : Longest WellFormed bytes front)
      (completable : Completable bytes) : Describes bytes (.incomplete front.length)
  | invalid {front rest begun : Bytes} (whole : front ++ rest = bytes)
      (longest : Longest WellFormed bytes front) (hopeless : ¬ Completable bytes)
      (longestBegun : Longest Completable rest begun) :
      Describes bytes (.invalid front.length (max 1 begun.length))

/-! ## Beginnings -/

variable {bytes front rest more other : Bytes} {byte : UInt8} {chars : List Char}
  {Holds : Bytes → Prop}

theorem Longest.unique (longest : Longest Holds bytes front) (longestToo : Longest Holds bytes other) :
    front = other := by
  have sameLength := Nat.le_antisymm (longestToo.length_le front longest.leads longest.holds)
    (longest.length_le other longestToo.leads longestToo.holds)
  exact (List.prefix_of_prefix_length_le longest.leads longestToo.leads
    (Nat.le_of_eq sameLength)).eq_of_length sameLength

theorem Describes.unique {first second : Fault} (describes : Describes bytes first)
    (describesToo : Describes bytes second) : first = second := by
  cases describes with
  | incomplete longest completable =>
      cases describesToo with
      | incomplete longestToo _ => rw [longest.unique longestToo]
      | invalid _ _ hopeless _ => exact absurd completable hopeless
  | invalid whole longest hopeless longestBegun =>
      cases describesToo with
      | incomplete _ completable => exact absurd completable hopeless
      | invalid wholeToo longestToo _ longestBegunToo =>
          obtain rfl := longest.unique longestToo
          obtain rfl := List.append_cancel_left (whole.trans wholeToo.symm)
          rw [longestBegun.unique longestBegunToo]

theorem WellFormed.completable (wellFormed : WellFormed bytes) : Completable bytes :=
  ⟨[], by rwa [List.append_nil]⟩

theorem Completable.of_append (completable : Completable (bytes ++ rest)) : Completable bytes := by
  obtain ⟨more, wellFormed⟩ := completable
  exact ⟨rest ++ more, by rwa [← List.append_assoc]⟩

theorem Completable.of_prefix (completable : Completable bytes) (leads : front <+: bytes) :
    Completable front := by
  obtain ⟨rest, rfl⟩ := leads
  exact completable.of_append

/-- Somewhere is the first byte after which nothing helps. -/
theorem exists_first_fault (hopeless : ¬ Completable bytes) :
    ∃ front byte rest, front ++ byte :: rest = bytes ∧ Completable front ∧
      ¬ Completable (front ++ [byte]) := by
  have onward (rest front : Bytes) (completable : Completable front)
      (hopeless : ¬ Completable (front ++ rest)) : ∃ earlier byte later,
        earlier ++ byte :: later = front ++ rest ∧ Completable earlier ∧
          ¬ Completable (earlier ++ [byte]) := by
    induction rest generalizing front with
    | nil =>
        rw [List.append_nil] at hopeless
        exact absurd completable hopeless
    | cons byte rest ih =>
        by_cases further : Completable (front ++ [byte])
        · rw [List.append_cons] at hopeless ⊢
          exact ih (front ++ [byte]) further hopeless
        · exact ⟨front, byte, rest, rfl, completable, further⟩
  exact onward bytes [] WellFormed.nil.completable hopeless

/-- What can be completed ends before that byte. -/
theorem Completable.prefix_of_fault (completable : Completable other)
    (leads : other <+: front ++ byte :: rest) (hopeless : ¬ Completable (front ++ [byte])) :
    other <+: front := by
  have faulty : front ++ [byte] <+: front ++ byte :: rest := ⟨rest, by simp⟩
  rcases List.prefix_or_prefix_of_prefix leads faulty with within | beyond
  · rcases List.prefix_concat_iff.mp within with rfl | before
    · exact absurd completable hopeless
    · exact before
  · exact absurd (completable.of_prefix beyond) hopeless

/-! ## The reader on beginnings -/

theorem prefix_of_pieces {pieces : List Piece} (leads : pieces <+: chars.map .scalar) :
    ∃ earlier, earlier <+: chars ∧ pieces = earlier.map .scalar := by
  refine ⟨chars.take pieces.length, List.take_prefix _ _, ?_⟩
  rw [List.map_take]
  exact List.prefix_iff_eq_take.mp leads

theorem read_append (front rest : Bytes) : read (front ++ rest) = rest.foldl next (read front) :=
  List.foldl_append

theorem read_encodeChars (chars : List Char) :
    read (encodeChars chars) = ⟨(chars.map .scalar).reverse, none⟩ := by
  rw [← encode_ofList, read_encode, String.toList_ofList]

/-- The bytes of characters and of a sequence under way. -/
theorem eq_of_read {underway : Option Partial}
    (reads : read bytes = ⟨(chars.map .scalar).reverse, underway⟩) :
    encodeChars chars ++ (underway.map Partial.bytes).getD [] = bytes := by
  have covered := (read_covers bytes).bytes_eq
  rw [reads, List.reverse_reverse, List.flatMap_map] at covered
  exact covered

/-- Of a beginning, a beginning of the characters is read. -/
theorem read_prefix {underway : Option Partial}
    (reads : read bytes = ⟨(chars.map .scalar).reverse, underway⟩) (leads : front <+: bytes) :
    ∃ earlier, earlier <+: chars ∧ (read front).pieces = (earlier.map .scalar).reverse := by
  obtain ⟨rest, rfl⟩ := leads
  have kept := pieces_suffix_foldl_next rest (read front)
  rw [← read_append, reads, ← List.reverse_prefix, List.reverse_reverse] at kept
  obtain ⟨earlier, within, same⟩ := prefix_of_pieces kept
  exact ⟨earlier, within, by rw [← same, List.reverse_reverse]⟩

theorem prefix_of_encodeChars {underway : Option Partial} {earlier : List Char}
    (reads : read bytes = ⟨(chars.map .scalar).reverse, underway⟩)
    (leads : encodeChars earlier <+: bytes) : earlier <+: chars := by
  obtain ⟨others, within, same⟩ := read_prefix reads leads
  rw [read_encodeChars, List.reverse_inj] at same
  obtain rfl := (List.map_inj_right fun _ _ => Piece.scalar.inj).mp same
  exact within

/-! ## Sequences under way -/

/-- Some byte may come next, and there are at most three before it is done. -/
structure Partial.Begun (sequence : Partial) : Prop where
  low_le_high : sequence.low ≤ sequence.high
  nonempty : 1 ≤ sequence.bytes.length
  short : sequence.bytes.length + sequence.later ≤ 3

theorem Partial.Begun.single {value later : Nat} {low high : UInt8} (within : low ≤ high)
    (few : later ≤ 2) : Partial.Begun ⟨[byte], value, low, high, later⟩ :=
  ⟨within, Nat.le_refl 1, Nat.add_le_add_left few 1⟩

theorem begun_begin {pieces : List Piece} {sequence : Partial}
    (underway : (begin pieces byte).underway = some sequence) : sequence.Begun := by
  simp only [begin] at underway
  -- Each class of first bytes has bounds of its own.
  repeat' split at underway
  all_goals cases underway
  all_goals exact .single (by decide) (by decide)

theorem begun_next {reading : Reading} {sequence : Partial}
    (begun : ∀ sequence, reading.underway = some sequence → sequence.Begun)
    (underway : (next reading byte).underway = some sequence) : sequence.Begun := by
  rw [next] at underway
  split at underway
  · exact begun_begin underway
  · next before isBefore =>
      have earlier := begun before isBefore
      split at underway
      · split at underway
        · cases underway
        · next later due =>
            cases underway
            have short := earlier.short
            have within : (0x80 : UInt8) ≤ 0xBF := by decide
            refine ⟨within, ?_, ?_⟩
            · simp
            · simp only [List.length_append, List.length_singleton]
              omega
      · exact begun_begin underway

theorem begun_read {sequence : Partial} (underway : (read bytes).underway = some sequence) :
    sequence.Begun := by
  have onward (bytes : Bytes) (reading : Reading)
      (begun : ∀ sequence, reading.underway = some sequence → sequence.Begun) :
      ∀ sequence, (bytes.foldl next reading).underway = some sequence → sequence.Begun := by
    induction bytes generalizing reading with
    | nil => exact begun
    | cons byte rest ih => exact ih (next reading byte) fun _ => begun_next begun
  exact onward bytes ⟨[], none⟩ (fun _ impossible => by cases impossible) sequence underway

/-- A sequence under way can be brought to its end. -/
theorem Partial.Begun.exists_char {sequence : Partial} (begun : sequence.Begun)
    (leads : sequence.Leads) : ∃ more char, encodeChar char = sequence.bytes ++ more :=
  ⟨_, _, leads sequence.low (List.replicate sequence.later 0x80) (UInt8.le_refl _)
    begun.low_le_high List.length_replicate
    (fun byte member => by rw [List.eq_of_mem_replicate member]; exact ⟨by decide, by decide⟩)⟩

/-! ## What can be completed -/

/-- Bytes can be completed exactly if no malformed part has been read. -/
theorem completable_iff : Completable bytes ↔
    ∃ (chars : List Char) (underway : Option Partial),
      read bytes = ⟨(chars.map .scalar).reverse, underway⟩ := by
  constructor
  · rintro ⟨more, wellFormed⟩
    obtain ⟨whole, isWhole⟩ := wellFormed.exists_chars
    have reads := read_encodeChars whole
    rw [isWhole] at reads
    obtain ⟨chars, _, same⟩ := read_prefix reads (List.prefix_append bytes more)
    exact ⟨chars, (read bytes).underway, by rw [← same]⟩
  · rintro ⟨chars, underway, reads⟩
    have whole := eq_of_read reads
    cases underway with
    | none =>
        rw [Option.map_none, Option.getD_none, List.append_nil] at whole
        exact whole ▸ (wellFormed_encodeChars chars).completable
    | some sequence =>
        have isUnderway : (read bytes).underway = some sequence := by rw [reads]
        obtain ⟨more, char, isChar⟩ :=
          (begun_read isUnderway).exists_char ((read_covers bytes).leads sequence isUnderway)
        refine ⟨more, ?_⟩
        have finished : encodeChars (chars ++ [char]) = bytes ++ more := by
          rw [← whole, encodeChars_append, List.append_assoc]
          simp [encodeChars, isChar]
        exact finished ▸ wellFormed_encodeChars (chars ++ [char])

/-- The characters that have been read are the longest well-formed beginning. -/
theorem longest_wellFormed {underway : Option Partial}
    (reads : read bytes = ⟨(chars.map .scalar).reverse, underway⟩) :
    Longest WellFormed bytes (encodeChars chars) := by
  refine ⟨⟨_, eq_of_read reads⟩, wellFormed_encodeChars chars, fun other leads wellFormed => ?_⟩
  obtain ⟨earlier, rfl⟩ := wellFormed.exists_chars
  obtain ⟨later, rfl⟩ := prefix_of_encodeChars reads leads
  rw [encodeChars_append, List.length_append]
  exact Nat.le_add_right _ _

/-- Characters in front make no difference. -/
theorem completable_encodeChars_append :
    Completable (encodeChars chars ++ bytes) ↔ Completable bytes := by
  constructor
  · rintro ⟨more, wellFormed⟩
    obtain ⟨whole, isWhole⟩ := wellFormed.exists_chars
    rw [List.append_assoc] at isWhole
    obtain ⟨later, rfl⟩ := prefix_of_encodeChars (read_encodeChars whole) ⟨_, isWhole.symm⟩
    rw [encodeChars_append] at isWhole
    exact ⟨more, List.append_cancel_left isWhole ▸ wellFormed_encodeChars later⟩
  · rintro ⟨more, wellFormed⟩
    obtain ⟨later, isLater⟩ := wellFormed.exists_chars
    refine ⟨more, ?_⟩
    rw [List.append_assoc, ← isLater, ← encodeChars_append]
    exact wellFormed_encodeChars (chars ++ later)

/-! ## The first malformed part -/

/-- The bytes of the sequence under way. -/
def Reading.begun (reading : Reading) : Bytes := (reading.underway.map Partial.bytes).getD []

/-- A byte that leaves a malformed part behind: what was under way, or else the byte itself. -/
theorem malformed_next {reading : Reading}
    (begun : ∀ sequence, reading.underway = some sequence → sequence.Begun)
    (reads : reading.pieces = (chars.map .scalar).reverse)
    (faulty : ∀ others : List Char, (next reading byte).pieces ≠ (others.map .scalar).reverse) :
    ∃ part, part.length = max 1 reading.begun.length ∧
      .malformed part :: reading.pieces <:+ (next reading byte).pieces := by
  have scalar (char : Char) :
      .scalar char :: reading.pieces = ((chars ++ [char]).map .scalar).reverse := by
    rw [reads, List.map_append, List.reverse_append]
    rfl
  obtain ⟨pieces, underway⟩ := reading
  cases underway with
  | none =>
      rcases begin_cases pieces byte with ⟨piece, same, isBegun⟩ | ⟨sequence, _, _, isBegun⟩
      · rw [next, isBegun] at faulty ⊢
        cases piece with
        | scalar char => exact absurd (scalar char) (faulty _)
        | malformed part =>
            have isByte : part = [byte] := same
            exact ⟨part, by rw [isByte]; rfl, List.suffix_rfl⟩
      · rw [next, isBegun] at faulty
        exact absurd reads (faulty _)
  | some sequence =>
      rw [next] at faulty ⊢
      dsimp only at faulty ⊢
      split at faulty
      · split at faulty
        · exact absurd (scalar _) (faulty _)
        · exact absurd reads (faulty _)
      · next outside =>
          rw [if_neg outside]
          exact ⟨sequence.bytes, (Nat.max_eq_right (begun sequence rfl).nonempty).symm,
            pieces_suffix_begin _ byte⟩

theorem decodePieces_scalars (underway : Option Partial) (chars : List Char)
    (pieces : List Piece) (done : List Char) (index : Nat) :
    decodePieces underway (chars.map .scalar ++ pieces) done index =
      decodePieces underway pieces (chars.reverse ++ done)
        (index + (encodeChars chars).length) := by
  induction chars generalizing done index with
  | nil => rfl
  | cons char chars ih =>
      rw [List.map_cons, List.cons_append, decodePieces, ih, encodeChars_cons, List.length_append,
        Nat.add_assoc, List.reverse_cons, List.append_assoc]
      rfl

theorem decode_of_ended (reads : read bytes = ⟨(chars.map .scalar).reverse, none⟩) :
    decode bytes = .ok (.ofList chars) := by
  have whole := eq_of_read reads
  rw [Option.map_none, Option.getD_none, List.append_nil] at whole
  rw [decode_eq_ok_iff, encode_ofList, whole]

theorem decode_of_underway {sequence : Partial}
    (reads : read bytes = ⟨(chars.map .scalar).reverse, some sequence⟩) :
    decode bytes = .error (.incomplete (encodeChars chars).length) := by
  have passed := decodePieces_scalars (some sequence) chars [] [] 0
  rw [List.append_nil, Nat.zero_add] at passed
  rw [decode, reads, List.reverse_reverse, passed]
  rfl

theorem decode_of_malformed {part : Bytes}
    (reads : .malformed part :: (chars.map .scalar).reverse <:+ (read bytes).pieces) :
    decode bytes = .error (.invalid (encodeChars chars).length part.length) := by
  obtain ⟨later, same⟩ := reads
  have passed := decodePieces_scalars (read bytes).underway chars (.malformed part :: later.reverse)
    [] 0
  rw [Nat.zero_add] at passed
  have pieces_eq : (read bytes).pieces.reverse =
      chars.map .scalar ++ .malformed part :: later.reverse := by
    rw [← same]
    simp
  rw [decode, pieces_eq, passed]
  rfl

/-- A byte after which nothing helps ends strict reading, and what was under way before it is what is
malformed. -/
theorem decode_of_fault {underway : Option Partial}
    (reads : read front = ⟨(chars.map .scalar).reverse, underway⟩)
    (broken : ¬ Completable (front ++ [byte])) :
    decode (front ++ byte :: rest) =
      .error (.invalid (encodeChars chars).length (max 1 (read front).begun.length)) := by
  have step : read (front ++ [byte]) = next (read front) byte := read_append front [byte]
  have faulty (others : List Char) : (next (read front) byte).pieces ≠ (others.map .scalar).reverse := by
    intro same
    refine broken (completable_iff.mpr ⟨others, (read (front ++ [byte])).underway, ?_⟩)
    rw [← same, ← step]
  obtain ⟨part, length_eq, malformed⟩ :=
    malformed_next (fun _ => begun_read) (by rw [reads]) faulty
  have kept := pieces_suffix_foldl_next rest (next (read front) byte)
  have goesOn : rest.foldl next (next (read front) byte) = read (front ++ byte :: rest) := by
    rw [← step, ← read_append, ← List.append_cons]
  have malformedToo := malformed.trans kept
  rw [goesOn, congrArg Reading.pieces reads] at malformedToo
  rw [decode_of_malformed malformedToo, length_eq]

/-! ## What strict reading says -/

/-- Bytes that can be completed are incomplete. -/
theorem describes_of_completable {fault : Fault} (completable : Completable bytes)
    (fails : decode bytes = .error fault) : Describes bytes fault := by
  obtain ⟨chars, underway, reads⟩ := completable_iff.mp completable
  cases underway with
  | none => cases (decode_of_ended reads).symm.trans fails
  | some sequence =>
      cases (decode_of_underway reads).symm.trans fails
      exact .incomplete (longest_wellFormed reads) completable

/-- Where nothing helps, the first byte after which nothing helps decides. -/
theorem describes_of_hopeless {fault : Fault} (hopeless : ¬ Completable bytes)
    (fails : decode bytes = .error fault) : Describes bytes fault := by
  obtain ⟨front, byte, rest, rfl, completable, broken⟩ := exists_first_fault hopeless
  obtain ⟨chars, underway, reads⟩ := completable_iff.mp completable
  cases (decode_of_fault reads broken).symm.trans fails
  have whole : encodeChars chars ++ (read front).begun = front := by
    rw [Reading.begun, reads]
    exact eq_of_read reads
  have longest := longest_wellFormed reads
  generalize (read front).begun = begun at whole
  have parts : encodeChars chars ++ (begun ++ byte :: rest) = front ++ byte :: rest := by
    rw [← List.append_assoc, whole]
  refine .invalid parts ?_ hopeless ?_
  · refine ⟨longest.leads.trans (List.prefix_append _ _), longest.holds, fun other leads holds => ?_⟩
    exact longest.length_le other (holds.completable.prefix_of_fault leads broken) holds
  · rw [← whole, completable_encodeChars_append] at completable
    rw [← whole, List.append_assoc, completable_encodeChars_append] at broken
    refine ⟨List.prefix_append _ _, completable, fun other leads holds => ?_⟩
    exact (holds.prefix_of_fault leads broken).length_le

/-- Strict reading finds the fault that describes the bytes, if they are no text. -/
theorem decode_eq_error_iff {fault : Fault} :
    decode bytes = .error fault ↔ ¬ WellFormed bytes ∧ Describes bytes fault := by
  have describes {fault : Fault} (fails : decode bytes = .error fault) : Describes bytes fault := by
    by_cases completable : Completable bytes
    · exact describes_of_completable completable fails
    · exact describes_of_hopeless completable fails
  have noText : (∃ fault, decode bytes = .error fault) ↔ ¬ WellFormed bytes := by
    rw [exists_decode_eq_error_iff, wellFormed_iff, not_exists]
  constructor
  · intro fails
    exact ⟨noText.mp ⟨fault, fails⟩, describes fails⟩
  · rintro ⟨malformed, described⟩
    obtain ⟨other, fails⟩ := noText.mpr malformed
    rw [fails, (describes fails).unique described]

theorem length_begun_le (whole : front ++ rest = bytes) (longest : Longest WellFormed bytes front)
    {begun : Bytes} (completable : Completable begun) (leads : begun <+: rest) :
    begun.length ≤ 3 := by
  obtain ⟨chars, underway, reads⟩ := completable_iff.mp completable
  have split := eq_of_read reads
  -- No whole character is among the bytes, since it would have made the front longer.
  have noChars : (encodeChars chars).length = 0 := by
    have among : encodeChars chars <+: begun := ⟨_, split⟩
    have further : front ++ encodeChars chars <+: bytes := by
      rw [← whole, List.prefix_append_right_inj]
      exact among.trans leads
    have bound := longest.length_le _ further
      (longest.holds.append (wellFormed_encodeChars chars))
    rw [List.length_append] at bound
    omega
  rw [← split, List.length_append, noChars, Nat.zero_add]
  cases underway with
  | none => exact Nat.zero_le 3
  | some sequence =>
      have isUnderway : (read begun).underway = some sequence := by rw [reads]
      have short := (begun_read isUnderway).short
      rw [Option.map_some, Option.getD_some]
      omega

/-- A malformed part has one to three bytes, all of which are there. -/
theorem Describes.bounds {index length : Nat} (describes : Describes bytes (.invalid index length)) :
    1 ≤ length ∧ length ≤ 3 ∧ index + length ≤ bytes.length := by
  cases describes with
  | @invalid front rest begun whole longest hopeless longestBegun =>
      have short := length_begun_le whole longest longestBegun.holds longestBegun.leads
      have within := longestBegun.leads.length_le
      have some : 1 ≤ rest.length := by
        cases rest with
        | nil =>
            rw [List.append_nil] at whole
            exact absurd (whole ▸ longest.holds.completable) hopeless
        | cons byte rest => exact Nat.succ_le_succ (Nat.zero_le _)
      rw [← whole, List.length_append]
      omega

end PluginHost.Text.Utf8
