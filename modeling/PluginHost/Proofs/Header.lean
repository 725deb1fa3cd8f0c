import PluginHost.Header
import PluginHost.Proofs.Text.Blank

/-!
# Reading headers

A text is read as a header exactly if it is a name and a value with a colon between them and blanks
around both. It is so in one way at most.
-/

namespace PluginHost.Header

open Text.Blank

variable {header : Header} {raw : String}

/-- A header that can be read: its name is there and holds no colon, and neither name nor value has
a blank at an end. -/
structure Proper (header : Header) : Prop where
  named : header.name ≠ ""
  colonFree : ':' ∉ header.name.toList
  name : IsTrimmed header.name.toList
  value : IsTrimmed header.value.toList

abbrev Blanks := { text : String // IsBlanks text.toList }

def Blanks.ofList (text : List Char) (blanks : IsBlanks text) : Blanks :=
  ⟨.ofList text, by rwa [String.toList_ofList]⟩

theorem Blanks.toList_ofList {text : List Char} (blanks : IsBlanks text) :
    (ofList text blanks).val.toList = text := String.toList_ofList

/-- The blanks around name and value. -/
structure Padding where
  beforeName : Blanks
  afterName : Blanks
  beforeValue : Blanks
  afterValue : Blanks

def written (header : Header) (padding : Padding) : String :=
  padding.beforeName.val ++ header.name ++ padding.afterName.val ++ ":" ++
    (padding.beforeValue.val ++ header.value ++ padding.afterValue.val)

theorem toList_written (header : Header) (padding : Padding) :
    (header.written padding).toList =
      (padding.beforeName.val.toList ++ header.name.toList ++ padding.afterName.val.toList) ++
        ':' :: (padding.beforeValue.val.toList ++ header.value.toList ++
          padding.afterValue.val.toList) := by
  simp only [written, String.toList_append, List.append_assoc]
  rfl

/-! ## The first colon -/

theorem splitColon?_eq_some_iff {text name value : List Char} :
    splitColon? text = some (name, value) ↔ ':' ∉ name ∧ name ++ ':' :: value = text := by
  constructor
  · intro splits
    have whole := List.takeWhile_append_dropWhile (p := (· != ':')) (l := text)
    rw [splitColon?] at splits
    split at splits
    · cases splits
    · next first rest remains =>
        have isColon : first = ':' := by
          have stops := List.head?_dropWhile_not (· != ':') text
          rw [remains] at stops
          simpa using stops
        cases splits
        rw [remains, isColon] at whole
        refine ⟨fun member => ?_, whole⟩
        have passes := List.mem_takeWhile_imp member
        simp at passes
  · rintro ⟨colonFree, rfl⟩
    have passes (char : Char) (member : char ∈ name) : (char != ':') = true :=
      bne_iff_ne.mpr fun same => colonFree (same ▸ member)
    rw [splitColon?, List.dropWhile_append_of_pos passes, List.takeWhile_append_of_pos passes]
    simp

theorem colon_notMem_of_isBlanks {text : List Char} (blanks : IsBlanks text) : ':' ∉ text := by
  intro member
  exact absurd (blanks ':' member) (by decide)

/-! ## Headers -/

theorem parse_eq_ok_iff : parse raw = .ok header ↔
    ∃ name value, splitColon? raw.toList = some (name, value) ∧ trim name ≠ [] ∧
      trim name = header.name.toList ∧ trim value = header.value.toList := by
  rw [parse]
  cases splitColon? raw.toList with
  | none => simp
  | some parts =>
      obtain ⟨name, value⟩ := parts
      obtain ⟨ownName, ownValue⟩ := header
      by_cases nameless : trim name = []
      · simp [nameless]
      · simp [nameless, ← String.toList_inj]

/-- A header that is written down is read as what it is, whatever blanks are around it. -/
theorem parse_written (proper : header.Proper) (padding : Padding) :
    parse (header.written padding) = .ok header := by
  have colonFree : ':' ∉ padding.beforeName.val.toList ++ header.name.toList ++
      padding.afterName.val.toList := by
    simp only [List.mem_append, not_or]
    exact ⟨⟨colon_notMem_of_isBlanks padding.beforeName.property, proper.colonFree⟩,
      colon_notMem_of_isBlanks padding.afterName.property⟩
  have name := trim_padded padding.beforeName.property padding.afterName.property proper.name
  have value := trim_padded padding.beforeValue.property padding.afterValue.property proper.value
  refine parse_eq_ok_iff.mpr ⟨_, _, splitColon?_eq_some_iff.mpr
    ⟨colonFree, (toList_written header padding).symm⟩, ?_, name, value⟩
  rw [name]
  exact mt String.toList_eq_nil_iff.mp proper.named

/-- What is read is in the text, with blanks around it. -/
theorem exists_written (parses : parse raw = .ok header) :
    header.Proper ∧ ∃ padding, header.written padding = raw := by
  obtain ⟨name, value, splits, visible, sameName, sameValue⟩ := parse_eq_ok_iff.mp parses
  obtain ⟨colonFree, whole⟩ := splitColon?_eq_some_iff.mp splits
  obtain ⟨beforeName, afterName, blanksBefore, blanksAfter, aroundName⟩ := exists_padding name
  obtain ⟨beforeValue, afterValue, blanksFirst, blanksLast, aroundValue⟩ := exists_padding value
  have trimmedName := isTrimmed_trim name
  have trimmedValue := isTrimmed_trim value
  rw [sameName] at visible aroundName trimmedName
  rw [sameValue] at aroundValue trimmedValue
  constructor
  · refine ⟨mt String.toList_eq_nil_iff.mpr visible, fun member => colonFree ?_, trimmedName,
      trimmedValue⟩
    rw [← aroundName]
    exact List.mem_append_left _ (List.mem_append_right _ member)
  · refine ⟨⟨.ofList _ blanksBefore, .ofList _ blanksAfter, .ofList _ blanksFirst,
      .ofList _ blanksLast⟩, String.toList_inj.mp ?_⟩
    rw [toList_written]
    simp only [Blanks.toList_ofList]
    rw [aroundName, aroundValue, whole]

theorem parse_eq_ok_iff_written :
    parse raw = .ok header ↔ header.Proper ∧ ∃ padding, header.written padding = raw := by
  constructor
  · exact exists_written
  · rintro ⟨proper, padding, rfl⟩
    exact parse_written proper padding

/-- An error holds the whole text. -/
theorem eq_of_parse_error {error : InvalidHeader} (refuses : parse raw = .error error) :
    error = ⟨raw⟩ := by
  rw [parse] at refuses
  split at refuses
  · cases refuses
    rfl
  · split at refuses
    · cases refuses
      rfl
    · cases refuses

/-- A text is read as a header exactly if it is what can be read, with a colon after the name and
blanks anywhere around name and value. There is one such reading at most, and if there is none, the
whole text is refused. What is read once is read again, in whatever blanks it is written. -/
theorem parse_reads_written (raw : String) :
    (∀ header, parse raw = .ok header ↔
        header.Proper ∧ ∃ padding, header.written padding = raw) ∧
      (∀ first second : Header, first.Proper → second.Proper → ∀ padding other,
        first.written padding = raw → second.written other = raw → first = second) ∧
      ((∀ header : Header, header.Proper → ∀ padding, header.written padding ≠ raw) →
        parse raw = .error ⟨raw⟩) ∧
      ∀ header, parse raw = .ok header →
        ∀ padding, parse (header.written padding) = .ok header := by
  refine ⟨fun header => parse_eq_ok_iff_written, ?_, fun unwritten => ?_, fun header parses => ?_⟩
  · intro first second proper properToo padding other isFirst isSecond
    have parsesFirst := parse_written proper padding
    have parsesSecond := parse_written properToo other
    rw [isFirst] at parsesFirst
    rw [isSecond] at parsesSecond
    exact Except.ok.inj (parsesFirst.symm.trans parsesSecond)
  · cases outcome : parse raw with
    | error error => rw [eq_of_parse_error outcome]
    | ok header =>
        obtain ⟨proper, padding, isRaw⟩ := exists_written outcome
        exact absurd isRaw (unwritten header proper padding)
  · exact parse_written (exists_written parses).1

/-- Colons in the value, blanks of several bytes, and a blank within the name. A name of blanks is
none. -/
theorem parse_reads_written_wide :
    parse "\u3000N n\t:\u00A0:v: " = .ok ⟨"N n", ":v:"⟩ ∧ parse "N n: :v:" = .ok ⟨"N n", ":v:"⟩ ∧
      parse " :v" = .error ⟨" :v"⟩ := by
  have wide : parse "\u3000N n\t:\u00A0:v: " = .ok ⟨"N n", ":v:"⟩ := rfl
  obtain ⟨_, _, _, again⟩ := parse_reads_written "\u3000N n\t:\u00A0:v: "
  obtain ⟨reads, _, refuses, _⟩ := parse_reads_written " :v"
  refine ⟨wide, again _ wide ⟨⟨"", by decide⟩, ⟨"", by decide⟩, ⟨" ", by decide⟩, ⟨"", by decide⟩⟩,
    refuses fun header proper padding isRaw => ?_⟩
  have computed : parse " :v" = .error ⟨" :v"⟩ := rfl
  cases computed.symm.trans ((reads header).mpr ⟨proper, padding, isRaw⟩)

end PluginHost.Header
