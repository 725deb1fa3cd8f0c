import PluginHost.Json.Object
import PluginHost.Proofs.Json.Grammar

/-!
# Written objects

The written form of an object denotes that object and nothing else, whatever characters its keys and
values are made of, and holds no control character.
-/

namespace PluginHost.Json

open Object (writeMember writeMembers)

variable {text rest : List Char} {value : Value}

/-! ## Strings -/

theorem hexValue?_digit {value : Nat} (small : value < 16) :
    hexValue? (Text.Hexadecimal.digit value) = some value := by
  have each : ∀ value < 16, hexValue? (Text.Hexadecimal.digit value) = some value := by decide
  exact each value small

theorem charAt_controlEscape {char : Char} (control : char.toNat < 0x20) (rest : List Char) :
    CharAt char (controlEscape char ++ rest) rest := by
  have zero : hexValue? '0' = some 0 := rfl
  have third := hexValue?_digit (by omega : char.toNat / 16 < 16)
  have fourth := hexValue?_digit (by omega : char.toNat % 16 < 16)
  have digits := @CodeUnitAt.digits _ _ _ _ _ _ _ _ rest zero zero third fourth
  have unit_eq :
      0 * 0x1000 + 0 * 0x100 + char.toNat / 16 * 0x10 + char.toNat % 16 = char.toNat := by omega
  rw [unit_eq] at digits
  have escaped := CharAt.unit digits (.inl (by omega))
  rwa [Char.ofNat_toNat] at escaped

/-- Every character is escaped to a form that denotes it. -/
theorem charAt_escapeChar (char : Char) (rest : List Char) :
    CharAt char (escapeChar char ++ rest) rest := by
  rw [escapeChar]
  -- One after the other, the characters that have a short form.
  iterate 7
    split
    · next same =>
        subst same
        exact .short rfl
  split
  · next control => exact charAt_controlEscape control rest
  · next notQuote notEscape _ _ _ _ _ noControl =>
      exact .plain (Nat.not_lt.mp noControl) notQuote notEscape

theorem charsAt_escaped (chars rest : List Char) :
    CharsAt chars (chars.flatMap escapeChar ++ '"' :: rest) rest := by
  induction chars with
  | nil => exact .quote rest
  | cons char chars ih =>
      rw [List.flatMap_cons, List.append_assoc]
      exact .char (charAt_escapeChar char _) ih

theorem stringAt_writeString (string : String) (rest : List Char) :
    StringAt string (writeString string ++ rest) rest := by
  have chars := charsAt_escaped string.toList rest
  rw [writeString, List.cons_append, List.cons_append, List.append_assoc]
  exact .quote chars

/-- A written string is read in one way only. -/
theorem StringAt.of_writeString {string written : String} {tail : List Char}
    (isString : StringAt string (writeString written ++ tail) rest) :
    string = written ∧ rest = tail :=
  isString.unique (stringAt_writeString written tail)

theorem writeString_quoted (string : String) (tail : List Char) :
    ∃ later, writeString string ++ tail = '"' :: later := ⟨_, rfl⟩

/-! ## Members -/

/-- A member whose value is a string. -/
def textMember (member : String × String) : String × Value := (member.1, .string member.2)

theorem textMember_injective {first second : String × String}
    (same : textMember first = textMember second) : first = second := by
  obtain ⟨keys, values⟩ := Prod.mk.inj same
  exact Prod.ext keys (Value.string.inj values)

/-- A mark without blanks. -/
theorem Mark.bare {mark : Char} (rest : List Char) : Mark mark (mark :: rest) rest :=
  .intro (.done _) (.done rest)

theorem memberAt_writeMember (member : String × String) (rest : List Char) :
    MemberAt (textMember member) (writeMember member ++ rest) rest := by
  rw [writeMember, List.append_assoc, List.cons_append]
  exact .intro (stringAt_writeString member.1 _) (.bare _)
    (.string (stringAt_writeString member.2 rest))

theorem MemberAt.of_writeMember {member : String × Value} {written : String × String}
    {tail : List Char} (isMember : MemberAt member (writeMember written ++ tail) rest) :
    member = textMember written ∧ rest = tail := by
  rw [writeMember, List.append_assoc, List.cons_append] at isMember
  cases isMember with
  | intro isKey separated isValue =>
      obtain ⟨rfl, rfl⟩ := isKey.of_writeString
      have begins := writeString_quoted written.2 tail
      cases (separated.of_not_isBlank (by decide)).2.of_quoted begins
      obtain ⟨string, rfl, isString⟩ := isValue.of_quoted begins
      obtain ⟨rfl, rfl⟩ := isString.of_writeString
      exact ⟨rfl, rfl⟩

theorem membersAt_writeMembers (member : String × String) (members : List (String × String))
    (rest : List Char) :
    MembersAt ((member :: members).map textMember) (writeMembers (member :: members) ++ rest)
      rest := by
  induction members generalizing member with
  | nil => exact .single (memberAt_writeMember member rest)
  | cons next members ih =>
      rw [writeMembers, List.append_assoc]
      exact .more (memberAt_writeMember member _) (.bare _) (ih next)

theorem writeMembers_quoted (member : String × String) (members : List (String × String))
    (tail : List Char) : ∃ later, writeMembers (member :: members) ++ tail = '"' :: later := by
  cases members with
  | nil => exact ⟨_, rfl⟩
  | cons next members => exact ⟨_, rfl⟩

/-- Up to a closing brace, written members are read in one way only. -/
theorem MembersAt.of_writeMembers {read : List (String × Value)} {member : String × String}
    {members : List (String × String)} {last tail : List Char}
    (inside : MembersAt read (writeMembers (member :: members) ++ '\x7d' :: tail) last)
    (closes : Mark '\x7d' last rest) :
    read = (member :: members).map textMember ∧ last = '\x7d' :: tail := by
  induction members generalizing member read with
  | nil =>
      cases inside with
      | single only =>
          obtain ⟨rfl, rfl⟩ := only.of_writeMember
          exact ⟨rfl, rfl⟩
      | more first separated later =>
          obtain ⟨rfl, rfl⟩ := first.of_writeMember
          exact absurd (separated.of_not_isBlank (by decide)).1 (by decide)
  | cons next members ih =>
      rw [writeMembers, List.append_assoc] at inside
      cases inside with
      | single only =>
          obtain ⟨rfl, rfl⟩ := only.of_writeMember
          exact absurd (closes.of_not_isBlank (by decide)).1 (by decide)
      | more first separated later =>
          obtain ⟨rfl, rfl⟩ := first.of_writeMember
          have begins := writeMembers_quoted next members ('\x7d' :: tail)
          cases (separated.of_not_isBlank (by decide)).2.of_quoted begins
          obtain ⟨rfl, rfl⟩ := ih later
          exact ⟨rfl, rfl⟩

/-! ## Objects -/

namespace Object

theorem toList_write (object : Object) :
    object.write.toList = '\x7b' :: (writeMembers object.members ++ ['\x7d']) :=
  String.toList_ofList

theorem valueAt_write (object : Object) :
    ValueAt (.object (object.members.map textMember)) object.write.toList [] := by
  rw [toList_write]
  cases object.members with
  | nil => exact .emptyObject (.bare _) (.bare [])
  | cons member members =>
      exact .object (.bare _) (membersAt_writeMembers member members _) (.bare [])

/-- The written form denotes the object, and nothing else. -/
theorem denotes_write_iff (object : Object) :
    Denotes object.write.toList value ↔ value = .object (object.members.map textMember) := by
  constructor
  · rintro ⟨before, isValue, after⟩
    rw [toList_write] at before
    cases before.eq_of_not_isBlank (by decide)
    obtain ⟨members⟩ := object
    cases members with
    | nil =>
        rcases isValue.of_brace with ⟨rfl, _⟩ | ⟨read, first, last, rfl, blanks, inside, _⟩
        · rfl
        · cases blanks.eq_of_not_isBlank (by decide)
          obtain ⟨later, quote⟩ := inside.quoted
          cases quote
    | cons member members =>
        have begins := writeMembers_quoted member members ['\x7d']
        rcases isValue.of_brace with
          ⟨_, middle, blanks, closes⟩ | ⟨read, first, last, rfl, blanks, inside, closes⟩
        · cases blanks.of_quoted begins
          obtain ⟨later, quote⟩ := begins
          rw [quote] at closes
          exact absurd (closes.of_not_isBlank (by decide)).1 (by decide)
        · cases blanks.of_quoted begins
          rw [(inside.of_writeMembers closes).1]
  · rintro rfl
    exact .intro (.done _) object.valueAt_write (.done [])

end Object

/-! ## Control characters -/

/-- No character is a control below U+0020. -/
def Visible (text : List Char) : Prop := ∀ char ∈ text, 0x20 ≤ char.toNat

theorem Visible.append {first second : List Char} (one : Visible first) (two : Visible second) :
    Visible (first ++ second) := fun char member =>
  (List.mem_append.mp member).elim (one char) (two char)

theorem Visible.cons {char : Char} (visible : 0x20 ≤ char.toNat) (later : Visible text) :
    Visible (char :: text) := List.forall_mem_cons.mpr ⟨visible, later⟩

theorem visible_digit {value : Nat} (small : value < 16) :
    0x20 ≤ (Text.Hexadecimal.digit value).toNat := by
  have each : ∀ value < 16, 0x20 ≤ (Text.Hexadecimal.digit value).toNat := by decide
  exact each value small

theorem visible_controlEscape {char : Char} (control : char.toNat < 0x20) :
    Visible (controlEscape char) := by
  have front : Visible ['\\', 'u', '0', '0'] := by simp [Visible]
  have third := visible_digit (by omega : char.toNat / 16 < 16)
  have fourth := visible_digit (by omega : char.toNat % 16 < 16)
  exact front.append (.cons third (.cons fourth nofun))

theorem visible_escapeChar (char : Char) : Visible (escapeChar char) := by
  rw [escapeChar]
  iterate 7
    split
    · simp [Visible]
  split
  · next control => exact visible_controlEscape control
  · next noControl => exact .cons (Nat.not_lt.mp noControl) nofun

theorem visible_writeString (string : String) : Visible (writeString string) := by
  have escaped : Visible (string.toList.flatMap escapeChar) := by
    intro char member
    obtain ⟨before, _, inEscape⟩ := List.mem_flatMap.mp member
    exact visible_escapeChar before char inEscape
  exact .cons (by decide) (escaped.append (.cons (by decide) nofun))

theorem visible_writeMember (member : String × String) : Visible (writeMember member) :=
  (visible_writeString member.1).append (.cons (by decide) (visible_writeString member.2))

theorem visible_writeMembers (members : List (String × String)) :
    Visible (writeMembers members) := by
  induction members with
  | nil => exact nofun
  | cons member members ih =>
      cases members with
      | nil => exact visible_writeMember member
      | cons next members =>
          rw [writeMembers]
          exact (visible_writeMember member).append (.cons (by decide) ih)

theorem Object.visible_write (object : Object) : Visible object.write.toList := by
  rw [toList_write]
  exact .cons (by decide) ((visible_writeMembers object.members).append (.cons (by decide) nofun))

end PluginHost.Json
