import PluginHost.Proofs.Outcome

/-!
# JSON texts

The grammar of JSON, rule by rule, as a relation between texts and the values that they denote. The
relations on the parts of a text tell a part that stands in front from the rest of the text. No
text can be read as a string in two ways, nor as two values if strings are all that it is made of.
-/

namespace PluginHost.Json

/-- What a text denotes. A number is kept as it is written, and members keep their order. -/
inductive Value where
  | null
  | boolean (truth : Bool)
  | number (numeral : List Char)
  | string (text : String)
  | array (items : List Value)
  | object (members : List (String × Value))

/-! ## Blanks and marks -/

def IsBlank (char : Char) : Prop := char = ' ' ∨ char = '\t' ∨ char = '\n' ∨ char = '\r'

instance (char : Char) : Decidable (IsBlank char) :=
  inferInstanceAs (Decidable (char = ' ' ∨ char = '\t' ∨ char = '\n' ∨ char = '\r'))

/-- Any number of blanks in front. -/
inductive Blanks : List Char → List Char → Prop where
  | done (rest : List Char) : Blanks rest rest
  | blank {char : Char} {text rest : List Char} (isBlank : IsBlank char)
      (blanks : Blanks text rest) : Blanks (char :: text) rest

/-- A mark of structure in front, with blanks on both sides. -/
inductive Mark (mark : Char) : List Char → List Char → Prop where
  | intro {text middle rest : List Char} (before : Blanks text (mark :: middle))
      (after : Blanks middle rest) : Mark mark text rest

/-! ## Strings -/

/-- What a letter stands for behind a backslash. -/
def shortEscape? : Char → Option Char
  | '"' => some '"'
  | '\\' => some '\\'
  | '/' => some '/'
  | 'b' => some '\x08'
  | 'f' => some '\x0c'
  | 'n' => some '\n'
  | 'r' => some '\r'
  | 't' => some '\t'
  | _ => none

def hexValue? (char : Char) : Option Nat :=
  if '0' ≤ char ∧ char ≤ '9' then some (char.toNat - 48)
  else if 'A' ≤ char ∧ char ≤ 'F' then some (char.toNat - 55)
  else if 'a' ≤ char ∧ char ≤ 'f' then some (char.toNat - 87)
  else none

/-- Four hexadecimal digits in front, and the code unit that they write. -/
inductive CodeUnitAt : Nat → List Char → List Char → Prop where
  | digits {first second third fourth : Char} {one two three four : Nat} {rest : List Char}
      (isFirst : hexValue? first = some one) (isSecond : hexValue? second = some two)
      (isThird : hexValue? third = some three) (isFourth : hexValue? fourth = some four) :
      CodeUnitAt (one * 0x1000 + two * 0x100 + three * 0x10 + four)
        (first :: second :: third :: fourth :: rest) rest

/-- A character of a string in front: as it is, or in one of the escaped forms. A character above
U+FFFF is escaped as two code units. -/
inductive CharAt : Char → List Char → List Char → Prop where
  | plain {char : Char} {rest : List Char} (noControl : 0x20 ≤ char.toNat) (notQuote : char ≠ '"')
      (notEscape : char ≠ '\\') : CharAt char (char :: rest) rest
  | short {letter char : Char} {rest : List Char} (stands : shortEscape? letter = some char) :
      CharAt char ('\\' :: letter :: rest) rest
  | unit {unit : Nat} {text rest : List Char} (digits : CodeUnitAt unit text rest)
      (scalar : unit.isValidChar) : CharAt (Char.ofNat unit) ('\\' :: 'u' :: text) rest
  | units {high low : Nat} {text middle rest : List Char}
      (first : CodeUnitAt high text ('\\' :: 'u' :: middle)) (second : CodeUnitAt low middle rest)
      (isHigh : 0xD800 ≤ high ∧ high < 0xDC00) (isLow : 0xDC00 ≤ low ∧ low < 0xE000) :
      CharAt (Char.ofNat (0x10000 + (high - 0xD800) * 0x400 + (low - 0xDC00)))
        ('\\' :: 'u' :: text) rest

/-- Characters in front, up to a quotation mark. -/
inductive CharsAt : List Char → List Char → List Char → Prop where
  | quote (rest : List Char) : CharsAt [] ('"' :: rest) rest
  | char {char : Char} {chars text middle rest : List Char} (first : CharAt char text middle)
      (later : CharsAt chars middle rest) : CharsAt (char :: chars) text rest

inductive StringAt : String → List Char → List Char → Prop where
  | quote {string : String} {text rest : List Char} (chars : CharsAt string.toList text rest) :
      StringAt string ('"' :: text) rest

/-! ## Numbers -/

/-- At least one digit. -/
def Digits (digits : List Char) : Prop := digits ≠ [] ∧ ∀ digit ∈ digits, digit.isDigit

inductive Whole : List Char → Prop where
  | zero : Whole ['0']
  | digits {first : Char} {rest : List Char} (many : Digits (first :: rest))
      (notZero : first ≠ '0') : Whole (first :: rest)

inductive Fraction : List Char → Prop where
  | absent : Fraction []
  | digits {digits : List Char} (many : Digits digits) : Fraction ('.' :: digits)

inductive Exponent : List Char → Prop where
  | absent : Exponent []
  | digits {letter : Char} {sign digits : List Char} (isLetter : letter = 'e' ∨ letter = 'E')
      (isSign : sign = [] ∨ sign = ['+'] ∨ sign = ['-']) (many : Digits digits) :
      Exponent (letter :: sign ++ digits)

inductive Numeral : List Char → Prop where
  | intro {sign whole fraction exponent : List Char} (isSign : sign = [] ∨ sign = ['-'])
      (isWhole : Whole whole) (isFraction : Fraction fraction) (isExponent : Exponent exponent) :
      Numeral (sign ++ whole ++ fraction ++ exponent)

/-! ## Values -/

mutual

/-- A value in front. -/
inductive ValueAt : Value → List Char → List Char → Prop where
  | null (rest : List Char) : ValueAt .null ('n' :: 'u' :: 'l' :: 'l' :: rest) rest
  | true (rest : List Char) : ValueAt (.boolean .true) ('t' :: 'r' :: 'u' :: 'e' :: rest) rest
  | false (rest : List Char) :
      ValueAt (.boolean .false) ('f' :: 'a' :: 'l' :: 's' :: 'e' :: rest) rest
  | number {numeral text rest : List Char} (isNumeral : Numeral numeral)
      (splits : text = numeral ++ rest) : ValueAt (.number numeral) text rest
  | string {string : String} {text rest : List Char} (isString : StringAt string text rest) :
      ValueAt (.string string) text rest
  | emptyArray {text middle rest : List Char} (opens : Mark '[' text middle)
      (closes : Mark ']' middle rest) : ValueAt (.array []) text rest
  | array {items : List Value} {text first last rest : List Char} (opens : Mark '[' text first)
      (inside : ItemsAt items first last) (closes : Mark ']' last rest) :
      ValueAt (.array items) text rest
  | emptyObject {text middle rest : List Char} (opens : Mark '\x7b' text middle)
      (closes : Mark '\x7d' middle rest) : ValueAt (.object []) text rest
  | object {members : List (String × Value)} {text first last rest : List Char}
      (opens : Mark '\x7b' text first) (inside : MembersAt members first last)
      (closes : Mark '\x7d' last rest) : ValueAt (.object members) text rest

/-- Values in front, with commas between them. -/
inductive ItemsAt : List Value → List Char → List Char → Prop where
  | single {value : Value} {text rest : List Char} (only : ValueAt value text rest) :
      ItemsAt [value] text rest
  | more {value : Value} {items : List Value} {text comma next rest : List Char}
      (first : ValueAt value text comma) (separated : Mark ',' comma next)
      (later : ItemsAt items next rest) : ItemsAt (value :: items) text rest

/-- A key and a value in front, with a colon between them. -/
inductive MemberAt : String × Value → List Char → List Char → Prop where
  | intro {key : String} {value : Value} {text colon next rest : List Char}
      (isKey : StringAt key text colon) (separated : Mark ':' colon next)
      (isValue : ValueAt value next rest) : MemberAt (key, value) text rest

/-- Members in front, with commas between them. -/
inductive MembersAt : List (String × Value) → List Char → List Char → Prop where
  | single {member : String × Value} {text rest : List Char} (only : MemberAt member text rest) :
      MembersAt [member] text rest
  | more {member : String × Value} {members : List (String × Value)}
      {text comma next rest : List Char} (first : MemberAt member text comma)
      (separated : Mark ',' comma next) (later : MembersAt members next rest) :
      MembersAt (member :: members) text rest

end

/-- The whole text is a value, with blanks around it. -/
inductive Denotes : List Char → Value → Prop where
  | intro {text first last : List Char} {value : Value} (before : Blanks text first)
      (isValue : ValueAt value first last) (after : Blanks last []) : Denotes text value

/-! ## Reading is unique -/

variable {text rest other : List Char} {char : Char}

theorem Blanks.eq_of_not_isBlank (blanks : Blanks (char :: text) rest) (solid : ¬ IsBlank char) :
    rest = char :: text := by
  cases blanks with
  | done => rfl
  | blank isBlank => exact absurd isBlank solid

theorem Blanks.of_quoted (quoted : ∃ later, text = '"' :: later) (blanks : Blanks text rest) :
    rest = text := by
  obtain ⟨later, rfl⟩ := quoted
  exact blanks.eq_of_not_isBlank (by decide)

theorem Mark.of_not_isBlank {mark : Char} (marked : Mark mark (char :: text) rest)
    (solid : ¬ IsBlank char) : char = mark ∧ Blanks text rest := by
  obtain ⟨before, after⟩ := marked
  cases before.eq_of_not_isBlank solid
  exact ⟨rfl, after⟩

theorem CodeUnitAt.unique {unit unit' : Nat} (one : CodeUnitAt unit text rest)
    (two : CodeUnitAt unit' text other) : unit = unit' ∧ rest = other := by
  cases one with
  | digits isFirst isSecond isThird isFourth =>
      cases two with
      | digits isFirst' isSecond' isThird' isFourth' =>
          rw [isFirst, Option.some.injEq] at isFirst'
          rw [isSecond, Option.some.injEq] at isSecond'
          rw [isThird, Option.some.injEq] at isThird'
          rw [isFourth, Option.some.injEq] at isFourth'
          rw [isFirst', isSecond', isThird', isFourth']
          exact ⟨rfl, rfl⟩

theorem not_charAt_quote : ¬ CharAt char ('"' :: text) rest := by
  intro found
  cases found with
  | plain noControl notQuote notEscape => exact notQuote rfl

theorem CharAt.unique {char' : Char} (one : CharAt char text rest) (two : CharAt char' text other) :
    char = char' ∧ rest = other := by
  cases one with
  | plain noControl notQuote notEscape =>
      cases two with
      | plain => exact ⟨rfl, rfl⟩
      | short | unit | units => exact absurd rfl notEscape
  | short stands =>
      cases two with
      | plain noControl notQuote notEscape => exact absurd rfl notEscape
      | short stands' => exact ⟨Option.some.inj (stands.symm.trans stands'), rfl⟩
      | unit | units => cases stands
  | unit digits scalar =>
      cases two with
      | plain noControl notQuote notEscape => exact absurd rfl notEscape
      | short stands => cases stands
      | unit digits' =>
          obtain ⟨rfl, rfl⟩ := digits.unique digits'
          exact ⟨rfl, rfl⟩
      | units first second isHigh isLow =>
          obtain ⟨rfl, _⟩ := digits.unique first
          unfold Nat.isValidChar at scalar
          omega
  | units first second isHigh isLow =>
      cases two with
      | plain noControl notQuote notEscape => exact absurd rfl notEscape
      | short stands => cases stands
      | unit digits scalar =>
          obtain ⟨rfl, _⟩ := digits.unique first
          unfold Nat.isValidChar at scalar
          omega
      | units first' second' =>
          obtain ⟨rfl, same⟩ := first.unique first'
          cases same
          obtain ⟨rfl, rfl⟩ := second.unique second'
          exact ⟨rfl, rfl⟩

theorem CharsAt.unique {chars chars' : List Char} (one : CharsAt chars text rest)
    (two : CharsAt chars' text other) : chars = chars' ∧ rest = other := by
  induction one generalizing chars' with
  | quote rest =>
      cases two with
      | quote => exact ⟨rfl, rfl⟩
      | char first later => exact absurd first not_charAt_quote
  | char first later ih =>
      cases two with
      | quote => exact absurd first not_charAt_quote
      | char first' later' =>
          obtain ⟨rfl, rfl⟩ := first.unique first'
          obtain ⟨rfl, rfl⟩ := ih later'
          exact ⟨rfl, rfl⟩

theorem StringAt.unique {string string' : String} (one : StringAt string text rest)
    (two : StringAt string' text other) : string = string' ∧ rest = other := by
  cases one with
  | quote chars =>
      cases two with
      | quote chars' =>
          obtain ⟨same, rfl⟩ := chars.unique chars'
          exact ⟨String.toList_inj.mp same, rfl⟩

theorem Numeral.head {numeral : List Char} (isNumeral : Numeral numeral) :
    ∃ first rest, numeral = first :: rest ∧ (first = '-' ∨ first.isDigit) := by
  cases isNumeral with
  | intro isSign isWhole isFraction isExponent =>
      rcases isSign with rfl | rfl
      · cases isWhole with
        | zero => exact ⟨'0', _, rfl, .inr rfl⟩
        | @digits first rest many notZero =>
            exact ⟨first, _, rfl, .inr (many.2 first List.mem_cons_self)⟩
      · exact ⟨'-', _, rfl, .inl rfl⟩

/-- A value in front that begins with a quotation mark is a string. -/
theorem ValueAt.of_quoted {value : Value} (quoted : ∃ later, text = '"' :: later)
    (isValue : ValueAt value text rest) :
    ∃ string, value = .string string ∧ StringAt string text rest := by
  obtain ⟨later, rfl⟩ := quoted
  cases isValue with
  | number isNumeral splits =>
      obtain ⟨first, later, rfl, isFirst⟩ := isNumeral.head
      cases splits
      exact absurd isFirst (by decide)
  | string isString => exact ⟨_, rfl, isString⟩
  | emptyArray opens | array opens | emptyObject opens | object opens =>
      exact absurd (opens.of_not_isBlank (by decide)).1 (by decide)

theorem MembersAt.quoted {members : List (String × Value)} (inside : MembersAt members text rest) :
    ∃ later, text = '"' :: later := by
  have member_quoted {member : String × Value} {after : List Char}
      (isMember : MemberAt member text after) : ∃ later, text = '"' :: later := by
    cases isMember with
    | intro isKey => cases isKey; exact ⟨_, rfl⟩
  cases inside with
  | single only => exact member_quoted only
  | more first => exact member_quoted first

/-- A value in front that begins with a brace is an object. -/
theorem ValueAt.of_brace {value : Value} (isValue : ValueAt value ('\x7b' :: text) rest) :
    (value = .object [] ∧ ∃ middle, Blanks text middle ∧ Mark '\x7d' middle rest) ∨
      ∃ members first last, value = .object members ∧ Blanks text first ∧
        MembersAt members first last ∧ Mark '\x7d' last rest := by
  cases isValue with
  | number isNumeral splits =>
      obtain ⟨first, later, rfl, isFirst⟩ := isNumeral.head
      cases splits
      exact absurd isFirst (by decide)
  | string isString => cases isString
  | emptyArray opens | array opens =>
      exact absurd (opens.of_not_isBlank (by decide)).1 (by decide)
  | emptyObject opens closes =>
      exact .inl ⟨rfl, _, (opens.of_not_isBlank (by decide)).2, closes⟩
  | object opens inside closes =>
      exact .inr ⟨_, _, _, rfl, (opens.of_not_isBlank (by decide)).2, inside, closes⟩

end PluginHost.Json
