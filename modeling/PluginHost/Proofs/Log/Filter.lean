import Mathlib.Data.List.Forall2
import Mathlib.Data.List.Induction
import PluginHost.Log.Filter
import PluginHost.Proofs.Text.Blank
import PluginHost.Proofs.Text.Utf8

/-!
# What log filters let pass

A filter is written as a list of directives between commas, each of them a level, a target, or both.
Of the directives that concern an event the one with the longest target decides, and of two that are
alike the later.
-/

namespace PluginHost

theorem split_eq_splitOn {α : Type} [DecidableEq α] (separator : α) (items : List α) :
    split separator items = items.splitOn separator := by
  induction items with
  | nil => rfl
  | cons item rest ih =>
      rw [List.splitOn_cons_eq_if_modifyHead, ← ih]
      by_cases isSeparator : item = separator
      · simp [split, isSeparator]
      · simp [split, isSeparator, List.modifyHead]

end PluginHost

namespace PluginHost.Text

theorem byteCount_append (text more : List Char) :
    byteCount (text ++ more) = byteCount text + byteCount more := by
  induction text with
  | nil => exact (Nat.zero_add _).symm
  | cons char rest ih =>
      change char.utf8Size + byteCount (rest ++ more) = char.utf8Size + byteCount rest + _
      rw [ih, Nat.add_assoc]

theorem takeBytes?_byteCount (text rest : List Char) :
    takeBytes? (byteCount text) (text ++ rest) = some text := by
  induction text with
  | nil => exact takeBytes?.eq_1 _
  | cons char text ih =>
      obtain ⟨size, isSize⟩ := Nat.exists_eq_add_one.mpr char.utf8Size_pos
      have count : byteCount (char :: text) = size + byteCount text + 1 := by
        change char.utf8Size + byteCount text = _
        omega
      have others : size + byteCount text + 1 - char.utf8Size = byteCount text := by omega
      rw [count, List.cons_append, takeBytes?, if_pos (by omega), others, ih]
      rfl

theorem dropBytes?_byteCount (text rest : List Char) :
    dropBytes? (byteCount text) (text ++ rest) = some rest := by
  induction text with
  | nil => exact dropBytes?.eq_1 _
  | cons char text ih =>
      obtain ⟨size, isSize⟩ := Nat.exists_eq_add_one.mpr char.utf8Size_pos
      have count : byteCount (char :: text) = size + byteCount text + 1 := by
        change char.utf8Size + byteCount text = _
        omega
      have others : size + byteCount text + 1 - char.utf8Size = byteCount text := by omega
      rw [count, List.cons_append, dropBytes?, if_pos (by omega), others, ih]

end PluginHost.Text

namespace PluginHost.Log

open PluginHost.Text

/-! ## Words -/

/-- Letters and digits of ASCII, colon, underscore and hyphen. -/
def isWordChar (char : Char) : Bool := char.isAlphanum || [':', '_', '-'].contains char

structure IsWord (text : List Char) : Prop where
  visible : text ≠ []
  chars : ∀ char ∈ text, isWordChar char = true

section Kinds

variable {char : Char}

theorem isUpper_iff : char.isUpper = true ↔ 65 ≤ char.toNat ∧ char.toNat ≤ 90 :=
  decide_eq_true_iff

theorem isLower_iff : char.isLower = true ↔ 97 ≤ char.toNat ∧ char.toNat ≤ 122 :=
  Bool.and_eq_true_iff.trans (and_congr decide_eq_true_iff decide_eq_true_iff)

theorem isDigit_iff : char.isDigit = true ↔ 48 ≤ char.toNat ∧ char.toNat ≤ 57 :=
  Bool.and_eq_true_iff.trans (and_congr decide_eq_true_iff decide_eq_true_iff)

theorem isAlphanum_iff : char.isAlphanum = true ↔
    (char.isUpper = true ∨ char.isLower = true) ∨ char.isDigit = true :=
  Bool.or_eq_true_iff.trans (or_congr_left Bool.or_eq_true_iff)

/-- Only capitals become small. -/
theorem toLower_eq_self (noCapital : ¬char.isUpper = true) : char.toLower = char :=
  dif_neg fun isCapital => noCapital (decide_eq_true isCapital)

end Kinds

theorem isWordChar_iff {char : Char} : isWordChar char = true ↔
    (65 ≤ char.toNat ∧ char.toNat ≤ 90 ∨ 97 ≤ char.toNat ∧ char.toNat ≤ 122) ∨
      (48 ≤ char.toNat ∧ char.toNat ≤ 57) ∨ char = ':' ∨ char = '_' ∨ char = '-' := by
  simp only [isWordChar, Bool.or_eq_true, isAlphanum_iff, isUpper_iff, isLower_iff, isDigit_iff,
    List.contains_cons, List.contains_nil, Bool.or_false, beq_iff_eq, or_assoc]

theorem not_isBlank_of_isWordChar {char : Char} (isWord : isWordChar char = true) :
    Blank.isBlank char = false := by
  rcases isWordChar_iff.mp isWord with letter | digit | rfl | rfl | rfl
  · simp [Blank.isBlank]
    omega
  · simp [Blank.isBlank]
    omega
  all_goals decide

theorem begins_of_isWordChar {char : Char} (isWord : isWordChar char = true) :
    Directive.begins char = true := by
  simp only [isWordChar, isAlphanum_iff, Bool.or_eq_true, List.contains_cons, List.contains_nil,
    Bool.or_false, beq_iff_eq] at isWord
  rcases isWord with (letter | digit) | rfl | rfl | rfl
  · have isAlpha : char.isAlpha = true := Bool.or_eq_true_iff.mpr letter
    simp [Directive.begins, isAlphanumeric, isAlphabetic, isAlpha]
  · simp [Directive.begins, isAlphanumeric, isNumeric, digit]
  all_goals rfl

/-- The marks of a list of directives are in no word. -/
theorem ne_mark_of_isWordChar {char : Char} (isWord : isWordChar char = true) :
    char ≠ '=' ∧ char ≠ '[' ∧ char ≠ ',' := by
  refine ⟨?_, ?_, ?_⟩ <;> rintro rfl <;> revert isWord <;> decide

theorem isWordChar_of_toLower {char : Char} (small : isWordChar char.toLower = true) :
    isWordChar char = true := by
  by_cases isUpper : char.isUpper = true
  · exact isWordChar_iff.mpr (.inl (.inl (isUpper_iff.mp isUpper)))
  · rwa [toLower_eq_self isUpper] at small

theorem trim_eq_self {text : List Char} (visible : ∀ char ∈ text, Blank.isBlank char = false) :
    Blank.trim text = text := by
  have trimmed : Blank.IsTrimmed text :=
    ⟨fun char isFirst => visible char (List.mem_of_head? isFirst),
      fun char isLast => visible char (List.mem_of_getLast? isLast)⟩
  have none : Blank.IsBlanks [] := fun _ member => nomatch member
  simpa using Blank.trim_padded none none trimmed

namespace IsWord

variable {word : List Char}

theorem head?_ne_sign (isWord : IsWord word) : word.head? ≠ some '+' := by
  intro isSign
  have plus := isWord.chars '+' (List.mem_of_head? isSign)
  revert plus
  decide

theorem no_mark (isWord : IsWord word) {char : Char} (member : char ∈ word) :
    char ≠ '=' ∧ char ≠ '[' ∧ char ≠ ',' :=
  ne_mark_of_isWordChar (isWord.chars char member)

/-- No character of a word ends it, as directives are read. -/
theorem goesOn (isWord : IsWord word) {char : Char} (member : char ∈ word) :
    (!(decide (char = '=') || decide (char = '['))) = true := by
  simp [isWord.no_mark member]

end IsWord

/-! ## Levels as they are written -/

namespace Threshold

def name : Threshold → String
  | none => "off"
  | some .error => "error"
  | some .warn => "warn"
  | some .info => "info"
  | some .debug => "debug"
  | some .trace => "trace"

def digit : Threshold → Char
  | none => '0'
  | some .error => '1'
  | some .warn => '2'
  | some .info => '3'
  | some .debug => '4'
  | some .trace => '5'

/-- A threshold is written by its name in any case, or by its number. -/
inductive Spelling (threshold : Threshold) : List Char → Prop where
  | name {text : List Char} (same : text.map Char.toLower = threshold.name.toList) :
      Spelling threshold text
  | digit : Spelling threshold [threshold.digit]

variable {threshold : Threshold} {text : List Char}

theorem ofName?_name (threshold : Threshold) : ofName? threshold.name = some threshold := by
  rcases threshold with _ | _ | _ | _ | _ | _ <;> rfl

theorem name_of_ofName? {text : String} (named : ofName? text = some threshold) :
    threshold.name = text := by
  unfold ofName? at named
  split at named <;> cases named <;> rfl

theorem name_letters (threshold : Threshold) :
    threshold.name.toList ≠ [] ∧ ∀ char ∈ threshold.name.toList,
      isWordChar char = true ∧ char.isDigit = false := by
  rcases threshold with _ | _ | _ | _ | _ | _ <;> simp [name, isWordChar_iff]

theorem Spelling.isWord (spelling : Spelling threshold text) : IsWord text := by
  cases spelling with
  | digit =>
      refine ⟨List.cons_ne_nil _ _, fun char member => ?_⟩
      rw [List.mem_singleton.mp member]
      rcases threshold with _ | _ | _ | _ | _ | _ <;> decide
  | name same =>
      obtain ⟨visible, letters⟩ := name_letters threshold
      rw [← same] at visible letters
      refine ⟨fun isEmpty => visible (by rw [isEmpty]; rfl), fun char member => ?_⟩
      exact isWordChar_of_toLower (letters _ (List.mem_map_of_mem member)).1

/-- What is not all digits, after a sign or not, is no number. -/
theorem number?_eq_none {char : Char} (member : char ∈ text) (noDigit : char.isDigit = false)
    (noSign : text.head? ≠ some '+') : number? text = none := by
  have notAll : text.all Char.isDigit = false :=
    List.all_eq_false.mpr ⟨char, member, Bool.eq_false_iff.mp noDigit⟩
  simp [number?, noSign, notAll]

theorem toLower_of_isDigit {char : Char} (isDigit : char.isDigit = true) :
    char.toLower = char := by
  refine toLower_eq_self fun isUpper => ?_
  rw [isDigit_iff] at isDigit
  rw [isUpper_iff] at isUpper
  omega

theorem Spelling.parse?_eq (spelling : Spelling threshold text) :
    parse? text = some threshold := by
  have isWord := spelling.isWord
  cases spelling with
  | digit => rcases threshold with _ | _ | _ | _ | _ | _ <;> decide
  | name same =>
      obtain ⟨char, member⟩ := List.exists_mem_of_ne_nil text isWord.visible
      have noDigit : char.isDigit = false := by
        refine Bool.eq_false_iff.mpr fun isDigit => ?_
        have among : char ∈ threshold.name.toList := by
          rw [← same, ← toLower_of_isDigit isDigit]
          exact List.mem_map_of_mem member
        exact Bool.eq_false_iff.mp ((name_letters threshold).2 char among).2 isDigit
      rw [parse?, number?_eq_none member noDigit isWord.head?_ne_sign]
      dsimp only
      rw [same, String.ofList_toList, ofName?_name]

end Threshold

/-! ## Directives as they are written -/

namespace Directive

/-- Levels up to a threshold pass for targets that begin with a word. -/
def ofTarget (word : List Char) (threshold : Threshold) : Directive :=
  ⟨some (String.ofList word), none, false, threshold⟩

/-- A directive is written as a level, as a target of which every level passes, or as both. -/
inductive Spelling : Directive → List Char → Prop where
  | level {threshold : Threshold} {text : List Char} (spelling : threshold.Spelling text) :
      Spelling (everywhere threshold) text
  | target {word : List Char} (isWord : IsWord word)
      (noNumber : ∃ char ∈ word, char.isDigit = false)
      (noName : ∀ threshold : Threshold, word.map Char.toLower ≠ threshold.name.toList) :
      Spelling (ofTarget word (some .trace)) word
  | both {word text : List Char} {threshold : Threshold} (isWord : IsWord word)
      (spelling : threshold.Spelling text) :
      Spelling (ofTarget word threshold) (word ++ '=' :: text)
  | all {word : List Char} (isWord : IsWord word) :
      Spelling (ofTarget word (some .trace)) (word ++ ['='])

variable {word text : List Char} {directive : Directive}

/-- What is no number and no name is no level. -/
theorem parse?_eq_none (isWord : IsWord word) (noNumber : ∃ char ∈ word, char.isDigit = false)
    (noName : ∀ threshold : Threshold, word.map Char.toLower ≠ threshold.name.toList) :
    Threshold.parse? word = none := by
  obtain ⟨char, member, noDigit⟩ := noNumber
  rw [Threshold.parse?, Threshold.number?_eq_none member noDigit isWord.head?_ne_sign]
  cases named : Threshold.ofName? (String.ofList (word.map Char.toLower)) with
  | none => rfl
  | some threshold =>
      refine absurd ?_ (noName threshold)
      rw [Threshold.name_of_ofName? named, String.toList_ofList]

theorem parse_word (isWord : IsWord word) : parse word = .ok (ofWord word) := by
  have trimmed := trim_eq_self fun char member =>
    not_isBlank_of_isWordChar (isWord.chars char member)
  have whole := List.dropWhile_eq_nil_iff.mpr fun _ => isWord.goesOn
  rw [parse, trimmed]
  split
  · exact absurd rfl isWord.visible
  · exact absurd rfl (isWord.no_mark List.mem_cons_self).2.1
  · next first rest _ =>
      have begins := begins_of_isWordChar (isWord.chars first List.mem_cons_self)
      simp only [begins, whole, Bool.not_true, Bool.false_eq_true, ↓reduceIte]

theorem parse_both (isWord : IsWord word)
    (visible : ∀ char ∈ text, Blank.isBlank char = false) :
    parse (word ++ '=' :: text) = (parseLevel text).map (ofTarget word) := by
  have trimmed : Blank.trim (word ++ '=' :: text) = word ++ '=' :: text := by
    refine trim_eq_self fun char member => ?_
    rcases List.mem_append.mp member with inWord | rest
    · exact not_isBlank_of_isWordChar (isWord.chars char inWord)
    · rcases List.mem_cons.mp rest with rfl | inText
      · rfl
      · exact visible char inText
  have taken : (word ++ '=' :: text).takeWhile
      (fun char => !(decide (char = '=') || decide (char = '['))) = word := by
    rw [List.takeWhile_append_of_pos fun _ => isWord.goesOn, List.takeWhile_cons_of_neg (by simp),
      List.append_nil]
  have left : (word ++ '=' :: text).dropWhile
      (fun char => !(decide (char = '=') || decide (char = '['))) = '=' :: text := by
    rw [List.dropWhile_append_of_pos fun _ => isWord.goesOn, List.dropWhile_cons_of_neg (by simp)]
  have dropped : dropBytes? (byteCount word + 1) (word ++ '=' :: text) = some text := by
    have size : byteCount (word ++ ['=']) = byteCount word + 1 := byteCount_append word ['=']
    rw [← size, List.append_cons word '=' text]
    exact dropBytes?_byteCount _ _
  obtain ⟨first, others, rfl⟩ := List.exists_cons_of_ne_nil isWord.visible
  have begins := begins_of_isWordChar (isWord.chars first List.mem_cons_self)
  have cut := takeBytes?_byteCount (first :: others) ('=' :: text)
  rw [List.cons_append] at trimmed taken left dropped cut ⊢
  rw [parse, trimmed]
  split
  · next none => cases none
  · next rest same =>
      exact absurd (List.cons.inj same).1 (isWord.no_mark List.mem_cons_self).2.1
  · next head rest _ same =>
      obtain ⟨rfl, rfl⟩ := List.cons.inj same
      simp only [begins, taken, left, dropped, cut, part, Bool.not_true, Bool.false_eq_true,
        ↓reduceIte]
      change (do return ofTarget (first :: others) (← parseLevel text)) = _
      cases parseLevel text <;> rfl

theorem parseLevel_of_spelling {threshold : Threshold} (spelling : threshold.Spelling text) :
    parseLevel text = .ok threshold := by
  have visible : text.isEmpty = false := List.isEmpty_eq_false_iff.mpr spelling.isWord.visible
  rw [parseLevel, visible, if_neg Bool.false_ne_true, spelling.parse?_eq]
  rfl

/-- A directive is read as it is written. -/
theorem Spelling.parse_eq (spelling : Spelling directive text) : parse text = .ok directive := by
  cases spelling with
  | level spelling => rw [parse_word spelling.isWord, ofWord, spelling.parse?_eq]
  | target isWord noNumber noName =>
      rw [parse_word isWord, ofWord, parse?_eq_none isWord noNumber noName]
      rfl
  | both isWord spelling =>
      rw [parse_both isWord fun char member =>
        not_isBlank_of_isWordChar (spelling.isWord.chars char member),
        parseLevel_of_spelling spelling]
      rfl
  | all isWord =>
      rw [parse_both isWord fun _ member => absurd member List.not_mem_nil]
      rfl

/-- No comma is written in a directive, and no directive without a character. -/
theorem Spelling.piece (spelling : Spelling directive text) : text ≠ [] ∧ ',' ∉ text := by
  have word {word : List Char} (isWord : IsWord word) : ',' ∉ word := fun member =>
    (isWord.no_mark member).2.2 rfl
  cases spelling with
  | level spelling => exact ⟨spelling.isWord.visible, word spelling.isWord⟩
  | target isWord => exact ⟨isWord.visible, word isWord⟩
  | both isWord spelling => simp [word isWord, word spelling.isWord]
  | all isWord => simp [word isWord]

end Directive

/-! ## Lists of directives -/

namespace Filter

/-- A filter is written as its directives with commas between them. -/
inductive Spelling (filter : Filter) : String → Prop where
  | list {texts : List (List Char)} (some : filter ≠ [])
      (each : List.Forall₂ Directive.Spelling filter texts) :
      Spelling filter (String.ofList ([','].intercalate texts))

variable {filter : Filter} {event : Event}

theorem mapM_parse_eq {texts : List (List Char)}
    (each : List.Forall₂ Directive.Spelling filter texts) :
    texts.mapM Directive.parse = .ok filter := by
  induction each with
  | nil => rfl
  | cons spelling _ ih =>
      rw [List.mapM_cons, spelling.parse_eq, ih]
      rfl

theorem pieces_of_each {texts : List (List Char)}
    (each : List.Forall₂ Directive.Spelling filter texts) :
    ∀ piece ∈ texts, piece ≠ [] ∧ ',' ∉ piece := by
  induction each with
  | nil => exact fun _ member => absurd member List.not_mem_nil
  | cons spelling _ ih => exact List.forall_mem_cons.mpr ⟨spelling.piece, ih⟩

/-- A filter is read as it is written. -/
theorem Spelling.parse_eq {text : String} (spelling : filter.Spelling text) :
    parse text = .ok filter := by
  obtain ⟨some, each⟩ := spelling
  rename_i texts
  have pieces := pieces_of_each each
  have someTexts : texts ≠ [] := fun isEmpty => by
    subst isEmpty
    cases each
    exact some rfl
  rw [parse, String.toList_ofList, split_eq_splitOn,
    List.splitOn_intercalate ',' (fun piece member => (pieces piece member).2) someTexts]
  have kept : texts.filter (!·.isEmpty) = texts := by
    refine List.filter_eq_self.mpr fun piece member => ?_
    simpa using (pieces piece member).1
  rw [kept, mapM_parse_eq each]
  have noneIsEmpty : filter.isEmpty = false := List.isEmpty_eq_false_iff.mpr some
  change Except.ok (if filter.isEmpty = true then _ else filter) = _
  rw [noneIsEmpty, if_neg Bool.false_ne_true]

end Filter

/-! ## The directive that decides -/

namespace Directive

variable {first second third : Directive}

theorem yields_iff : first.yields second = true ↔
    first.rank < second.rank ∨
      first.rank = second.rank ∧ first.field.getD "" ≤ second.field.getD "" := by
  simp [yields]

/-- Of two directives one yields to the other. -/
theorem yields_of_not (stays : ¬first.yields second = true) : second.yields first = true := by
  rw [yields_iff] at stays ⊢
  have total := String.le_total (first.field.getD "") (second.field.getD "")
  by_cases before : first.field.getD "" ≤ second.field.getD ""
  · simp only [before, and_true] at stays
    omega
  · have after := total.resolve_left before
    simp only [before, and_false, or_false, after, and_true] at stays ⊢
    omega

theorem yields_refl (directive : Directive) : directive.yields directive = true :=
  yields_iff.mpr (.inr ⟨rfl, String.le_refl _⟩)

end Directive

namespace Filter

/-- Of some directives one is the last of those to which all others yield. -/
def IsLast (directives : List Directive) (directive : Directive) : Prop :=
  ∃ before after, directives = before ++ directive :: after ∧
    (∀ other ∈ before, other.yields directive = true) ∧
    ∀ other ∈ after, ¬directive.yields other = true

variable {directives : List Directive} {directive other : Directive}

theorem IsLast.yields (isLast : IsLast directives directive) (member : other ∈ directives) :
    other.yields directive = true := by
  obtain ⟨before, after, rfl, yield, stay⟩ := isLast
  rcases List.mem_append.mp member with isBefore | rest
  · exact yield other isBefore
  · rcases List.mem_cons.mp rest with rfl | isAfter
    · exact other.yields_refl
    · exact Directive.yields_of_not (stay other isAfter)

/-- Two directives cannot both be the last. -/
theorem IsLast.unique (isLast : IsLast directives directive) (isLastToo : IsLast directives other) :
    directive = other := by
  obtain ⟨before, after, rfl, yield, stay⟩ := isLast
  obtain ⟨beforeToo, afterToo, same, yieldToo, stayToo⟩ := isLastToo
  rcases List.append_eq_append_iff.mp same with
    ⟨between, isBefore, rest⟩ | ⟨between, isBefore, rest⟩
  · cases between with
    | nil => exact (List.cons.inj rest).1
    | cons next between =>
        obtain ⟨rfl, isAfter⟩ := List.cons.inj rest
        have isLater : other ∈ after := by simp [isAfter]
        have isEarlier : directive ∈ beforeToo := by simp [isBefore]
        exact absurd (yieldToo _ isEarlier) (stay _ isLater)
  · cases between with
    | nil => exact (List.cons.inj rest).1.symm
    | cons next between =>
        obtain ⟨rfl, isAfter⟩ := List.cons.inj rest
        have isLater : directive ∈ afterToo := by simp [isAfter]
        have isEarlier : other ∈ before := by simp [isBefore]
        exact absurd (yield _ isEarlier) (stayToo _ isLater)

variable {filter : Filter} {event : Event}

end Filter

/-! ## Filters as they are written -/

namespace Directive

variable {directive other : Directive} {text more : List Char} {event : Event}

theorem Spelling.plain (spelling : Spelling directive text) :
    directive.field = none ∧ directive.inSpan = false := by
  cases spelling <;> exact ⟨rfl, rfl⟩

theorem Spelling.yields_iff (spelling : Spelling directive text)
    (spellingToo : Spelling other more) :
    directive.yields other = true ↔ directive.rank ≤ other.rank := by
  rw [Directive.yields_iff, spelling.plain.1, spellingToo.plain.1]
  simp only [Option.getD_none, String.le_refl, and_true]
  omega

end Directive

namespace Filter

variable {filter : Filter} {event : Event} {text : String}

theorem exists_spelling_of_each {texts : List (List Char)}
    (each : List.Forall₂ Directive.Spelling filter texts) {directive : Directive}
    (member : directive ∈ filter) : ∃ text, Directive.Spelling directive text := by
  induction each with
  | nil => cases member
  | cons first _ ih =>
      rcases List.mem_cons.mp member with rfl | isLater
      · exact ⟨_, first⟩
      · exact ih isLater

theorem Spelling.yields_iff (spelling : filter.Spelling text) {first second : Directive}
    (member : first ∈ filter.filter (·.concerns event))
    (memberToo : second ∈ filter.filter (·.concerns event)) :
    first.yields second = true ↔ first.rank ≤ second.rank := by
  obtain ⟨_, each⟩ := spelling
  obtain ⟨_, spelled⟩ := exists_spelling_of_each each (List.mem_of_mem_filter member)
  obtain ⟨_, spelledToo⟩ := exists_spelling_of_each each (List.mem_of_mem_filter memberToo)
  exact spelled.yields_iff spelledToo

end Filter

end PluginHost.Log
