import PluginHost.Text.Quoted

/-!
# Reading quoted text back

Between its quotation marks, a quoted text is read back character by character. Every character of
it is printable, so it holds no control character and ends no line.
-/

namespace PluginHost.Text.Quoted

/-! ## Undoing escapes -/

/-- What a character behind a backslash stands for. -/
def named? : Char → Option Char
  | '0' => some '\x00'
  | 't' => some '\t'
  | 'r' => some '\r'
  | 'n' => some '\n'
  | '"' => some '"'
  | '\\' => some '\\'
  | _ => none

/-- Where reading has come to: between characters, behind a backslash, before the digits of a code
point, or behind some of them, with the value that they have. -/
inductive Place where
  | plain
  | escape
  | brace
  | code (value : Nat)

/-- A character in front of what has been read. -/
def before (char : Char) (read : List Char × List Char) : List Char × List Char :=
  (char :: read.1, read.2)

/-- The text up to the closing quotation mark, and what follows that. -/
def unescape : Place → List Char → Option (List Char × List Char)
  | _, [] => none
  | .plain, char :: rest =>
      if char = '"' then some ([], rest)
      else if char = '\\' then unescape .escape rest
      else (unescape .plain rest).map (before char)
  | .escape, char :: rest =>
      if char = 'u' then unescape .brace rest
      else (named? char).bind fun named => (unescape .plain rest).map (before named)
  | .brace, char :: rest => if char = '\x7b' then unescape (.code 0) rest else none
  | .code value, char :: rest =>
      if char = '\x7d' then
        if value.isValidChar then (unescape .plain rest).map (before (Char.ofNat value)) else none
      else (Hexadecimal.digitValue? char).bind fun digit => unescape (.code (value * 16 + digit)) rest

/-- The first quoted text in a text, and what follows it. -/
def firstQuoted? (text : String) : Option (String × String) :=
  match text.toList.dropWhile (· != '"') with
  | [] => none
  | _ :: rest => (unescape .plain rest).map fun read => (.ofList read.1, .ofList read.2)

variable {char : Char} {rest : List Char}

/-! ## Code points -/

theorem digitValue?_digit {value : Nat} (small : value < 16) :
    Hexadecimal.digitValue? (Hexadecimal.digit value) = some value := by
  have each : ∀ value < 16, Hexadecimal.digitValue? (Hexadecimal.digit value) = some value := by
    decide
  exact each value small

theorem unescape_digit {value digit : Nat} (small : digit < 16) (rest : List Char) :
    unescape (.code value) (Hexadecimal.digit digit :: rest) =
      unescape (.code (value * 16 + digit)) rest := by
  have noBrace : ∀ digit < 16, Hexadecimal.digit digit ≠ '\x7d' := by decide
  rw [unescape, if_neg (noBrace digit small), digitValue?_digit small, Option.bind_some]

theorem unescape_digits (value : Nat) (rest : List Char) :
    unescape (.code 0) (Hexadecimal.digits value ++ rest) = unescape (.code value) rest := by
  fun_induction Hexadecimal.digits value generalizing rest with
  | case1 value small =>
      rw [List.singleton_append, unescape_digit small, Nat.zero_mul, Nat.zero_add]
  | case2 value large ih =>
      rw [List.append_assoc, ih, List.singleton_append, unescape_digit (Nat.mod_lt _ (by decide)),
        Nat.div_add_mod']

theorem unescape_escapeCode (char : Char) (rest : List Char) :
    unescape .plain (escapeCode char ++ rest) = (unescape .plain rest).map (before char) := by
  have valid : char.toNat.isValidChar := char.valid
  have opened : unescape .plain (escapeCode char ++ rest) =
      unescape (.code 0) (Hexadecimal.digits char.toNat ++ ('\x7d' :: rest)) := by
    rw [escapeCode, List.append_assoc, List.append_assoc]
    rfl
  rw [opened, unescape_digits, unescape, if_pos rfl, if_pos valid, Char.ofNat_toNat]

/-! ## Characters -/

theorem unescape_plain (noQuote : char ≠ '"') (noEscape : char ≠ '\\') :
    unescape .plain (char :: rest) = (unescape .plain rest).map (before char) := by
  rw [unescape, if_neg noQuote, if_neg noEscape]

theorem unescape_escapeChar (char : Char) (rest : List Char) :
    unescape .plain (escapeChar char ++ rest) = (unescape .plain rest).map (before char) := by
  rw [escapeChar]
  -- One after the other, the characters that have a name.
  iterate 6
    split
    · next same =>
        subst same
        rfl
  split
  · next noQuote noEscape _ => exact unescape_plain noQuote noEscape
  · exact unescape_escapeCode char rest

/-- A text that was escaped is read back, up to its end. -/
theorem unescape_escaped (text rest : List Char) :
    unescape .plain (text.flatMap escapeChar ++ '"' :: rest) = some (text, rest) := by
  induction text with
  | nil => rfl
  | cons char text ih =>
      rw [List.flatMap_cons, List.append_assoc, unescape_escapeChar, ih]
      rfl

/-- A quoted text is found behind a text without quotation marks. -/
theorem firstQuoted?_quote {front : String} (unquoted : '"' ∉ front.toList) (text rest : String) :
    firstQuoted? (front ++ quote text ++ rest) = some (text, rest) := by
  have passes (char : Char) (member : char ∈ front.toList) : (char != '"') = true :=
    bne_iff_ne.mpr fun same => unquoted (same ▸ member)
  have whole : (front ++ quote text ++ rest).toList =
      front.toList ++ '"' :: (text.toList.flatMap escapeChar ++ '"' :: rest.toList) := by
    simp [quote, encode]
  have found : (front ++ quote text ++ rest).toList.dropWhile (· != '"') =
      '"' :: (text.toList.flatMap escapeChar ++ '"' :: rest.toList) := by
    rw [whole, List.dropWhile_append_of_pos passes]
    exact List.dropWhile_cons_of_neg (by decide)
  rw [firstQuoted?, found]
  dsimp only
  rw [unescape_escaped, Option.map_some, String.ofList_toList, String.ofList_toList]

/-! ## Printable characters -/

def Printable (text : List Char) : Prop := ∀ char ∈ text, isPrintable char = true

theorem Printable.append {first second : List Char} (one : Printable first)
    (two : Printable second) : Printable (first ++ second) := fun char member =>
  (List.mem_append.mp member).elim (one char) (two char)

theorem printable_of_all {text : List Char} (all : text.all isPrintable = true) :
    Printable text := List.all_eq_true.mp all

theorem printable_digits (value : Nat) : Printable (Hexadecimal.digits value) := by
  have each : ∀ digit < 16, isPrintable (Hexadecimal.digit digit) = true := by decide
  fun_induction Hexadecimal.digits value with
  | case1 value small => exact List.forall_mem_singleton.mpr (each value small)
  | case2 value large ih =>
      exact ih.append (List.forall_mem_singleton.mpr (each _ (Nat.mod_lt _ (by decide))))

theorem printable_escapeChar (char : Char) : Printable (escapeChar char) := by
  rw [escapeChar]
  iterate 6
    split
    · exact printable_of_all rfl
  split
  · next printable => exact List.forall_mem_singleton.mpr printable
  · exact (Printable.append (printable_of_all rfl) (printable_digits _)).append
      (printable_of_all rfl)

theorem printable_quote (text : String) : Printable (quote text).toList := by
  have marks : Printable ['"'] := printable_of_all rfl
  have escaped : Printable (text.toList.flatMap escapeChar) := by
    intro char member
    obtain ⟨source, _, inEscape⟩ := List.mem_flatMap.mp member
    exact printable_escapeChar source char inEscape
  rw [quote, String.toList_ofList, encode]
  exact (marks.append escaped).append marks

/-- The characters after which a new line begins. -/
def lineEnds : List Char := ['\n', '\x0b', '\x0c', '\r', '\u0085', '\u2028', '\u2029']

theorem Printable.not_isControl {text : List Char} (printable : Printable text) {char : Char}
    (member : char ∈ text) : isControl char = false := by
  have shows := printable char member
  rw [isPrintable, Bool.and_eq_true, Bool.not_eq_true'] at shows
  exact shows.1

theorem Printable.notMem_lineEnds {text : List Char} (printable : Printable text) {char : Char}
    (member : char ∈ text) : char ∉ lineEnds := by
  intro ends
  have hidden : lineEnds.all (!isPrintable ·) = true := by decide +kernel
  have isHidden := List.all_eq_true.mp hidden char ends
  rw [printable char member] at isHidden
  cases isHidden

end PluginHost.Text.Quoted
