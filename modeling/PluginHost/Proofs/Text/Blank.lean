import Mathlib.Data.List.DropRight
import PluginHost.Text.Blank

/-!
# Trimmed text

What trimming leaves is the one part of a text that has blanks on both sides of it, and no blank at
its own ends.
-/

namespace PluginHost.Text.Blank

variable {text before after : List Char}

def IsBlanks (text : List Char) : Prop := ∀ char ∈ text, isBlank char = true

instance (text : List Char) : Decidable (IsBlanks text) :=
  decidable_of_iff (text.all isBlank = true) List.all_eq_true

/-- No blank stands at either end. -/
structure IsTrimmed (text : List Char) : Prop where
  first : ∀ char, text.head? = some char → isBlank char = false
  last : ∀ char, text.getLast? = some char → isBlank char = false

theorem IsTrimmed.reverse (trimmed : IsTrimmed text) : IsTrimmed text.reverse := by
  constructor
  · rw [List.head?_reverse]
    exact trimmed.last
  · rw [List.getLast?_reverse]
    exact trimmed.first

theorem trimEnd_eq (text : List Char) : trimEnd text = (trimStart text.reverse).reverse := rfl

theorem trimStart_append_of_isBlanks (blanks : IsBlanks before) (text : List Char) :
    trimStart (before ++ text) = trimStart text :=
  List.dropWhile_append_of_pos blanks

/-- Nothing is dropped from before a trimmed text, unless there is nothing of it. -/
theorem trimStart_append (trimmed : IsTrimmed text) (visible : text ≠ []) (rest : List Char) :
    trimStart (text ++ rest) = text ++ rest := by
  cases text with
  | nil => exact absurd rfl visible
  | cons first others =>
      have stays : ¬ isBlank first = true := by
        rw [trimmed.first first rfl]
        exact Bool.false_ne_true
      exact List.dropWhile_cons_of_neg stays

theorem trim_padded (blanksBefore : IsBlanks before) (blanksAfter : IsBlanks after)
    (trimmed : IsTrimmed text) : trim (before ++ text ++ after) = text := by
  have blanksReversed : IsBlanks after.reverse := fun char member =>
    blanksAfter char (List.mem_reverse.mp member)
  rw [trim, List.append_assoc, trimStart_append_of_isBlanks blanksBefore]
  by_cases visible : text = []
  · have dropped : trimStart (text ++ after) = [] := by
      rw [visible, List.nil_append]
      exact List.dropWhile_eq_nil_iff.mpr blanksAfter
    rw [dropped, visible]
    rfl
  · have visibleReversed : text.reverse ≠ [] := mt List.reverse_eq_nil_iff.mp visible
    rw [trimStart_append trimmed visible, trimEnd_eq, List.reverse_append,
      trimStart_append_of_isBlanks blanksReversed, ← List.append_nil text.reverse,
      trimStart_append trimmed.reverse visibleReversed, List.append_nil, List.reverse_reverse]

theorem not_isBlank_of_head?_trimStart {char : Char} (starts : (trimStart text).head? = some char) :
    isBlank char = false := by
  have stops := List.head?_dropWhile_not isBlank text
  rw [trimStart] at starts
  rwa [starts] at stops

theorem isTrimmed_trim (text : List Char) : IsTrimmed (trim text) := by
  constructor
  · intro char starts
    -- The cut at the end leaves what stands at the start.
    have cut : trim text <+: trimStart text := List.rdropWhile_prefix isBlank _
    obtain ⟨rest, whole⟩ := cut
    apply not_isBlank_of_head?_trimStart
    rw [← whole]
    exact List.mem_head?_append_of_mem_head? starts
  · intro char ends
    rw [trim, trimEnd_eq, List.getLast?_reverse] at ends
    exact not_isBlank_of_head?_trimStart ends

theorem exists_padding (text : List Char) :
    ∃ before after, IsBlanks before ∧ IsBlanks after ∧ before ++ trim text ++ after = text := by
  refine ⟨text.takeWhile isBlank, (trimStart text).rtakeWhile isBlank,
    fun _ => List.mem_takeWhile_imp, fun _ => List.mem_rtakeWhile_imp, ?_⟩
  have kept : trim text ++ (trimStart text).rtakeWhile isBlank = trimStart text :=
    List.rdropWhile_append_rtakeWhile
  rw [List.append_assoc, kept]
  exact List.takeWhile_append_dropWhile

end PluginHost.Text.Blank
