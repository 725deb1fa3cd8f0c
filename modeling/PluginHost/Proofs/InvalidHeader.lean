import PluginHost.Proofs.Header
import PluginHost.Proofs.Text.Quoted

/-!
# Messages about refused headers

A message holds the refused text in quotes, from which it can be read off again. Whatever the text
is, the message is one line of printable characters.
-/

namespace PluginHost.InvalidHeader

open Text (isControl)
open Text.Quoted

def opening : String := "invalid header "

def closing : String := ": expected `Name: value`"

theorem message_eq (error : InvalidHeader) :
    error.message = opening ++ quote error.raw ++ closing := rfl

theorem printable_message (error : InvalidHeader) : Printable error.message.toList := by
  have opens : Printable opening.toList := printable_of_all (by decide +kernel)
  have closes : Printable closing.toList := printable_of_all (by decide +kernel)
  rw [message_eq, String.toList_append, String.toList_append]
  exact (opens.append (printable_quote error.raw)).append closes

theorem firstQuoted?_message (error : InvalidHeader) :
    firstQuoted? error.message = some (error.raw, closing) := by
  have unquoted : '"' ∉ opening.toList := by decide
  rw [message_eq]
  exact firstQuoted?_quote unquoted error.raw closing

theorem eq_of_message_eq {first second : InvalidHeader} (same : first.message = second.message) :
    first.raw = second.raw := by
  have readsFirst := firstQuoted?_message first
  rw [same, firstQuoted?_message second] at readsFirst
  exact (congrArg Prod.fst (Option.some.inj readsFirst)).symm

/-- The message about a refused text has no control character and no end of a line in it, and the
text is what stands in its quotes. So messages about different texts differ. -/
theorem message_tells_raw :
    (∀ raw error, Header.parse raw = .error error →
        (∀ char ∈ error.message.toList, isControl char = false ∧ char ∉ lineEnds) ∧
          firstQuoted? error.message = some (raw, closing)) ∧
      ∀ first second error other, Header.parse first = .error error →
        Header.parse second = .error other → error.message = other.message → first = second := by
  constructor
  · intro raw error refuses
    rw [Header.eq_of_parse_error refuses]
    have printable := printable_message ⟨raw⟩
    exact ⟨fun char member => ⟨printable.not_isControl member, printable.notMem_lineEnds member⟩,
      firstQuoted?_message ⟨raw⟩⟩
  · intro first second error other refusesFirst refusesSecond same
    rw [Header.eq_of_parse_error refusesFirst, Header.eq_of_parse_error refusesSecond] at same
    exact eq_of_message_eq same

/-- A text that would close its quotes, looks like an escape, and goes on in a new line, after an
accent that would merge with the mark before it. -/
theorem message_tells_raw_escapes :
    Header.parse "\u0301\"\\u\x7b61\x7d\n\x1b\u2028é" =
        .error ⟨"\u0301\"\\u\x7b61\x7d\n\x1b\u2028é"⟩ ∧
      firstQuoted? (InvalidHeader.message ⟨"\u0301\"\\u\x7b61\x7d\n\x1b\u2028é"⟩) =
        some ("\u0301\"\\u\x7b61\x7d\n\x1b\u2028é", closing) ∧
      InvalidHeader.message ⟨"\u0301\"\\u\x7b61\x7d\n\x1b\u2028é"⟩ = opening ++
        "\"\\u\x7b301\x7d\\\"\\\\u\x7b61\x7d\\n\\u\x7b1b\x7d\\u\x7b2028\x7dé\"" ++ closing ∧
      InvalidHeader.message ⟨"a"⟩ ≠ InvalidHeader.message ⟨"\\u\x7b61\x7d"⟩ := by
  have refuses : Header.parse "\u0301\"\\u\x7b61\x7d\n\x1b\u2028é" =
      .error ⟨"\u0301\"\\u\x7b61\x7d\n\x1b\u2028é"⟩ := rfl
  have shown : quote "\u0301\"\\u\x7b61\x7d\n\x1b\u2028é" =
      "\"\\u\x7b301\x7d\\\"\\\\u\x7b61\x7d\\n\\u\x7b1b\x7d\\u\x7b2028\x7dé\"" := by decide +kernel
  obtain ⟨tells, differs⟩ := message_tells_raw
  refine ⟨refuses, (tells _ _ refuses).2, ?_, fun same => ?_⟩
  · rw [message_eq, shown]
  · exact absurd (differs "a" "\\u\x7b61\x7d" ⟨"a"⟩ ⟨"\\u\x7b61\x7d"⟩ rfl rfl same) (by decide)

end PluginHost.InvalidHeader
