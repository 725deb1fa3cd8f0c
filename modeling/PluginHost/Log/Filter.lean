import PluginHost.Log.Event
import PluginHost.Pattern.Basic
import PluginHost.Split
import PluginHost.Text.Alphanumeric
import PluginHost.Text.Blank
import PluginHost.Text.Cut
import PluginHost.Text.Numeral

/-!
# Log filters

A filter is a list of directives between commas. A directive is a level, a target, or both with an
equals sign between them; square brackets after the target bind it to a span or to a field. Of the
directives that concern an event the one with the longest target decides.

Directives are told into parts after blanks around them have been dropped, but the parts are cut
from the directive as it was written, at the same distances in bytes from its start. So after blanks
at the start each part is that many bytes off, and after blanks at the end the last part holds them.
A part that would begin or end inside a character cannot be cut.
-/

namespace PluginHost.Log

open PluginHost.Text

/-- Why a text is no directive. -/
inductive Misreading where
  | malformed
  /-- A part would begin or end inside a character. -/
  | cut
  deriving DecidableEq, Repr

structure Directive where
  /-- What the event's target must begin with. -/
  target : Option String
  /-- A field that the event must carry. -/
  field : Option String
  /-- The directive holds inside a span only, and no event here is inside one. -/
  inSpan : Bool
  threshold : Threshold
  deriving DecidableEq, Repr

namespace Directive

/-- A threshold for every event. -/
def everywhere (threshold : Threshold) : Directive := ⟨none, none, false, threshold⟩

/-- A part that must be cut from a text. -/
def part (cut? : Option (List Char)) : Except Misreading (List Char) :=
  cut?.elim (.error .cut) .ok

/-- The level after an equals sign; none written stands for the most detailed. -/
def parseLevel (text : List Char) : Except Misreading Threshold :=
  if text.isEmpty then .ok (some .trace)
  else (Threshold.parse? text).elim (.error .malformed) .ok

/-- A level by itself, or else a target of which every level passes. -/
def ofWord (word : List Char) : Directive :=
  match Threshold.parse? word with
  | some threshold => everywhere threshold
  | none => ⟨some (String.ofList word), none, false, some .trace⟩

/-- A value of a field is a number or a pattern for its text. -/
def isFieldValue (text : List Char) : Bool := Numeral.isNumeral text || Pattern.compiles text

/-- The name of a field, and whether a value follows it after an equals sign. The value ends at the
next equals sign. -/
def parseField (text : List Char) : Except Misreading (List Char × Bool) :=
  match split '=' text with
  | [] => .error .malformed
  | [name] => if name.isEmpty then .error .malformed else .ok (name, false)
  | name :: value :: _ => if isFieldValue value then .ok (name, true) else .error .malformed

/-- Read what is left after the closing bracket: nothing, or an equals sign and a level. The text
after the bracket begins at the distance `start`. -/
def parseEnd (written : List Char) (start : Nat) : List Char → Except Misreading Threshold
  | [] => .ok (some .trace)
  | '=' :: _ => do parseLevel (← part (dropBytes? (start + 1) written))
  | _ => .error .malformed

/-- Read what follows the brace that opens a field: its name and maybe its value, which is that of a
span, the closing brace and bracket, and the level. -/
def parseBraces (written : List Char) (target : Option String) (isSpan : Bool) (start : Nat)
    (text : List Char) : Except Misreading Directive :=
  let size := byteCount (text.takeWhile (· ≠ '\x7d'))
  match text.dropWhile (· ≠ '\x7d') with
  | [] => .error .malformed
  | _ :: rest => do
      let (name, hasValue) ← parseField (← part (sliceBytes? written start size))
      match rest with
      | ']' :: rest =>
          let threshold ← parseEnd written (start + size + 2) rest
          return ⟨target, some (String.ofList name), isSpan || hasValue, threshold⟩
      | _ => throw .malformed

/-- Read what follows an opening bracket: the name of a span or a field in braces or both, the
closing bracket, and the level. The text after the opening bracket begins at the distance
`start`. -/
def parseBracket (written : List Char) (target : Option String) (start : Nat)
    (text : List Char) : Except Misreading Directive :=
  let endsSpan (char : Char) : Bool := char = ']' || char = '\x7b'
  let size := byteCount (text.takeWhile (!endsSpan ·))
  match text.dropWhile (!endsSpan ·) with
  | [] => .error .malformed
  | mark :: rest => do
      let span ← part (sliceBytes? written start size)
      if mark = ']' then
        return ⟨target, none, true, ← parseEnd written (start + size + 1) rest⟩
      else parseBraces written target (!span.isEmpty) (start + size + 1) rest

/-- Letters and numbers, hyphen, colon and underscore may begin a directive. -/
def begins (char : Char) : Bool := isAlphanumeric char || ['-', ':', '_'].contains char

/-- Read one directive as it is written. -/
def parse (written : List Char) : Except Misreading Directive :=
  match Blank.trim written with
  | [] => .error .malformed
  | '[' :: rest => parseBracket written none 1 rest
  | first :: rest =>
      if !begins first then .error .malformed
      else
        let endsWord (char : Char) : Bool := char = '=' || char = '['
        let size := byteCount ((first :: rest).takeWhile (!endsWord ·))
        match (first :: rest).dropWhile (!endsWord ·) with
        | [] => .ok (ofWord written)
        | mark :: rest => do
            let target := some (String.ofList (← part (takeBytes? size written)))
            if mark = '=' then
              let threshold ← parseLevel (← part (dropBytes? (size + 1) written))
              return ⟨target, none, false, threshold⟩
            else parseBracket written target (size + 1) rest

def concerns (directive : Directive) (event : Event) : Bool :=
  !directive.inSpan &&
    directive.target.all (fun target => target.toList.isPrefixOf event.target.toList) &&
    directive.field.all event.fieldNames.contains

/-- The longer the target, the higher. -/
def rank (directive : Directive) : Nat :=
  match directive.target with
  | none => 0
  | some target => target.length + 1

/-- A directive yields to one of higher rank, and at equal rank to one whose field comes no earlier
in order; no field comes before every field. -/
def yields (first second : Directive) : Bool :=
  first.rank < second.rank ||
    (first.rank == second.rank && first.field.getD "" ≤ second.field.getD "")

end Directive

abbrev Filter := List Directive

namespace Filter

/-- The directive that decides about an event; of two that are alike, the later. -/
def decisive? (filter : Filter) (event : Event) : Option Directive :=
  (filter.filter (·.concerns event)).foldl
    (fun best directive =>
      match best with
      | none => some directive
      | some best => if best.yields directive then some directive else some best)
    none

/-- An event that no directive concerns does not pass. -/
def passes (filter : Filter) (event : Event) : Bool :=
  (filter.decisive? event).any (·.threshold.passes event.level)

/-- Read a list of directives. Without any, errors pass. The first that cannot be read decides. -/
def parse (text : String) : Except Misreading Filter := do
  let pieces := (split ',' text.toList).filter (!·.isEmpty)
  let filter ← pieces.mapM Directive.parse
  return if filter.isEmpty then [.everywhere (some .error)] else filter

/-- What a setting says; one that is absent or no text says nothing. -/
def read? (setting : Option Bytes) : Option (Except Misreading Filter) :=
  (setting.bind Utf8.decode?).map parse

/-- The filter of a setting; one that says nothing, or is malformed, leaves the default. -/
def ofSetting (default : Level) (setting : Option Bytes) : Filter :=
  match read? setting with
  | some (.ok filter) => filter
  | _ => [.everywhere (some default)]

/-- Whether a setting would have to be cut inside a character. -/
def isCut (setting : Option Bytes) : Bool :=
  match read? setting with
  | some (.error .cut) => true
  | _ => false

end Filter

end PluginHost.Log
