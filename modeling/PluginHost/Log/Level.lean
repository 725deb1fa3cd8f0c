/-!
# Log levels

Levels from the gravest to the most detailed, and thresholds that let the graver ones pass.
-/

namespace PluginHost.Log

inductive Level where
  | error
  | warn
  | info
  | debug
  | trace
  deriving DecidableEq, Repr

namespace Level

/-- The more detailed, the higher. -/
def rank : Level → Nat
  | error => 1
  | warn => 2
  | info => 3
  | debug => 4
  | trace => 5

/-- The name, set to the right in five columns. -/
def label : Level → String
  | error => "ERROR"
  | warn => " WARN"
  | info => " INFO"
  | debug => "DEBUG"
  | trace => "TRACE"

end Level

/-- The most detailed level that passes; without one, none does. -/
abbrev Threshold := Option Level

namespace Threshold

def passes (threshold : Threshold) (level : Level) : Bool :=
  match threshold with
  | none => false
  | some most => level.rank ≤ most.rank

def ofNumber? : Nat → Option Threshold
  | 0 => some none
  | 1 => some (some .error)
  | 2 => some (some .warn)
  | 3 => some (some .info)
  | 4 => some (some .debug)
  | 5 => some (some .trace)
  | _ => none

def ofName? (name : String) : Option Threshold :=
  match name with
  | "off" => some none
  | "error" => some (some .error)
  | "warn" => some (some .warn)
  | "info" => some (some .info)
  | "debug" => some (some .debug)
  | "trace" => some (some .trace)
  | _ => none

/-- The number that decimal digits denote, after a plus sign or not. -/
def number? (text : List Char) : Option Nat :=
  let digits := if text.head? = some '+' then text.tail else text
  if digits.isEmpty || !digits.all Char.isDigit then none
  else some (digits.foldl (fun value digit => value * 10 + (digit.toNat - 48)) 0)

/-- A level's number, or its name in any case. -/
def parse? (text : List Char) : Option Threshold :=
  match number? text with
  | some number => ofNumber? number
  | none => ofName? (String.ofList (text.map Char.toLower))

end Threshold

end PluginHost.Log
