/-!
# Numerals

The written forms of a number: digits with or without a point, before or without an exponent, or a
word for infinity or for no number at all. A sign may come first.
-/

namespace PluginHost.Text.Numeral

/-- The text after a sign, if it begins with one. -/
def unsigned : List Char → List Char
  | '+' :: rest => rest
  | '-' :: rest => rest
  | text => text

def isDigits (text : List Char) : Bool := !text.isEmpty && text.all Char.isDigit

/-- Digits, with a point before, among or behind them or without one. -/
def isDecimal (text : List Char) : Bool :=
  let whole := text.takeWhile Char.isDigit
  match text.dropWhile Char.isDigit with
  | [] => !whole.isEmpty
  | '.' :: fraction => isDigits (whole ++ fraction)
  | _ => false

/-- Small and capital letters are alike in words. -/
def isWord (text : List Char) : Bool :=
  ["inf", "infinity", "nan"].contains (String.ofList (text.map Char.toLower))

def startsExponent (char : Char) : Bool := char = 'e' || char = 'E'

def isNumeral (text : List Char) : Bool :=
  let text := unsigned text
  let decimal := text.takeWhile (!startsExponent ·)
  match text.dropWhile (!startsExponent ·) with
  | [] => isWord text || isDecimal decimal
  | _ :: exponent => isDecimal decimal && isDigits (unsigned exponent)

end PluginHost.Text.Numeral
