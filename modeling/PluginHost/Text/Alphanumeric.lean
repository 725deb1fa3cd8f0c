import PluginHost.Text.LetterRanges
import PluginHost.Text.NumberRanges
import PluginHost.Text.Ranges

/-!
# Letters and numbers

The characters of Unicode that are alphabetic or stand for a number.
-/

namespace PluginHost.Text

def isAlphabetic (char : Char) : Bool := char.isAlpha || inRanges char.toNat letterRanges

def isNumeric (char : Char) : Bool := char.isDigit || inRanges char.toNat numberRanges

def isAlphanumeric (char : Char) : Bool := isAlphabetic char || isNumeric char

end PluginHost.Text
