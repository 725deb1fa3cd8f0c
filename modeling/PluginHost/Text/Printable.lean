import PluginHost.Text.ExtendingRanges
import PluginHost.Text.HiddenRanges
import PluginHost.Text.Ranges

/-!
# Printable characters

A character is printable if it shows by itself: it is no control character, it is not hidden, and it
does not merge with the character before it.
-/

namespace PluginHost.Text

/-- The controls of ASCII, DEL, and U+0080 to U+009F. -/
def isControl (char : Char) : Bool :=
  char.toNat < 0x20 || (0x7F ≤ char.toNat && char.toNat < 0xA0)

def isPrintable (char : Char) : Bool :=
  !isControl char &&
    (char.toNat < 0x7F ||
      !(inRanges char.toNat hiddenRanges || inRanges char.toNat extendingRanges))

end PluginHost.Text
