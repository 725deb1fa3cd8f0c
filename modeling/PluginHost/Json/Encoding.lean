import PluginHost.Text.Hexadecimal

/-!
# JSON strings

The compact written form of a string: quotes, backslashes and the controls below U+0020 are escaped,
and every other character stands for itself.
-/

namespace PluginHost.Json

/-- Two hexadecimal digits after `\u00`, enough for the control characters. -/
def controlEscape (char : Char) : List Char :=
  ['\\', 'u', '0', '0', Text.Hexadecimal.digit (char.toNat / 16),
    Text.Hexadecimal.digit (char.toNat % 16)]

def escapeChar (char : Char) : List Char :=
  if char = '"' then ['\\', '"']
  else if char = '\\' then ['\\', '\\']
  else if char = '\x08' then ['\\', 'b']
  else if char = '\x0c' then ['\\', 'f']
  else if char = '\n' then ['\\', 'n']
  else if char = '\r' then ['\\', 'r']
  else if char = '\t' then ['\\', 't']
  else if char.toNat < 0x20 then controlEscape char
  else [char]

def writeString (text : String) : List Char :=
  '"' :: text.toList.flatMap escapeChar ++ ['"']

end PluginHost.Json
