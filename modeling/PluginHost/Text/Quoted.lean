import PluginHost.Text.Hexadecimal
import PluginHost.Text.Printable

/-!
# Quoted text

A text between double quotes in which every character can be seen: quotes and backslashes follow a
backslash, and characters that are not printable are written by name or by code point.
-/

namespace PluginHost.Text.Quoted

def escapeCode (char : Char) : List Char :=
  ['\\', 'u', '\x7b'] ++ Hexadecimal.digits char.toNat ++ ['\x7d']

def escapeChar (char : Char) : List Char :=
  if char = '\x00' then ['\\', '0']
  else if char = '\t' then ['\\', 't']
  else if char = '\r' then ['\\', 'r']
  else if char = '\n' then ['\\', 'n']
  else if char = '"' then ['\\', '"']
  else if char = '\\' then ['\\', '\\']
  else if isPrintable char then [char]
  else escapeCode char

def encode (text : List Char) : List Char := '"' :: text.flatMap escapeChar ++ ['"']

def quote (text : String) : String := String.ofList (encode text.toList)

end PluginHost.Text.Quoted
