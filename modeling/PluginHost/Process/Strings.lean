import PluginHost.Bytes

/-!
# Strings in memory

Strings that lie one behind the other, each with a NUL at its end, and tables of their addresses.
-/

namespace PluginHost

/-- Strings one behind the other, last byte first, with the addresses at which they begin. -/
structure Strings where
  start : UInt64
  bytes : Bytes
  length : Nat
  addresses : List UInt64

namespace Strings

/-- No strings yet, after so many zeros. -/
def after (start : UInt64) (length : Nat) : Strings := ⟨start, List.replicate length 0, length, []⟩

def unit : Nat := 16

/-- Put a string behind the others, with its NUL, at a multiple of the unit. -/
def add (strings : Strings) (bytes : Bytes) : Strings :=
  let zeros := unit - bytes.length % unit
  { strings with
    bytes := List.replicate zeros 0 ++ (bytes.reverse ++ strings.bytes)
    length := strings.length + bytes.length + zeros
    addresses := strings.addresses ++ [strings.start + strings.length.toUInt64] }

/-- Strings as a program is given them: a table of their addresses with a zero at its end, and then
the strings. -/
def table (start : UInt64) (texts : List Bytes) : Bytes :=
  let strings := texts.foldl add (after start (8 * (texts.length + 1)))
  strings.addresses.flatMap (fun address => Bytes.ofNumber 8 address.toNat) ++
    strings.bytes.reverse.drop (8 * texts.length)

end Strings

end PluginHost
