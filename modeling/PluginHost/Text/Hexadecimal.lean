/-!
# Hexadecimal numerals

Small letters, no leading zeros.
-/

namespace PluginHost.Text.Hexadecimal

def digit (value : Nat) : Char :=
  if value < 10 then Char.ofNat (48 + value) else Char.ofNat (87 + value)

/-- The digits of a number, most significant first. -/
def digits (value : Nat) : List Char :=
  if value < 16 then [digit value] else digits (value / 16) ++ [digit (value % 16)]

def digitValue? (char : Char) : Option Nat :=
  if '0' ≤ char ∧ char ≤ '9' then some (char.toNat - 48)
  else if 'a' ≤ char ∧ char ≤ 'f' then some (char.toNat - 87)
  else none

end PluginHost.Text.Hexadecimal
