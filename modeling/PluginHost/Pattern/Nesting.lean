/-!
# Nesting in patterns

How deep the parts of a pattern lie in each other. A part that has no parts has depth zero. A
sequence is one level above its deepest item, but one item is not a sequence of its own.
-/

namespace PluginHost.Pattern

/-- A sequence under way. -/
structure Items where
  count : Nat
  /-- The depth of the deepest item. -/
  deepest : Nat
  deriving DecidableEq, Repr

namespace Items

def empty : Items := ⟨0, 0⟩

def add (items : Items) (depth : Nat) : Items := ⟨items.count + 1, max items.deepest depth⟩

def depth (items : Items) : Nat :=
  if items.count ≤ 1 then items.deepest else items.deepest + 1

end Items

end PluginHost.Pattern
