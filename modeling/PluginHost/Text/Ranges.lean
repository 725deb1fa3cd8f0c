/-!
# Ranges of code points

Sets of characters given by tables.
-/

namespace PluginHost.Text

/-- Membership in a list of increasing, disjoint ranges. -/
def inRanges (code : Nat) : List (Nat × Nat) → Bool
  | [] => false
  | (first, last) :: rest => if code < first then false else code ≤ last || inRanges code rest

end PluginHost.Text
