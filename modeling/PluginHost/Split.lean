/-!
# Splitting

Cutting a list at a separator.
-/

namespace PluginHost

/-- The pieces between separators: one more than there are separators. -/
def split {α : Type} [DecidableEq α] (separator : α) (items : List α) : List (List α) :=
  let cut := items.foldr
    (fun item (cut : List α × List (List α)) =>
      if item = separator then ([], cut.1 :: cut.2) else (item :: cut.1, cut.2))
    ([], [])
  cut.1 :: cut.2

end PluginHost
