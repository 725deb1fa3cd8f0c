/-!
# Cutting text by bytes

Parts of a text by the number of bytes that UTF-8 takes for them. No character is cut in two.
-/

namespace PluginHost.Text

/-- The number of bytes of a text. -/
def byteCount (text : List Char) : Nat := text.foldr (fun char count => char.utf8Size + count) 0

/-- The text after its first bytes. -/
def dropBytes? : Nat → List Char → Option (List Char)
  | 0, text => some text
  | _ + 1, [] => none
  | count + 1, char :: rest =>
      if char.utf8Size ≤ count + 1 then dropBytes? (count + 1 - char.utf8Size) rest else none

/-- The first bytes of a text. -/
def takeBytes? : Nat → List Char → Option (List Char)
  | 0, _ => some []
  | _ + 1, [] => none
  | count + 1, char :: rest =>
      if char.utf8Size ≤ count + 1 then
        (takeBytes? (count + 1 - char.utf8Size) rest).map (char :: ·)
      else none

/-- The bytes from `start` on, `count` of them. -/
def sliceBytes? (text : List Char) (start count : Nat) : Option (List Char) :=
  (dropBytes? start text).bind (takeBytes? count)

end PluginHost.Text
