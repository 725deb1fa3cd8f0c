import PluginHost.Text.Utf8

/-!
# Terminal text

Text for a terminal, with control sequences that set its style, and what is left of it when these
sequences and all controls other than white space are taken out. A text that is at hand as a whole
and a text that is passed on as it is written are read alike, but for one thing: white space inside
a sequence is shown in both, and ends the sequence only in the first.
-/

namespace PluginHost.Text.Terminal

/-- Bold text, and then no style. -/
def bold (text : String) : String := "\x1b[1m" ++ text ++ "\x1b[0m"

/-- Where the reader of a text stands: outside of sequences, after an escape character, after a
further character of an escape sequence, inside a control sequence, inside an operating system
command, in one of three places of the head of a device control string, or inside another string. -/
inductive Mode where
  | plain
  | escape
  | intermediate
  | control
  | command
  | deviceHead
  | deviceParameters
  | deviceIntermediate
  | string
  deriving DecidableEq, Repr

/-- Controls that are shown: tab, line feed, form feed and carriage return. -/
def isShownControl (char : Char) : Bool :=
  char = '\t' || char = '\n' || char = '\x0c' || char = '\r'

/-- The byte that ends a string. -/
def stringEnd : UInt8 := 0x9C

/-- A string ends also inside of a character that has the ending byte in its encoding. -/
def endsString (char : Char) : Bool := (Utf8.encodeChar char).contains stringEnd

/-- The mode after a character of ASCII that is no control. -/
def Mode.afterPrinting (mode : Mode) (char : Char) : Mode :=
  let code := char.toNat
  match mode with
  | .escape =>
      if char = '[' then .control
      else if char = ']' then .command
      else if char = 'P' then .deviceHead
      else if char = 'X' || char = '^' || char = '_' then .string
      else if code < 0x30 then .intermediate
      else .plain
  | .intermediate => if code < 0x30 then .intermediate else .plain
  | .control => if code < 0x40 then .control else .plain
  | .deviceHead =>
      if code < 0x30 then .deviceIntermediate
      else if code < 0x40 then .deviceParameters
      else .string
  | .deviceParameters =>
      if code < 0x30 then .deviceIntermediate
      else if code < 0x3C then .deviceParameters
      else .string
  | .deviceIntermediate => if code < 0x30 then .deviceIntermediate else .string
  | .plain | .command | .string => mode

/-- White space is shown in these modes, and other controls of ASCII change nothing. -/
def Mode.executes : Mode → Bool
  | .plain | .escape | .intermediate | .control => true
  | _ => false

/-- The mode after a character, and whether the character is shown. -/
def Mode.next (mode : Mode) (char : Char) : Mode × Bool :=
  if char = '\x1b' then (.escape, false)
  else if char = '\x18' || char = '\x1a' then (.plain, false)
  else if char = '\x7f' then (mode, false)
  else if char.toNat < 0x20 then
    if mode = .command && char = '\x07' then (.plain, false)
    else (mode, mode.executes && isShownControl char)
  else if char.toNat < 0x80 then (mode.afterPrinting char, mode = .plain)
  else if mode = .string && endsString char then (.plain, false)
  else (mode, mode = .plain)

/-- The characters of a whole text that are shown. -/
def visible : Mode → List Char → List Char
  | _, [] => []
  | mode, char :: rest =>
      match mode.next char with
      | (_, true) => char :: visible .plain rest
      | (mode, false) => visible mode rest

/-- The characters of a text under way that are shown. After one that is shown, the next is read as
plain; a sequence that it interrupted goes on at the first character that is not shown then. A
character beyond ASCII ends the sequence. -/
def visibleUnderway : Mode → Bool → List Char → List Char
  | _, _, [] => []
  | mode, afterShown, char :: rest =>
      if afterShown && (Mode.plain.next char).2 then
        char :: visibleUnderway (if char.toNat < 0x80 then mode else .plain) true rest
      else
        match mode.next char with
        | (mode, true) => char :: visibleUnderway mode true rest
        | (mode, false) => visibleUnderway mode false rest

/-- What is shown of a whole text. -/
def strip (text : String) : String := String.ofList (visible .plain text.toList)

/-- What is shown of a text that is passed on as it is written. -/
def stripUnderway (text : String) : String :=
  String.ofList (visibleUnderway .plain false text.toList)

end PluginHost.Text.Terminal
