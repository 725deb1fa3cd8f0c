import PluginHost.Pattern.Atom
import PluginHost.Pattern.Nesting

/-!
# Sets of characters in patterns

Sets stand in brackets. They hold characters, ranges, shorthands, named sets and further sets, and
operators that combine what stands on their sides.
-/

namespace PluginHost.Pattern

open PluginHost.Text

/-- A set under way: the depth of what stands before its last operator, and the items after it. -/
structure CharacterSet where
  left : Option Nat
  items : Items
  deriving DecidableEq, Repr

namespace CharacterSet

def empty : CharacterSet := ⟨none, .empty⟩

def add (set : CharacterSet) (depth : Nat) : CharacterSet :=
  { set with items := set.items.add depth }

/-- The depth inside the brackets; an operator is one level above its sides. -/
def depth (set : CharacterSet) : Nat :=
  match set.left with
  | none => set.items.depth
  | some left => max left set.items.depth + 1

/-- The set after an operator. -/
def afterOperator (set : CharacterSet) : CharacterSet := ⟨some set.depth, .empty⟩

def names : List String :=
  ["alnum", "alpha", "ascii", "blank", "cntrl", "digit", "graph", "lower", "print", "punct",
    "space", "upper", "word", "xdigit"]

/-- Read the rest of a named set, which begins with a colon, and tell whether it is negated. -/
def readNamed : List Char → Option (Bool × List Char)
  | ':' :: text =>
      let negated := text.head? = some '^'
      let text := if negated then text.tail else text
      let name := text.takeWhile (· ≠ ':')
      match text.dropWhile (· ≠ ':') with
      | ':' :: ']' :: rest =>
          if names.contains (String.ofList name) then some (negated, rest) else none
      | _ => none
  | _ => none

/-- No set may hold bytes beyond ASCII, as the complement of one within ASCII does. -/
def mayNegate (modes : Modes) : Bool := modes.unicode

/-- Cases of Unicode are not known, so a named set can be used where they count. -/
def isNamedSupported (modes : Modes) (negated : Bool) : Bool :=
  if modes.unicode then !modes.ignoreCase else !negated

/-- The character after a hyphen that tells whether the hyphen makes a range. After a number sign it
is the first of the comment that is no blank. -/
def peek? (modes : Modes) (text : List Char) : Option Char :=
  if !modes.verbose then text.head?
  else
    let found := match text.dropWhile Blank.isBlank with
      | '#' :: rest => rest.dropWhile Blank.isBlank
      | rest => rest
    found.head?.or text.head?

/-- Read a range or a single item, and give what follows it. -/
def readItem (modes : Modes) (text : List Char) : Option (List Char) := do
  let (first, rest) ← Atom.readInSet modes text
  let single := if first.isSupportedInSet modes then some rest else none
  match modes.skip rest with
  | '-' :: after =>
      if peek? modes after = some ']' || peek? modes after = some '-' then single
      else
        let (last, rest) ← Atom.readInSet modes (modes.skip after)
        match first, last with
        | .literal low _, .literal high _ =>
            if low ≤ high && first.isSupportedInSet modes && last.isSupportedInSet modes then
              return rest
            else none
        | _, _ => none
  | _ => single

/-- Hyphens that come first stand for themselves, and so does a bracket that comes first of all. -/
def isLeading (set : CharacterSet) (char : Char) : Bool :=
  char = '-' || (char = ']' && set.items.count = 0)

/-- Read to the end of the outermost set: the depth and what follows. Each step reads at least one
character. -/
def readFrom (modes : Modes) :
    Nat → (atStart : Bool) → CharacterSet → List CharacterSet → List Char →
      Option (Nat × List Char)
  | 0, _, _, _, _ => none
  | steps + 1, atStart, set, outer, text =>
      match modes.skip text with
      | [] => none
      | char :: rest =>
          if atStart && set.isLeading char then
            if (Atom.literal char false).isSupportedInSet modes then
              readFrom modes steps (char = '-') (set.add 0) outer rest
            else none
          else if char = '[' then
            match readNamed rest with
            | some (negated, rest) =>
                if isNamedSupported modes negated then
                  readFrom modes steps false (set.add 0) outer rest
                else none
            | none =>
                match modes.skip rest with
                | '^' :: rest =>
                    if mayNegate modes then readFrom modes steps true empty (set :: outer) rest
                    else none
                | rest => readFrom modes steps true empty (set :: outer) rest
          else if char = ']' then
            match outer with
            | [] => some (set.depth + 1, rest)
            | around :: outer => readFrom modes steps false (around.add (set.depth + 1)) outer rest
          else if (char = '&' || char = '-' || char = '~') && rest.head? = some char then
            readFrom modes steps false set.afterOperator outer rest.tail
          else
            match readItem modes (char :: rest) with
            | some rest => readFrom modes steps false (set.add 0) outer rest
            | none => none

/-- Read a set after its opening bracket. -/
def read (modes : Modes) (text : List Char) : Option (Nat × List Char) :=
  let text := modes.skip text
  match text with
  | '^' :: rest =>
      if mayNegate modes then readFrom modes (rest.length + 1) true empty [] rest else none
  | _ => readFrom modes (text.length + 1) true empty [] text

end CharacterSet

end PluginHost.Pattern
