import PluginHost.Pattern.CharacterSet
import PluginHost.Text.Alphanumeric

/-!
# Patterns

A pattern can be compiled if it is well formed, all its parts can be used, and they do not lie too
deep in each other. A pattern stands in braces, so it holds no closing brace; whatever would have to
be closed by one is malformed.
-/

namespace PluginHost.Pattern

open PluginHost.Text

/-- Alternatives under way: the depth of the finished ones, the items of the present one, and the
depth of its last item if that can be repeated. -/
structure Alternatives where
  finished : Option Nat
  items : Items
  last : Option Nat
  deriving DecidableEq, Repr

namespace Alternatives

def empty : Alternatives := ⟨none, .empty, none⟩

def depth (alternatives : Alternatives) : Nat :=
  match alternatives.finished with
  | none => alternatives.items.depth
  | some finished => max finished alternatives.items.depth + 1

/-- Go on to the next alternative. -/
def next (alternatives : Alternatives) : Alternatives :=
  let depth := alternatives.items.depth
  ⟨some (max (alternatives.finished.getD 0) depth), .empty, none⟩

def add (alternatives : Alternatives) (depth : Nat) : Alternatives :=
  { alternatives with items := alternatives.items.add depth, last := some depth }

/-- Add flags, which cannot be repeated. -/
def addFlags (alternatives : Alternatives) : Alternatives :=
  { alternatives with items := alternatives.items.add 0, last := none }

/-- Repeat the last item; the repetition takes its place. -/
def repeatLast? (alternatives : Alternatives) : Option Alternatives :=
  alternatives.last.map fun depth =>
    let items := alternatives.items
    ⟨alternatives.finished, { items with deepest := max items.deepest (depth + 1) },
      some (depth + 1)⟩

end Alternatives

/-- A group under way: what stands around it, and the modes there. -/
structure Group where
  around : Alternatives
  modes : Modes
  deriving DecidableEq, Repr

/-- What an opening parenthesis begins. -/
inductive Opening where
  /-- Flags that count from there on. -/
  | flags (modes : Modes)
  /-- A group, which may have a name. -/
  | group (modes : Modes) (name : Option (List Char))
  deriving DecidableEq, Repr

namespace Opening

def beginsName (char : Char) : Bool := char = '_' || isAlphabetic char

def continuesName (char : Char) : Bool :=
  ['_', '.', '[', ']'].contains char || isAlphanumeric char

def isName : List Char → Bool
  | [] => false
  | first :: rest => beginsName first && rest.all continuesName

/-- Read the name of a group and the bracket behind it. -/
def readName (modes : Modes) (text : List Char) : Option (Opening × List Char) :=
  let name := text.takeWhile (· ≠ '>')
  match text.dropWhile (· ≠ '>') with
  | _ :: rest => if isName name then some (.group modes (some name), rest) else none
  | [] => none

/-- Read flags, which stand alone or are those of a group. -/
def readFlags (modes : Modes) (text : List Char) : Option (Opening × List Char) :=
  let isEnd (char : Char) : Bool := char = ':' || char = ')'
  let flags := text.takeWhile (!isEnd ·)
  if !Modes.areFlags flags then none
  else
    match text.dropWhile (!isEnd ·) with
    | ':' :: rest => some (.group (modes.withFlags flags) none, rest)
    | ')' :: rest => if flags.isEmpty then none else some (.flags (modes.withFlags flags), rest)
    | _ => none

/-- Read what follows an opening parenthesis. -/
def read (modes : Modes) (text : List Char) : Option (Opening × List Char) :=
  match modes.skip text with
  | '?' :: 'P' :: '<' :: rest => readName modes rest
  | '?' :: '<' :: rest => readName modes rest
  | '?' :: rest => readFlags modes rest
  | text => some (.group modes none, text)

end Opening

/-- The depth of a pattern whose rest is `text`, if it is well formed and can be used. No two groups
have one name. Each step reads at least one character. -/
def readFrom :
    Nat → Modes → (names : List (List Char)) → List Group → Alternatives → List Char → Option Nat
  | 0, _, _, _, _, _ => none
  | steps + 1, modes, names, outer, here, text =>
      match modes.skip text with
      | [] => if outer.isEmpty then some here.depth else none
      | char :: rest =>
          match char with
          | '(' => do
              match ← Opening.read modes rest with
              | (.flags modes, rest) => readFrom steps modes names outer here.addFlags rest
              | (.group inner name, rest) =>
                  if name.any names.contains then none
                  else
                    readFrom steps inner (name.toList ++ names) (⟨here, modes⟩ :: outer) .empty
                      rest
          | ')' =>
              match outer with
              | [] => none
              | group :: outer =>
                  readFrom steps group.modes names outer (group.around.add (here.depth + 1)) rest
          | '|' => readFrom steps modes names outer here.next rest
          | '[' => do
              let (depth, rest) ← CharacterSet.read modes rest
              readFrom steps modes names outer (here.add depth) rest
          | '?' | '*' | '+' => do
              let rest := if rest.head? = some '?' then rest.tail else rest
              readFrom steps modes names outer (← here.repeatLast?) rest
          | '{' => none
          | _ => do
              let (atom, rest) ← Atom.read modes (char :: rest)
              if atom.isSupported modes then readFrom steps modes names outer (here.add 0) rest
              else none

/-- The greatest depth of a pattern. -/
def deepest : Nat := 250

/-- Whether a pattern can be compiled. -/
def compiles (text : List Char) : Bool :=
  (readFrom (text.length + 1) .initial [] [] .empty text).any (· ≤ deepest)

end PluginHost.Pattern
