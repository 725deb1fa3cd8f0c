import PluginHost.Bytes
import PluginHost.Split

/-!
# Tokens in paths

A path to a library may hold tokens: a dollar sign and a name, which stand for a part of a path that
the machine knows. The name may stand in braces; without them it ends where no letter, digit or low
line goes on. What is no token stays as it is.
-/

namespace PluginHost.Library

/-- Names of tokens, each with what it stands for. -/
abbrev Tokens := List (Bytes × Bytes)

namespace Token

def dollar : UInt8 := 36

def openBrace : UInt8 := 123

def closeBrace : UInt8 := 125

def lowLine : UInt8 := 95

/-- Whether a name goes on with a byte: a letter or a digit of ASCII, or a low line. -/
def isNameByte (byte : UInt8) : Bool :=
  (48 ≤ byte && byte ≤ 57) || (65 ≤ byte && byte ≤ 90) || (97 ≤ byte && byte ≤ 122) ||
    byte = lowLine

/-- What follows a name after a dollar sign, if the name is there. -/
def rest? (name piece : Bytes) : Option Bytes :=
  if piece.head? = some openBrace then (name ++ [closeBrace]).isPrefixOf? piece.tail
  else (name.isPrefixOf? piece).filter fun rest => !rest.head?.any isNameByte

/-- What a dollar sign and the bytes after it stand for. -/
def expandPiece (tokens : Tokens) (piece : Bytes) : Bytes :=
  (tokens.findSome? fun token => (rest? token.1 piece).map (token.2 ++ ·)).getD (dollar :: piece)

/-- A path with every token in it replaced. -/
def expand (tokens : Tokens) (path : Bytes) : Bytes :=
  match split dollar path with
  | [] => []
  | first :: pieces => first ++ pieces.flatMap (expandPiece tokens)

end Token

end PluginHost.Library
