import PluginHost.Bytes

/-!
# UTF-8

The encoding of text and its reading back. Reading cuts any byte string into scalars and malformed
parts; a malformed part is as long as some scalar could still have begun with it, and at least one
byte. Strict reading reports the first such part, lossy reading replaces each by U+FFFD.
-/

namespace PluginHost.Text.Utf8

def encodeChar (char : Char) : Bytes :=
  let code := char.toNat
  if code < 0x80 then [code.toUInt8]
  else if code < 0x800 then [(0xC0 + code / 0x40).toUInt8, (0x80 + code % 0x40).toUInt8]
  else if code < 0x10000 then
    [(0xE0 + code / 0x1000).toUInt8, (0x80 + code / 0x40 % 0x40).toUInt8,
      (0x80 + code % 0x40).toUInt8]
  else
    [(0xF0 + code / 0x40000).toUInt8, (0x80 + code / 0x1000 % 0x40).toUInt8,
      (0x80 + code / 0x40 % 0x40).toUInt8, (0x80 + code % 0x40).toUInt8]

def encode (text : String) : Bytes := text.toList.flatMap encodeChar

/-- A sequence read in part: its bytes, the value they carry, the bounds of the byte that may come
next, and the number of bytes due after that one. -/
structure Partial where
  bytes : Bytes
  value : Nat
  low : UInt8
  high : UInt8
  later : Nat

inductive Piece where
  | scalar (char : Char)
  | malformed (bytes : Bytes)

/-- What has been read: finished pieces, last first, and the sequence under way. -/
structure Reading where
  pieces : List Piece
  underway : Option Partial

/-- Take a byte with no sequence under way. The bounds exclude overlong forms, surrogates and values
above U+10FFFF. -/
def begin (pieces : List Piece) (byte : UInt8) : Reading :=
  let start (value : Nat) (low high : UInt8) (later : Nat) : Reading :=
    ⟨pieces, some ⟨[byte], value, low, high, later⟩⟩
  if byte < 0x80 then ⟨.scalar (Char.ofNat byte.toNat) :: pieces, none⟩
  else if byte < 0xC2 then ⟨.malformed [byte] :: pieces, none⟩
  else if byte < 0xE0 then start (byte.toNat - 0xC0) 0x80 0xBF 0
  else if byte = 0xE0 then start 0x0 0xA0 0xBF 1
  else if byte = 0xED then start 0xD 0x80 0x9F 1
  else if byte < 0xF0 then start (byte.toNat - 0xE0) 0x80 0xBF 1
  else if byte = 0xF0 then start 0 0x90 0xBF 2
  else if byte < 0xF4 then start (byte.toNat - 0xF0) 0x80 0xBF 2
  else if byte = 0xF4 then start 4 0x80 0x8F 2
  else ⟨.malformed [byte] :: pieces, none⟩

def next (reading : Reading) (byte : UInt8) : Reading :=
  match reading.underway with
  | none => begin reading.pieces byte
  | some sequence =>
      if sequence.low ≤ byte ∧ byte ≤ sequence.high then
        let value := sequence.value * 0x40 + (byte.toNat - 0x80)
        match sequence.later with
        | 0 => ⟨.scalar (Char.ofNat value) :: reading.pieces, none⟩
        | later + 1 =>
            ⟨reading.pieces, some ⟨sequence.bytes ++ [byte], value, 0x80, 0xBF, later⟩⟩
      else begin (.malformed sequence.bytes :: reading.pieces) byte

def read (bytes : Bytes) : Reading := bytes.foldl next ⟨[], none⟩

/-- Why bytes are not UTF-8. The index is the length of the longest valid prefix. -/
inductive Fault where
  /-- The given number of bytes begin no scalar. -/
  | invalid (index length : Nat)
  /-- The bytes end inside a sequence that could still be completed. -/
  | incomplete (index : Nat)
  deriving DecidableEq, Repr

def Fault.message : Fault → String
  | invalid index length => s!"invalid utf-8 sequence of {length} bytes from index {index}"
  | incomplete index => s!"incomplete utf-8 byte sequence from index {index}"

/-- The characters of the pieces, or the first fault; `done` holds the characters already passed,
last first, and `index` the number of bytes they take. -/
def decodePieces (underway : Option Partial) :
    List Piece → List Char → Nat → Except Fault (List Char)
  | [], done, index =>
      match underway with
      | none => .ok done.reverse
      | some _ => .error (.incomplete index)
  | .scalar char :: rest, done, index =>
      decodePieces underway rest (char :: done) (index + (encodeChar char).length)
  | .malformed bytes :: _, _, index => .error (.invalid index bytes.length)

def decode (bytes : Bytes) : Except Fault String :=
  let reading := read bytes
  (decodePieces reading.underway reading.pieces.reverse [] 0).map String.ofList

def decode? (bytes : Bytes) : Option String := (decode bytes).toOption

def replacement : Char := '\uFFFD'

def Piece.shown : Piece → Char
  | scalar char => char
  | malformed _ => replacement

/-- The text with every malformed part replaced by U+FFFD. -/
def lossy (bytes : Bytes) : String :=
  let reading := read bytes
  let tail := if reading.underway.isSome then [replacement] else []
  String.ofList (reading.pieces.reverse.map Piece.shown ++ tail)

end PluginHost.Text.Utf8
