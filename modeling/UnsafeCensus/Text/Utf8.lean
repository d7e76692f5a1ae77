/-
**UTF-8, decoded one byte at a time.**

A decoder is either at a character boundary or inside a character that still owes bytes. A byte that
does not fit ends the character begun before it, which was malformed, and is then read again as a first
byte; so each malformed piece is a longest prefix of something well formed.

* `step`: the pieces a byte completes and the state after it;
* `pieces`: the pieces of a whole text, the unfinished one included;
* `decode`: the text in characters, one replacement character for each malformed piece;
* `decode?`: the text in characters, or the first malformed piece and where it stands;
* `characterCount`: how many characters `decode` gives, counted without building them;
* `encode?`: the bytes of code points, or the first of them that are no characters.
-/

import UnsafeCensus.Text.Quoted

namespace UnsafeCensus.Utf8

/-- Why a piece of bytes is not a character. -/
inductive Malformation where
  /-- The first byte begins no character. -/
  | badStart
  /-- A later byte does not fit. -/
  | badContinuation
  /-- The text ends inside the character. -/
  | cutShort
  deriving DecidableEq, Repr

/-- A character that still owes bytes. -/
structure Pending where
  /-- How many bytes are still owed. -/
  owed : Nat
  /-- The least value of the next byte. -/
  least : UInt8
  /-- The greatest value of the next byte. -/
  greatest : UInt8
  /-- The bits of the code point read so far. -/
  bits : Nat
  /-- How many bytes have been read. -/
  taken : Nat
  deriving DecidableEq, Repr

/-- Where the decoder stands between two bytes. -/
inductive State where
  /-- Between two characters. -/
  | boundary
  /-- Inside a character. -/
  | inside (pending : Pending)
  deriving DecidableEq, Repr

/-- What the decoder has completed: a character or a malformed run of bytes. -/
inductive Piece where
  | scalar (character : Char)
  | malformed (taken : Nat) (reason : Malformation)
  deriving DecidableEq, Repr

namespace Piece

/-- How many bytes a piece is made of. -/
def size : Piece → Nat
  | scalar character => character.utf8Size
  | malformed taken _ => taken

/-- The character that stands for a piece. -/
def character : Piece → Char
  | scalar character => character
  | malformed _ _ => '\uFFFD'

end Piece

/-- A character of two or more bytes after its first byte, if the byte begins one. -/
def lead? (byte : UInt8) : Option Pending :=
  let value := byte.toNat
  if 0xC2 ≤ value ∧ value ≤ 0xDF then some ⟨1, 0x80, 0xBF, value - 0xC0, 1⟩
  else if value = 0xE0 then some ⟨2, 0xA0, 0xBF, 0, 1⟩
  else if value = 0xED then some ⟨2, 0x80, 0x9F, 0xD, 1⟩
  else if 0xE1 ≤ value ∧ value ≤ 0xEF then some ⟨2, 0x80, 0xBF, value - 0xE0, 1⟩
  else if value = 0xF0 then some ⟨3, 0x90, 0xBF, 0, 1⟩
  else if 0xF1 ≤ value ∧ value ≤ 0xF3 then some ⟨3, 0x80, 0xBF, value - 0xF0, 1⟩
  else if value = 0xF4 then some ⟨3, 0x80, 0x8F, 4, 1⟩
  else none

/-- The pieces that a first byte completes, and the state after it. -/
def begin (byte : UInt8) : List Piece × State :=
  if byte < 0x80 then ([.scalar (Char.ofNat byte.toNat)], .boundary)
  else match lead? byte with
    | some pending => ([], .inside pending)
    | none => ([.malformed 1 .badStart], .boundary)

/-- The pieces that a byte completes, and the state after it. -/
def step : State → UInt8 → List Piece × State
  | .boundary, byte => begin byte
  | .inside pending, byte =>
    if pending.least ≤ byte ∧ byte ≤ pending.greatest then
      let bits := pending.bits * 64 + (byte.toNat - 0x80)
      if pending.owed ≤ 1 then ([.scalar (Char.ofNat bits)], .boundary)
      else ([], .inside ⟨pending.owed - 1, 0x80, 0xBF, bits, pending.taken + 1⟩)
    else
      let (completed, state) := begin byte
      (.malformed pending.taken .badContinuation :: completed, state)

/-- The piece that the end of the text leaves unfinished. -/
def finish : State → List Piece
  | .boundary => []
  | .inside pending => [.malformed pending.taken .cutShort]

/-- The pieces of a text read from a state on. -/
def piecesFrom (state : State) : List UInt8 → List Piece
  | [] => finish state
  | byte :: rest => (step state byte).1 ++ piecesFrom (step state byte).2 rest

/-- The pieces of a text. -/
def pieces (bytes : List UInt8) : List Piece :=
  piecesFrom .boundary bytes

/-- The characters of a text, one replacement character for each malformed piece. -/
def decode (bytes : List UInt8) : List Char :=
  (pieces bytes).map Piece.character

/-- A malformed piece and where it stands. -/
structure Fault where
  /-- The offset of its first byte. -/
  offset : Nat
  /-- How many bytes it is made of. -/
  taken : Nat
  /-- Its first byte. -/
  first : UInt8
  reason : Malformation
  deriving DecidableEq, Repr

/-- The characters of the pieces, or the first malformed one, for pieces that begin at an offset. -/
def wellFormed? (bytes : List UInt8) (offset : Nat) : List Piece → Except Fault (List Char)
  | [] => .ok []
  | .scalar character :: rest =>
    (wellFormed? (bytes.drop character.utf8Size) (offset + character.utf8Size) rest).map
      (character :: ·)
  | .malformed taken reason :: _ => .error ⟨offset, taken, bytes.headD 0, reason⟩

/-- The characters of a well formed text, or its first malformed piece. -/
def decode? (bytes : List UInt8) : Except Fault (List Char) :=
  wellFormed? bytes 0 (pieces bytes)

/-- How many pieces a text read from a state on has, added to a count. -/
def countFrom (count : Nat) (state : State) : List UInt8 → Nat
  | [] => count + (finish state).length
  | byte :: rest => countFrom (count + (step state byte).1.length) (step state byte).2 rest

/-- How many characters a text has. -/
def characterCount (bytes : List UInt8) : Nat :=
  countFrom 0 .boundary bytes

/-- Counting from a state on counts the pieces from that state on. -/
theorem countFrom_eq (bytes : List UInt8) (count : Nat) (state : State) :
    countFrom count state bytes = count + (piecesFrom state bytes).length := by
  induction bytes generalizing count state with
  | nil => rfl
  | cons byte rest hypothesis =>
    simp only [countFrom, piecesFrom, hypothesis, List.length_append]
    omega

/-- The count of characters is the length of the decoded text. -/
theorem characterCount_eq (bytes : List UInt8) :
    characterCount bytes = (decode bytes).length := by
  simp [characterCount, countFrom_eq, decode, pieces]

/-- The words for a kind of malformation. -/
def Malformation.message : Malformation → String
  | .badStart => "invalid start byte"
  | .badContinuation => "invalid continuation byte"
  | .cutShort => "unexpected end of data"

/-- A byte as two digits of base sixteen. -/
def hexByte (byte : UInt8) : String :=
  let digit (value : Nat) : Char := (Nat.digitChar value)
  String.ofList [digit (byte.toNat / 16), digit (byte.toNat % 16)]

/-- The text of a fault: one byte is shown with its value, several with their offsets. -/
def Fault.message (fault : Fault) : String :=
  if fault.taken = 1 then
    "'utf-8' codec can't decode byte 0x" ++ hexByte fault.first ++ " in position "
      ++ toString fault.offset ++ ": " ++ fault.reason.message
  else
    "'utf-8' codec can't decode bytes in position " ++ toString fault.offset ++ "-"
      ++ toString (fault.offset + fault.taken - 1) ++ ": " ++ fault.reason.message

/-! ### Code points that are no characters -/

/-- Code points in a row that are no characters, and so have no bytes. -/
structure Unencodable where
  /-- How many code points stand before them. -/
  offset : Nat
  /-- How many they are. -/
  count : Nat
  /-- The first of them. -/
  first : Nat
  deriving DecidableEq, Repr

/-- Whether a code point is that of a character. -/
def isCharacter (point : Nat) : Bool :=
  point.isValidChar

/-- The bytes of some code points, or the first of them that are no characters. -/
def encode? (points : List Nat) : Except Unencodable ByteArray :=
  match points.dropWhile isCharacter with
  | [] => .ok (String.ofList (points.map Char.ofNat)).toUTF8
  | first :: rest =>
    .error
      { offset := (points.takeWhile isCharacter).length
        count := (rest.takeWhile fun point => !isCharacter point).length + 1
        first }

/-- The text of code points that have no bytes: one is shown, several are told by their offsets. -/
def Unencodable.message (fault : Unencodable) : String :=
  if fault.count = 1 then
    "'utf-8' codec can't encode character " ++ Quoted.quotedPoints [fault.first] ++ " in position "
      ++ toString fault.offset ++ ": surrogates not allowed"
  else
    "'utf-8' codec can't encode characters in position " ++ toString fault.offset ++ "-"
      ++ toString (fault.offset + fault.count - 1) ++ ": surrogates not allowed"

end UnsafeCensus.Utf8
