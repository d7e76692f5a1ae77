/-
**Reading a JSON document.**

The reader goes through the characters with the offset of the next one, so that every refusal says where
it happened. It also takes the words `NaN`, `Infinity` and `-Infinity`. An integer may have any number of
digits or only up to a bound, and so may lists and objects that stand inside each other.

* `Problem`, `Fault`: why a document is refused and where;
* `Fault.message`: the refusal with its line, column and offset;
* `Limits`: the bounds of a reader;
* `readText`, `readNumber`, `readValue`: a text after its opening quote, a number, a value;
* `readWithin`: a whole document within some bounds;
* `read`: a whole document whose integers have 4300 digits at most.
-/

import UnsafeCensus.Json.Value

namespace UnsafeCensus.Json

/-- What holds other values. -/
inductive Container where
  | list
  | object
  deriving DecidableEq, Repr

/-- The word for what holds other values. -/
def Container.name : Container → String
  | list => "array"
  | object => "object"

/-- Why a document is refused. -/
inductive Problem where
  | expectingValue
  | expectingName
  | expectingColon
  | expectingComma
  | extraData
  | unterminatedText
  | controlCharacter
  | badEscape
  | badUnicodeEscape
  | byteOrderMark
  /-- An integer has too many digits, which is not a fault of the document's form. -/
  | tooManyDigits (count : Nat)
  /-- A list or an object stands in too many others, which is no fault of the form either. -/
  | tooDeep (container : Container)
  deriving DecidableEq, Repr

/-- The words for a problem. -/
def Problem.message : Problem → String
  | expectingValue => "Expecting value"
  | expectingName => "Expecting property name enclosed in double quotes"
  | expectingColon => "Expecting ':' delimiter"
  | expectingComma => "Expecting ',' delimiter"
  | extraData => "Extra data"
  | unterminatedText => "Unterminated string starting at"
  | controlCharacter => "Invalid control character at"
  | badEscape => "Invalid \\escape"
  | badUnicodeEscape => "Invalid \\uXXXX escape"
  | byteOrderMark => "Unexpected UTF-8 BOM (decode using utf-8-sig)"
  | tooManyDigits count =>
    "Exceeds the limit (4300 digits) for integer string conversion: value has " ++ toString count
      ++ " digits; use sys.set_int_max_str_digits() to increase the limit"
  | tooDeep container =>
    "maximum recursion depth exceeded while decoding a JSON " ++ container.name
      ++ " from a unicode string"

/-- A problem and the offset of the character it stands at. -/
structure Fault where
  problem : Problem
  offset : Nat
  deriving DecidableEq, Repr

/-- A refusal as it is told, with the line and the column of its place. -/
def Fault.message (fault : Fault) (letters : List Char) : String :=
  let before := letters.take fault.offset
  let line := before.count '\n' + 1
  let column := (before.reverse.takeWhile (· != '\n')).length + 1
  fault.problem.message ++ ": line " ++ toString line ++ " column " ++ toString column
    ++ " (char " ++ toString fault.offset ++ ")"

/-- The usual greatest count of digits of an integer. -/
def mostIntegerDigits : Nat := 4300

/-- How many digits an integer may have, and how many lists and objects may stand inside each other; there is
no bound where none is said. -/
structure Limits where
  digits : Option Nat := none
  nesting : Option Nat := none
  deriving DecidableEq, Repr

/-- The limits inside one more list or object, if there may be one more. -/
def Limits.inside? (limits : Limits) : Option Limits :=
  match limits.nesting with
  | none => some limits
  | some 0 => none
  | some (room + 1) => some { limits with nesting := some room }

/-- Whether a count of digits is above a bound; without a bound none is. -/
def isAbove (most : Option Nat) (count : Nat) : Bool :=
  most.any (· < count)

/-- What is left of a document, and the offset of its first character. -/
structure Rest where
  letters : List Char
  offset : Nat

/-- What is left after some characters more. -/
def Rest.skip (rest : Rest) (count : Nat) : Rest :=
  ⟨rest.letters.drop count, rest.offset + count⟩

/-- A refusal at what is left. -/
def Rest.refuse {α : Type} (rest : Rest) (problem : Problem) : Except Fault α :=
  .error ⟨problem, rest.offset⟩

/-- Whether a character is a blank of a document. -/
def isBlank (letter : Char) : Bool :=
  letter == ' ' || letter == '\t' || letter == '\n' || letter == '\r'

/-- What is left after blanks. -/
def Rest.skipBlanks (rest : Rest) : Rest :=
  rest.skip (rest.letters.takeWhile isBlank).length

/-- The value of a digit of base sixteen. -/
def hexValue? (letter : Char) : Option Nat :=
  if letter.isDigit then some (letter.toNat - '0'.toNat)
  else if 'a' ≤ letter ∧ letter ≤ 'f' then some (letter.toNat - 'a'.toNat + 10)
  else if 'A' ≤ letter ∧ letter ≤ 'F' then some (letter.toNat - 'A'.toNat + 10)
  else none

/-- The number that some digits of base sixteen write. -/
def hexNumber? (digits : List Char) : Option Nat :=
  digits.foldl (fun total digit => do return 16 * (← total) + (← hexValue? digit)) (some 0)

/-- The character that an escape of one letter stands for. -/
def escaped? : Char → Option Nat
  | '"' => some 0x22
  | '\\' => some 0x5C
  | '/' => some 0x2F
  | 'b' => some 0x08
  | 'f' => some 0x0C
  | 'n' => some 0x0A
  | 'r' => some 0x0D
  | 't' => some 0x09
  | _ => none

/-- Whether a code point is the first half of a pair. -/
def isHighSurrogate (point : Nat) : Bool :=
  0xD800 ≤ point && point ≤ 0xDBFF

/-- Whether a code point is the second half of a pair. -/
def isLowSurrogate (point : Nat) : Bool :=
  0xDC00 ≤ point && point ≤ 0xDFFF

/-- The code point that a pair stands for. -/
def joinSurrogates (high low : Nat) : Nat :=
  0x10000 + (high - 0xD800) * 0x400 + (low - 0xDC00)

/-- The code point of four digits after the letter of an escape, which stands at `mark`; one more
character has to follow them. -/
def fourDigits (mark : Rest) : Except Fault Nat :=
  let after := mark.letters.drop 1
  if after.length < 5 then mark.refuse .badUnicodeEscape
  else match hexNumber? (after.take 4) with
    | some point => .ok point
    | none => mark.refuse .badUnicodeEscape

/-- The code point of an escape whose letter stands at `mark`, and how many characters it takes. A
second escape is joined to it when the two make a pair and something follows them. -/
def unicodeEscape (mark : Rest) : Except Fault (Nat × Nat) := do
  let point ← fourDigits mark
  let next := mark.skip 5
  if isHighSurrogate point && 6 < next.letters.length && next.letters.take 2 == ['\\', 'u'] then
    let second := next.skip 1
    match hexNumber? ((second.letters.drop 1).take 4) with
    | none => second.refuse .badUnicodeEscape
    | some low =>
      if isLowSurrogate low then return (joinSurrogates point low, 11) else return (point, 5)
  else return (point, 5)

/-- The code points of a text up to its closing quote. The text begins at `opening`; `fuel` is at
least the number of characters left. -/
def readText (opening : Nat) : Nat → Rest → Except Fault (Text × Rest)
  | 0, _ => .error ⟨.unterminatedText, opening⟩
  | fuel + 1, rest =>
    match rest.letters with
    | [] => .error ⟨.unterminatedText, opening⟩
    | '"' :: _ => .ok ([], rest.skip 1)
    | '\\' :: letter :: _ =>
      if letter == 'u' then do
        let (point, taken) ← unicodeEscape (rest.skip 1)
        let (points, after) ← readText opening fuel (rest.skip (1 + taken))
        return (point :: points, after)
      else match escaped? letter with
        | some point => do
          let (points, after) ← readText opening fuel (rest.skip 2)
          return (point :: points, after)
        | none => rest.refuse .badEscape
    | ['\\'] => .error ⟨.unterminatedText, opening⟩
    | letter :: _ =>
      if letter.toNat ≤ 0x1F then rest.refuse .controlCharacter
      else do
        let (points, after) ← readText opening fuel (rest.skip 1)
        return (letter.toNat :: points, after)

/-- The number that digits of base ten write. -/
def decimalNumber (digits : List Char) : Nat :=
  digits.foldl (fun total digit => 10 * total + (digit.toNat - '0'.toNat)) 0

/-- The digits in front; nothing follows a zero. -/
def wholeDigits : List Char → List Char
  | '0' :: _ => ['0']
  | letters => letters.takeWhile Char.isDigit

/-- The digits after a point, if a point with a digit after it comes first. -/
def fractionDigits : List Char → List Char
  | '.' :: rest => rest.takeWhile Char.isDigit
  | _ => []

/-- The sign and the digits of an exponent, and how many characters it takes with its mark; an
exponent without a digit takes none. -/
def exponentDigits : List Char → Bool × List Char × Nat
  | mark :: rest =>
    if mark == 'e' || mark == 'E' then
      let (negative, signs) := match rest with
        | '-' :: _ => (true, 1)
        | '+' :: _ => (false, 1)
        | _ => (false, 0)
      let digits := (rest.drop signs).takeWhile Char.isDigit
      if digits.isEmpty then (false, [], 0) else (negative, digits, 1 + signs + digits.length)
    else (false, [], 0)
  | [] => (false, [], 0)

/-- A number: an integer unless it has a fraction or an exponent. -/
def readNumber (most : Option Nat) (rest : Rest) : Except Fault (Value × Rest) :=
  let negative := rest.letters.head? == some '-'
  let signs := if negative then 1 else 0
  let unsigned := rest.letters.drop signs
  let whole := wholeDigits unsigned
  let afterWhole := unsigned.drop whole.length
  let fraction := fractionDigits afterWhole
  let pointed := if fraction.isEmpty then 0 else fraction.length + 1
  let (exponentNegative, exponent, exponentTaken) := exponentDigits (afterWhole.drop pointed)
  let after := rest.skip (signs + whole.length + pointed + exponentTaken)
  if whole.isEmpty then rest.refuse .expectingValue
  else if fraction.isEmpty && exponent.isEmpty then
    if isAbove most whole.length then rest.refuse (.tooManyDigits whole.length)
    else
      let size : Int := decimalNumber whole
      .ok (.integer (if negative then -size else size), after)
  else
    let power : Int := decimalNumber exponent
    let power := if exponentNegative then -power else power
    .ok (.real (.ofDecimal negative (decimalNumber (whole ++ fraction)) (power - fraction.length)),
      after)

/-- The words of a document and their values. -/
def words : List (String × Value) :=
  [("null", .null), ("true", .boolean true), ("false", .boolean false), ("NaN", .real .nan),
   ("Infinity", .real (.infinite false)), ("-Infinity", .real (.infinite true))]

/-- The word that comes first, if one does. -/
def word? (letters : List Char) : Option (String × Value) :=
  words.find? fun (word, _) => word.toList.isPrefixOf letters

mutual

/-- A value; `fuel` is at least twice the number of characters left. -/
def readValue (limits : Limits) : Nat → Rest → Except Fault (Value × Rest)
  | 0, rest => rest.refuse .expectingValue
  | fuel + 1, rest =>
    match rest.letters with
    | '"' :: _ => do
      let (points, after) ← readText rest.offset (rest.letters.length + 1) (rest.skip 1)
      return (.text points, after)
    | '[' :: _ =>
      match limits.inside? with
      | none => rest.refuse (.tooDeep .list)
      | some inner =>
        let inside := (rest.skip 1).skipBlanks
        if inside.letters.head? == some ']' then .ok (.list [], inside.skip 1)
        else do
          let (items, after) ← readItems inner fuel inside
          return (.list items, after)
    | '\x7b' :: _ =>
      match limits.inside? with
      | none => rest.refuse (.tooDeep .object)
      | some inner =>
        let inside := (rest.skip 1).skipBlanks
        if inside.letters.head? == some '\x7d' then .ok (.object [], inside.skip 1)
        else do
          let (members, after) ← readMembers inner fuel [] inside
          return (.object members, after)
    | letters =>
      match word? letters with
      | some (word, value) => .ok (value, rest.skip word.length)
      | none => readNumber limits.digits rest

/-- The items of a list up to its closing bracket. -/
def readItems (limits : Limits) : Nat → Rest → Except Fault (List Value × Rest)
  | 0, rest => rest.refuse .expectingValue
  | fuel + 1, rest => do
    let (item, after) ← readValue limits fuel rest
    let after := after.skipBlanks
    match after.letters with
    | ']' :: _ => return ([item], after.skip 1)
    | ',' :: _ =>
      let (items, closed) ← readItems limits fuel (after.skip 1).skipBlanks
      return (item :: items, closed)
    | _ => after.refuse .expectingComma

/-- The members of an object up to its closing brace, after those already read. -/
def readMembers (limits : Limits) :
    Nat → List (Text × Value) → Rest → Except Fault (List (Text × Value) × Rest)
  | 0, _, rest => rest.refuse .expectingName
  | fuel + 1, members, rest =>
    match rest.letters with
    | '"' :: _ => do
      let (name, after) ← readText rest.offset (rest.letters.length + 1) (rest.skip 1)
      let after := after.skipBlanks
      match after.letters with
      | ':' :: _ =>
        let (value, after) ← readValue limits fuel (after.skip 1).skipBlanks
        let after := after.skipBlanks
        let members := set members name value
        match after.letters with
        | '\x7d' :: _ => return (members, after.skip 1)
        | ',' :: _ => readMembers limits fuel members (after.skip 1).skipBlanks
        | _ => after.refuse .expectingComma
      | _ => after.refuse .expectingColon
    | _ => rest.refuse .expectingName

end

/-- The value of a whole document within some limits. -/
def readWithin (limits : Limits) (letters : List Char) : Except Fault Value := do
  if letters.head? == some '\uFEFF' then .error ⟨.byteOrderMark, 0⟩
  else
    let (value, after) ← readValue limits (2 * letters.length + 2) (Rest.mk letters 0).skipBlanks
    let after := after.skipBlanks
    if after.letters.isEmpty then return value else after.refuse .extraData

/-- The value of a whole document. A list or an object may stand in as many others as `nesting` says, or in
any number of them. -/
def read (nesting : Option Nat) (letters : List Char) : Except Fault Value :=
  readWithin ⟨some mostIntegerDigits, nesting.map (· + 1)⟩ letters

end UnsafeCensus.Json
