/-
**From bytes to tokens.**

Blanks and comments stand between tokens and are left out. A malformed piece of text is no token outside
of comments and texts. The scanner stops at the first thing that is no token.

* `letterAt?`: the character at an offset and how many bytes it takes;
* `lineCommentEnd`, `blockCommentEnd?`, `gapEnd`: the ends of what is left out;
* `textEnd?`, `rawTextEnd?`, `characterEnd?`, `numberEnd`, `wordEnd?`: the ends of tokens;
* `tokenAt`: the token at an offset;
* `scan`: the tokens of some bytes.
-/

import UnsafeCensus.Grammar.Token
import UnsafeCensus.Text.Identifier
import UnsafeCensus.Text.Utf8

namespace UnsafeCensus.Grammar

/-- The character at an offset and how many bytes it takes; a malformed piece is one character. -/
def letterAt? (data : ByteArray) (offset : Nat) : Option (Char × Nat) :=
  match data[offset]? with
  | none => none
  | some byte =>
    if byte < 0x80 then some (Char.ofNat byte.toNat, 1)
    else
      (Utf8.pieces (data.extract offset (offset + 4)).toList).head?.map fun piece =>
        (piece.character, piece.size)

/-- Whether a byte stands at an offset, given as a character. -/
def isAt (data : ByteArray) (offset : Nat) (letter : Char) : Bool :=
  (data[offset]?.map UInt8.toNat) == some letter.toNat

/-- The offset after the characters of a class, within some number of characters. -/
def skipWhile (data : ByteArray) (keeps : Char → Bool) (offset : Nat) : Nat → Nat
  | 0 => offset
  | left + 1 =>
    match letterAt? data offset with
    | some (letter, width) =>
      if keeps letter then skipWhile data keeps (offset + width) left else offset
    | none => offset

/-- The offset after the characters of a class. -/
def classEnd (data : ByteArray) (keeps : Char → Bool) (offset : Nat) : Nat :=
  skipWhile data keeps offset (data.size - offset)

/-! ### Blanks and comments -/

/-- Whether a character is a blank between tokens. -/
def isGap (letter : Char) : Bool :=
  letter == ' ' || (9 ≤ letter.toNat && letter.toNat ≤ 13)

/-- Whether a comment of one line is a piece of documentation, from the offset after its slashes. -/
def isDocumentation (data : ByteArray) (offset : Nat) : Bool :=
  isAt data offset '!' || (isAt data offset '/' && !isAt data (offset + 1) '/')

/-- The end of a comment of one line, from the offset after its slashes. Outside of documentation a
character of value zero ends it too. -/
def lineCommentEnd (data : ByteArray) (offset : Nat) : Nat :=
  let documentation := isDocumentation data offset
  classEnd data (fun letter => letter != '\n' && (documentation || letter != '\x00')) offset

/-- What the character before means to the scanner of a block comment. -/
inductive BlockState where
  | plain
  | afterSlash
  | afterStar
  deriving DecidableEq, Repr

/-- The scanner of a block comment between two characters. -/
structure BlockProgress where
  state : BlockState
  depth : Nat
  /-- The offset at which the closing of the comment has to stand. -/
  ending : Nat

/-- The progress after a character, told by the low byte of its code point, at an offset. -/
def BlockProgress.step (progress : BlockProgress) (low : Nat) (offset : Nat) : BlockProgress :=
  let next : BlockProgress :=
    match progress.state with
    | .afterSlash =>
      if low = 0x2A then { progress with state := .plain, depth := progress.depth + 1 }
      else { progress with state := .plain }
    | .afterStar =>
      if low = 0x2A then { progress with ending := offset }
      else if low = 0x2F then { progress with state := .plain, depth := progress.depth - 1 }
      else { progress with state := .plain }
    | .plain =>
      let state : BlockState :=
        if low = 0x2F then .afterSlash else if low = 0x2A then .afterStar else .plain
      { progress with state := state, ending := offset }
  if low = 0x2F ∧ next.depth ≠ 0 then { next with ending := offset + 1 } else next

/-- The progress when the comment closes or the text ends. -/
def runBlock (data : ByteArray) (progress : BlockProgress) (offset : Nat) : Nat → BlockProgress
  | 0 => progress
  | left + 1 =>
    if progress.depth = 0 then progress
    else match letterAt? data offset with
      | some (letter, width) =>
        runBlock data (progress.step (letter.toNat % 256) offset) (offset + width) left
      | none => progress

/-- The offset of the closing of a block comment whose contents begin at an offset. -/
def blockClosing (data : ByteArray) (offset : Nat) : Nat :=
  match letterAt? data offset with
  | none => offset
  | some (letter, width) =>
    let low := letter.toNat % 256
    let state : BlockState :=
      if low = 0x2A then .afterStar else if low = 0x2F then .afterSlash else .plain
    if low = 0x2A ∧ isAt data (offset + width) '/' then offset
    else
      (runBlock data ⟨state, 1, offset + width⟩ (offset + width) (data.size + 1 - offset)).ending

/-- Where the contents of a block comment begin, from the offset after its opening: a mark of
documentation is no part of them. -/
def blockContents (data : ByteArray) (offset : Nat) : Nat :=
  if isAt data offset '!' then offset + 1
  else if isAt data offset '*' && !isAt data (offset + 1) '/' && !isAt data (offset + 1) '*' then
    offset + 1
  else offset

/-- The end of a block comment, from the offset after its opening. -/
def blockCommentEnd? (data : ByteArray) (offset : Nat) : Option Nat :=
  let closing := blockClosing data (blockContents data offset)
  if isAt data closing '*' && isAt data (closing + 1) '/' then some (closing + 2) else none

/-- The offset after blanks and comments, within some number of them. A comment that is not closed is
not left out. -/
def skipGaps (data : ByteArray) (offset : Nat) : Nat → Nat
  | 0 => offset
  | left + 1 =>
    let next := classEnd data isGap offset
    if isAt data next '/' && isAt data (next + 1) '/' then
      skipGaps data (lineCommentEnd data (next + 2)) left
    else if isAt data next '/' && isAt data (next + 1) '*' then
      match blockCommentEnd? data (next + 2) with
      | some stop => skipGaps data stop left
      | none => next
    else next

/-- The offset after blanks and comments. -/
def gapEnd (data : ByteArray) (offset : Nat) : Nat :=
  skipGaps data offset (data.size + 1 - offset)

/-! ### Literals and names -/

/-- Whether a character is a digit of base sixteen. -/
def isHexDigit (letter : Char) : Bool :=
  letter.isDigit || ('a' ≤ letter && letter ≤ 'f') || ('A' ≤ letter && letter ≤ 'F')

/-- Whether the bytes from one offset to another are digits of base sixteen. -/
def areHexDigits (data : ByteArray) (start stop : Nat) : Bool :=
  stop ≤ classEnd data isHexDigit start

/-- The end of an escape, from the offset after its backslash. -/
def escapeEnd? (data : ByteArray) (offset : Nat) : Option Nat :=
  match letterAt? data offset with
  | none => none
  | some (letter, width) =>
    if letter == 'x' then
      if areHexDigits data (offset + 1) (offset + 3) then some (offset + 3) else none
    else if letter == 'u' then
      if isAt data (offset + 1) '\x7b' then
        let stop := classEnd data isHexDigit (offset + 2)
        if offset + 2 < stop && isAt data stop '\x7d' then some (stop + 1) else none
      else if areHexDigits data (offset + 1) (offset + 5) then some (offset + 5)
      else none
    else if letter == '\x00' then none
    else some (offset + width)

/-- The end of a text, from an offset within it, within some number of its parts. -/
def runText (data : ByteArray) (offset : Nat) : Nat → Option Nat
  | 0 => none
  | left + 1 =>
    let next := classEnd data (fun letter => letter != '"' && letter != '\\') offset
    if isAt data next '"' then some (next + 1)
    else if isAt data next '\\' then
      match escapeEnd? data (next + 1) with
      | some stop => runText data stop left
      | none => none
    else none

/-- The end of a text, from the offset after its opening quote. -/
def textEnd? (data : ByteArray) (offset : Nat) : Option Nat :=
  runText data offset (data.size + 1 - offset)

/-- The end of a raw text with some number of hashes, from an offset within it, within some number of
quotes. -/
def runRawText (data : ByteArray) (hashes : Nat) (offset : Nat) : Nat → Option Nat
  | 0 => none
  | left + 1 =>
    let quote := classEnd data (· != '"') offset
    if isAt data quote '"' then
      let stop := classEnd data (· == '#') (quote + 1)
      if quote + 1 + hashes ≤ stop then some (quote + 1 + hashes)
      else runRawText data hashes (quote + 1) left
    else none

/-- The number of hashes and the offset after the opening quote, if the letter `r` before an offset
opens a raw text. -/
def rawOpening? (data : ByteArray) (offset : Nat) : Option (Nat × Nat) :=
  let stop := classEnd data (· == '#') offset
  if isAt data stop '"' then some (stop - offset, stop + 1) else none

/-- The end of a raw text, if the letter `r` before an offset opens one. The inner option is empty when
the text is not closed. -/
def rawTextEnd? (data : ByteArray) (offset : Nat) : Option (Option Nat) :=
  (rawOpening? data offset).map fun (hashes, inside) =>
    runRawText data hashes inside (data.size + 1 - inside)

/-- The end of a character between quotes, from the offset after its opening quote; it may be
empty. -/
def characterEnd? (data : ByteArray) (offset : Nat) : Option Nat :=
  let closed (stop : Nat) : Option Nat := if isAt data stop '\'' then some (stop + 1) else none
  match letterAt? data offset with
  | none => none
  | some (letter, width) =>
    if letter == '\'' then some (offset + 1)
    else if letter == '\\' then (escapeEnd? data (offset + 1)).bind closed
    else if letter == '\x00' then none
    else closed (offset + width)

/-- Whether a character may stand among the digits of a number. -/
def isDigitOrLowLine (letter : Char) : Bool :=
  letter.isDigit || letter == '_'

/-- The end of a number with a point or an exponent, from the offset of its first digit. -/
def fractionalEnd? (data : ByteArray) (offset : Nat) : Option Nat :=
  let whole := classEnd data isDigitOrLowLine (offset + 1)
  let letterAfterPoint := (letterAt? data (whole + 1)).map Prod.fst
  let pointed := isAt data whole '.'
  let stopsAtPoint := pointed && (letterAfterPoint == some '.'
    || (letterAfterPoint.map fun letter => Identifier.isStart letter && letter != '_').getD false)
  if stopsAtPoint then none
  else
    let fraction := if pointed then classEnd data isDigitOrLowLine (whole + 1) else whole
    let exponentMark := isAt data fraction 'e' || isAt data fraction 'E'
    let signed := isAt data (fraction + 1) '+' || isAt data (fraction + 1) '-'
    let digits := if signed then fraction + 2 else fraction + 1
    let exponent := classEnd data isDigitOrLowLine digits
    if exponentMark && exponent == digits then some fraction
    else if !exponentMark && !pointed then none
    else
      let stop := if exponentMark then exponent else fraction
      let suffixed := isAt data stop 'f' || isAt data stop 'u' || isAt data stop 'i'
      let suffixEnd := classEnd data Char.isDigit (stop + 1)
      if suffixed && stop + 1 < suffixEnd then some suffixEnd else some stop

/-- The suffixes of whole numbers. -/
def suffixes : List (List Char) :=
  ["u8", "i8", "u16", "i16", "u32", "i32", "u64", "i64", "u128", "i128", "isize", "usize", "f32",
   "f64"].map String.toList

/-- Whether characters of one byte stand from an offset on. -/
def startsWith (data : ByteArray) (offset : Nat) : List Char → Bool
  | [] => true
  | letter :: rest => isAt data offset letter && startsWith data (offset + 1) rest

/-- The end of a suffix at an offset, the longest one that stands there. -/
def suffixEnd (data : ByteArray) (offset : Nat) : Nat :=
  ((suffixes.filter (startsWith data offset)).map fun suffix => offset + suffix.length).foldl
    max offset

/-- The end of a whole number, from the offset of its first digit. -/
def wholeEnd (data : ByteArray) (offset : Nat) : Nat :=
  let based (base : Char) (isDigit : Char → Bool) : Option Nat :=
    let stop := classEnd data (fun letter => isDigit letter || letter == '_') (offset + 2)
    if isAt data offset '0' && isAt data (offset + 1) base && offset + 2 < stop then some stop
    else none
  let binary := based 'b' fun letter => letter == '0' || letter == '1'
  let octal := based 'o' fun letter => '0' ≤ letter && letter ≤ '7'
  let digits := ((based 'x' isHexDigit).or (binary.or octal)).getD
    (classEnd data isDigitOrLowLine offset)
  suffixEnd data digits

/-- The end of a name whose first letter stands at an offset. -/
def wordEnd? (data : ByteArray) (offset : Nat) : Option Nat :=
  match letterAt? data offset with
  | some (letter, width) =>
    if Identifier.isStart letter then
      some (classEnd data Identifier.isContinue (offset + width))
    else none
  | none => none

/-! ### Tokens -/

/-- The characters from one offset to another. -/
def slice (data : ByteArray) (start stop : Nat) : String :=
  String.ofList (Utf8.decode (data.extract start stop).toList)

/-- A token that ends somewhere, or a stray one that takes all that is left. -/
def literalOrStray (data : ByteArray) (offset : Nat) : Option Nat → Token
  | some stop => ⟨.literal, offset, stop⟩
  | none => ⟨.stray, offset, data.size⟩

/-- A text, a raw text or a character at an offset, with a letter before its quote or without. -/
def quotedAt? (data : ByteArray) (offset : Nat) : Option Token :=
  let lettered := isAt data offset 'b' || isAt data offset 'c'
  let quote := if lettered then offset + 1 else offset
  if isAt data quote '"' then some (literalOrStray data offset (textEnd? data (quote + 1)))
  else if isAt data quote 'r' && (rawTextEnd? data (quote + 1)).isSome then
    (rawTextEnd? data (quote + 1)).map (literalOrStray data offset)
  else if isAt data quote '\'' && (!lettered || isAt data offset 'b') then
    (characterEnd? data (quote + 1)).map fun stop => ⟨.literal, offset, stop⟩
  else none

/-- A name at an offset, raw or not. -/
def wordAt? (data : ByteArray) (offset : Nat) : Option Token :=
  let raw : Option Nat :=
    if isAt data offset 'r' && isAt data (offset + 1) '#' then wordEnd? data (offset + 2) else none
  (raw.or (wordEnd? data offset)).map fun stop => ⟨.word (slice data offset stop), offset, stop⟩

/-- A number at the offset of a digit. After a single point it is a whole one. -/
def numberAt (data : ByteArray) (offset : Nat) (afterPoint : Bool) : Token :=
  match if afterPoint then none else fractionalEnd? data offset with
  | some stop => ⟨.literal, offset, stop⟩
  | none => ⟨.whole, offset, wholeEnd data offset⟩

/-- The token at an offset that begins with a character. -/
def tokenAt (data : ByteArray) (offset : Nat) (letter : Char) (afterPoint : Bool) : Token :=
  match quotedAt? data offset with
  | some token => token
  | none =>
    match wordAt? data offset with
    | some token => token
    | none =>
      if letter.isDigit then numberAt data offset afterPoint
      else if marks.contains letter && !(letter == '/' && isAt data (offset + 1) '*') then
        ⟨.mark letter, offset, offset + 1⟩
      else ⟨.stray, offset, data.size⟩

/-- Whether the last token is a point that stands alone. -/
def endsWithPoint (tokens : Array Token) : Bool :=
  let last := tokens.size - 1
  markAt? tokens last == some '.'
    && !(isGlued tokens last && markAt? tokens (last - 1) == some '.')

/-- The end of an interpreter line at an offset, which only the first token can be. -/
def interpreterEnd? (data : ByteArray) (offset : Nat) : Option Nat :=
  let stop := classEnd data (· != '\n') (offset + 2)
  if isAt data offset '#' && isAt data (offset + 1) '!' && !isAt data (offset + 2) '['
      && isAt data stop '\n' then some (stop + 1)
  else none

/-- The tokens from an offset on, after those found, within some number of them. -/
def scanFrom (data : ByteArray) (tokens : Array Token) (offset : Nat) : Nat → Array Token
  | 0 => tokens
  | left + 1 =>
    let start := gapEnd data offset
    match letterAt? data start with
    | none => tokens
    | some (letter, _) =>
      let token := tokenAt data start letter (endsWithPoint tokens)
      if token.lexeme = .stray then tokens.push token
      else scanFrom data (tokens.push token) token.stop left

/-- What was found in some bytes. -/
structure Scan where
  tokens : Array Token
  /-- The offset of the first character that is no blank, or the end. -/
  first : Nat

/-- The tokens of some bytes; a mark of the byte order in front is left out, and so is an interpreter
line before the first token. -/
def scan (data : ByteArray) : Scan :=
  let origin := if startsWith data 0 ['\xEF', '\xBB', '\xBF'] then 3 else 0
  let first := classEnd data isGap origin
  let start := gapEnd data origin
  let start := (interpreterEnd? data start).getD start
  ⟨scanFrom data #[] start (data.size + 1), first⟩

end UnsafeCensus.Grammar
