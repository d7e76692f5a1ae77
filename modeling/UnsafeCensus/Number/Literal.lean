/-
**Numbers as people write them.**

Blanks may surround a number, its digits may be of any script, a single low line may stand between two
digits, and there are words for what is no number and for the infinities.

* `stripped`: a text without the blanks around it;
* `lowLinesBetweenDigits`: whether each low line stands between two digits;
* `signed?`: a sign and what follows it;
* `read?`: the number a text stands for.
-/

import UnsafeCensus.Number.Binary64
import UnsafeCensus.Text.Digit

namespace UnsafeCensus.Literal

/-- Whether a character is a blank around a number: those of one byte are the usual six. -/
def isBlank (letter : Char) : Bool :=
  Digit.isBlank letter && !(0x1C ≤ letter.toNat && letter.toNat ≤ 0x1F)

/-- A text without the blanks around it. -/
def stripped (letters : List Char) : List Char :=
  ((letters.dropWhile isBlank).reverse.dropWhile isBlank).reverse

/-- A digit of any script as one of the ten of the first script; other characters stay. -/
def plain (letter : Char) : Char :=
  match Digit.value? letter with
  | some value => Nat.digitChar value
  | none => letter

/-- Whether each low line stands between two digits, after a character that may be a digit. -/
def lowLinesBetweenDigits (afterDigit : Bool) : List Char → Bool
  | [] => true
  | letter :: rest =>
    (letter != '_' || (afterDigit && (rest.head?.map Char.isDigit).getD false))
      && lowLinesBetweenDigits letter.isDigit rest

/-- The sign at the front of a text and what follows it. -/
def sign : List Char → Bool × List Char
  | '-' :: rest => (true, rest)
  | '+' :: rest => (false, rest)
  | letters => (false, letters)

/-- The value of digits in base ten. -/
def decimalValue (digits : List Char) : Nat :=
  digits.foldl (fun value digit => 10 * value + (digit.toNat - '0'.toNat)) 0

/-- A whole number with an optional sign, and nothing else. -/
def exponent? (letters : List Char) : Option Int :=
  let (negative, digits) := sign letters
  if digits.isEmpty || !digits.all Char.isDigit then none
  else some (if negative then -(decimalValue digits : Int) else decimalValue digits)

/-- A number without its sign: digits with an optional point among them and an optional exponent. -/
def unsigned? (negative : Bool) (letters : List Char) : Option Binary64 :=
  let whole := letters.takeWhile Char.isDigit
  let afterWhole := letters.dropWhile Char.isDigit
  let (fraction, rest) := match afterWhole with
    | '.' :: after => (after.takeWhile Char.isDigit, after.dropWhile Char.isDigit)
    | after => ([], after)
  let digits := decimalValue (whole ++ fraction)
  if whole.isEmpty && fraction.isEmpty then none
  else match rest with
    | [] => some (.ofDecimal negative digits (-(fraction.length : Int)))
    | mark :: after =>
      if mark == 'e' || mark == 'E' then
        (exponent? after).map fun exponent =>
          .ofDecimal negative digits (exponent - fraction.length)
      else none

/-- The number that a word without its sign stands for. -/
def word? (negative : Bool) (letters : List Char) : Option Binary64 :=
  let word := String.ofList (letters.map Char.toLower)
  if word = "nan" then some .nan
  else if word = "inf" ∨ word = "infinity" then some (.infinite negative)
  else none

/-- The number that a text stands for. -/
def read? (text : String) : Option Binary64 :=
  let letters := (stripped text.toList).map plain
  if lowLinesBetweenDigits false letters then
    let (negative, rest) := sign (letters.filter (· != '_'))
    (word? negative rest).orElse fun _ => unsigned? negative rest
  else none

end UnsafeCensus.Literal
