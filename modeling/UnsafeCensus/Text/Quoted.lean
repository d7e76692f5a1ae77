/-
**Text between quotes.**

A text is shown between single quotes, or between double quotes when it holds a single quote and no
double one. The quote in use and the backslash are escaped by a backslash; line feed, carriage return and
tab have escapes of one letter; every other character that is not printable is shown by its code point,
in the shortest of the forms of two, four and eight digits.

* `quoteFor`: the quote in use;
* `escape`: one code point between quotes;
* `quotedPoints`: a text given by code points, lone surrogates among them;
* `quoted`: a text of characters.
-/

import UnsafeCensus.Text.Printable

namespace UnsafeCensus.Quoted

/-- The last `width` digits of a number in base sixteen. -/
def hexDigits : Nat → Nat → List Char
  | 0, _ => []
  | width + 1, value => hexDigits width (value / 16) ++ [Nat.digitChar (value % 16)]

/-- The quote to put around a text. -/
def quoteFor (points : List Nat) : Char :=
  if points.contains 0x27 && !points.contains 0x22 then '"' else '\''

/-- A code point between quotes. -/
def escape (quote : Char) (point : Nat) : List Char :=
  if point = quote.toNat ∨ point = 0x5C then ['\\', Char.ofNat point]
  else if point = 0x0A then ['\\', 'n']
  else if point = 0x0D then ['\\', 'r']
  else if point = 0x09 then ['\\', 't']
  else if Printable.isPrintable point then [Char.ofNat point]
  else if point ≤ 0xFF then '\\' :: 'x' :: hexDigits 2 point
  else if point ≤ 0xFFFF then '\\' :: 'u' :: hexDigits 4 point
  else '\\' :: 'U' :: hexDigits 8 point

/-- A text given by its code points, between quotes. -/
def quotedPoints (points : List Nat) : String :=
  let quote := quoteFor points
  String.ofList (quote :: points.flatMap (escape quote) ++ [quote])

/-- A text between quotes. -/
def quoted (text : String) : String :=
  quotedPoints (text.toList.map Char.toNat)

end UnsafeCensus.Quoted
