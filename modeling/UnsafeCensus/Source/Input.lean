/-
**Sources at hand.**

A source that is not in a file is given as bytes or as a text. A text becomes bytes before anything else is
done with it, which fails where it holds half of a surrogate pair.

* `Input`: bytes, or a text by its code points;
* `Input.encoded`, `Input.Encodable`: the bytes of a source, and whether it has any.
-/

import UnsafeCensus.Failure

namespace UnsafeCensus.Source

/-- A source at hand. -/
inductive Input where
  | bytes (data : ByteArray)
  | text (points : Json.Text)

instance : Coe ByteArray Input :=
  ⟨.bytes⟩

namespace Input

/-- A text of characters as a source. -/
def ofLetters (letters : List Char) : Input :=
  .text (letters.map Char.toNat)

/-- The bytes of a source. -/
def encoded : Input → Except Failure ByteArray
  | bytes data => .ok data
  | text points => (Utf8.encode? points).mapError .unencodable

/-- A source holds no code point but those of characters. -/
def Encodable : Input → Prop
  | bytes _ => True
  | text points => ∀ point ∈ points, Utf8.isCharacter point = true

end Input

end UnsafeCensus.Source
