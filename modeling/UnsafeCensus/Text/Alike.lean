/-
**Alike texts.**

The matched letters of two texts are those of the longest piece that both hold, and those matched in the
same way before this piece and after it. Texts are alike when at least three in five of all their letters
are matched.

* `Piece`, `longest`: a piece that two texts hold, and the longest one, the first of several;
* `matched`: the number of matched letters;
* `closest`: the most alike of some texts;
* `common_isPrefix`: what two texts begin with in common is a beginning of the first.
-/

namespace UnsafeCensus.Alike

/-- What two texts begin with in common. -/
def common : List Char → List Char → List Char
  | first :: rest, first' :: rest' => if first = first' then first :: common rest rest' else []
  | _, _ => []

/-- What two texts begin with in common is a beginning of the first. -/
theorem common_isPrefix : (first second : List Char) → common first second <+: first
  | [], _ => List.nil_prefix
  | letter :: rest, [] => List.nil_prefix
  | letter :: rest, letter' :: rest' => by
    rw [common]
    split
    · exact (List.prefix_cons_inj letter).mpr (common_isPrefix rest rest')
    · exact List.nil_prefix

/-- A piece that two texts hold: where it stands in each, and its letters. -/
structure Piece where
  before : Nat
  before' : Nat
  size : Nat

/-- The longer of two pieces, the first one if they are equally long. -/
def Piece.longer (first second : Piece) : Piece :=
  if first.size < second.size then second else first

/-- The longest piece at a place of the first text. -/
def longestAt (first second : List Char) (before : Nat) : Piece :=
  (List.range second.length).foldl (fun best before' =>
    best.longer ⟨before, before', (common (first.drop before) (second.drop before')).length⟩)
    ⟨before, 0, 0⟩

/-- The longest piece that two texts hold; of several the first in the first text, then in the second. -/
def longest (first second : List Char) : Piece :=
  (List.range first.length).foldl (fun best before =>
    best.longer (longestAt first second before)) ⟨0, 0, 0⟩

/-- The number of matched letters, with a bound on how often the texts are divided. -/
def matchedWithin (first second : List Char) : Nat → Nat
  | 0 => 0
  | depth + 1 =>
    let piece := longest first second
    if piece.size = 0 then 0
    else
      matchedWithin (first.take piece.before) (second.take piece.before') depth + piece.size
        + matchedWithin (first.drop (piece.before + piece.size))
            (second.drop (piece.before' + piece.size)) depth

/-- The number of matched letters. -/
def matched (first second : List Char) : Nat :=
  matchedWithin first second first.length

/-- How alike a text is to another: its matched letters of all letters. -/
structure Likeness where
  text : String
  matched : Nat
  letters : Nat

namespace Likeness

/-- How alike a text is to a word. -/
def of (word text : String) : Likeness :=
  ⟨text, 2 * Alike.matched text.toList word.toList, text.length + word.length⟩

/-- Whether a text is alike. -/
def isAlike (likeness : Likeness) : Bool :=
  3 * likeness.letters ≤ 5 * likeness.matched

/-- Whether a text is at least as alike as another; of equally alike ones the later comes first. -/
def atLeast (first second : Likeness) : Bool :=
  let left := first.matched * second.letters
  let right := second.matched * first.letters
  right < left || (left == right && !decide (first.text < second.text))

end Likeness

/-- The most alike of some texts, three of them at most, in the order of their letters. -/
def closest (word : String) (texts : List String) : List String :=
  let found := ((texts.map (Likeness.of word)).filter Likeness.isAlike).mergeSort Likeness.atLeast
  ((found.take 3).map Likeness.text).mergeSort fun first second => !decide (second < first)

end UnsafeCensus.Alike
