/-
**Control sequences.**

A control sequence tells a terminal how to show what comes after it: an escape and a bracket, some digits and
marks, and a letter at its end. What does not go to a terminal is written without the sequences in it.

* `sequenceLength`: the letters of a sequence;
* `without`: a text without the sequences in it.
-/

namespace UnsafeCensus.Controls

/-- The letter that a control sequence begins with. -/
def escape : Char := '\x1b'

/-- Whether a letter may stand between the bracket and the end of a control sequence. -/
def isParameter (letter : Char) : Bool :=
  letter == ';' || letter == '?' || letter.isDigit

/-- The number of letters of the control sequence that some letters begin with; nought if there is none. -/
def sequenceLength : List Char → Nat
  | first :: '[' :: rest =>
    let parameters := (rest.takeWhile isParameter).length
    match rest.drop parameters with
    | last :: _ => if first = escape ∧ last.isAlpha then parameters + 3 else 0
    | [] => 0
  | _ => 0

/-- Some letters without their first few and without the control sequences in them. -/
def withoutFrom : Nat → List Char → List Char
  | _, [] => []
  | skipped + 1, _ :: rest => withoutFrom skipped rest
  | 0, first :: rest =>
    match sequenceLength (first :: rest) with
    | 0 => first :: withoutFrom 0 rest
    | length + 1 => withoutFrom length rest

/-- A text without the control sequences in it. -/
def without (text : String) : String :=
  String.ofList (withoutFrom 0 text.toList)

end UnsafeCensus.Controls
