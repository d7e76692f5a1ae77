/-
**Files in one space of offsets.**

A file holds the offsets from its start to its end, the end included. A line starts at the first byte and
after each line feed. A column counts the characters between the start of the line and the offset.

* `lineStarts`: where the lines of some bytes start;
* `File`: a file with its place in the space;
* `lineCount`: the line feeds, and one more for a last line that has none;
* `locate`: the location of an offset, found by a search among the starts of lines.
-/

import UnsafeCensus.Source.Location
import UnsafeCensus.Source.Search

namespace UnsafeCensus.Source

/-- The starts of lines after `index`, in addition to those found, for the last `left` bytes. -/
def lineStartsFrom (data : ByteArray) (found : Array Int) (index : Nat) : Nat → Array Int
  | 0 => found
  | left + 1 =>
    if data[index]? = some 0x0A then lineStartsFrom data (found.push (index + 1)) (index + 1) left
    else lineStartsFrom data found (index + 1) left

/-- Where the lines of some bytes start. -/
def lineStarts (data : ByteArray) : Array Int :=
  lineStartsFrom data #[0] 0 data.size

/-- How many characters a run of bytes holds, read from a state on and added to a count. -/
def countCharactersFrom (data : ByteArray) (count : Nat) (state : Utf8.State) (index : Nat) :
    Nat → Nat
  | 0 => count + (Utf8.finish state).length
  | left + 1 =>
    let (completed, next) := Utf8.step state (data[index]?.getD 0)
    countCharactersFrom data (count + completed.length) next (index + 1) left

/-- How many characters the bytes from `start` on that are below `stop` hold. -/
def countCharacters (data : ByteArray) (start stop : Nat) : Nat :=
  countCharactersFrom data 0 .boundary start (stop - start)

/-- A bound of a run of bytes: one below zero counts from the end, and none is outside. -/
def clampBound (size : Nat) (bound : Int) : Nat :=
  if bound < 0 then (size + bound).toNat else min size bound.toNat

/-- A file with its place in the space of offsets. -/
structure File where
  name : String
  /-- The offset of the first byte. -/
  start : Int
  data : ByteArray
  /-- Where the lines start, counted from the first byte. -/
  lineStarts : Array Int

namespace File

/-- The file of some bytes at a place. -/
def ofData (name : String) (start : Int) (data : ByteArray) : File :=
  ⟨name, start, data, Source.lineStarts data⟩

/-- The offset after the last byte. -/
def stop (file : File) : Int :=
  file.start + file.data.size

/-- Whether the file holds an offset. -/
def contains (file : File) (offset : Int) : Bool :=
  file.start ≤ offset && offset ≤ file.stop

/-- How many lines the file has. -/
def lineCount (file : File) : Nat :=
  let feeds := file.lineStarts.size - 1
  if file.data.size = 0 then 0
  else if file.data[file.data.size - 1]? = some 0x0A then feeds
  else feeds + 1

/-- The start of a line, counted from the first byte. -/
def lineStart (file : File) (index : Nat) : Int :=
  file.lineStarts[index]?.getD 0

/-- The location of an offset. -/
def locate (file : File) (offset : Int) : Except Failure Location :=
  let distance := offset - file.start
  let line := upperBound file.lineStart file.lineStarts.size distance
  let size := file.data.size
  let column :=
    countCharacters file.data (clampBound size (file.lineStart (line - 1)))
      (clampBound size distance)
  Location.of file.name line column

end File

end UnsafeCensus.Source
