/-
**The files of a unit in one space of offsets.**

The first file starts at zero and each other file one after the end of the file before it, so the end of a
file is an offset of that file alone.

* `Resolver`: what tells the locations of offsets and the number of lines;
* `Map`: the files in the order in which they were added, and where each of them was put;
* `add`: a file more;
* `lookup`: the file that holds an offset;
* `resolve`: the location of an offset;
* `lineCount`: the lines of all files;
* `Map.resolver`: a map as a resolver.
-/

import UnsafeCensus.Source.File

namespace UnsafeCensus.Source

/-- What tells the locations of offsets and the number of lines, with effects of its own. -/
structure Resolver (m : Type → Type) where
  resolve : Int → m Location
  lineCount : m Int

/-- The files of a unit, and the offset at which each of them was put. -/
structure Map where
  files : Array File
  starts : Array Int

namespace Map

/-- The map without a file. -/
def empty : Map :=
  ⟨#[], #[]⟩

/-- Where the next file starts. -/
def nextStart (map : Map) : Int :=
  match map.files.back? with
  | some file => file.stop + 1
  | none => 0

/-- The file that some bytes become when they are added. -/
def nextFile (map : Map) (name : String) (data : ByteArray) : File :=
  File.ofData name map.nextStart data

/-- The map with some bytes more. -/
def add (map : Map) (name : String) (data : ByteArray) : Map :=
  ⟨map.files.push (map.nextFile name data), map.starts.push (map.nextFile name data).start⟩

/-- The names of the files. -/
def names (map : Map) : List String :=
  map.files.toList.map File.name

/-- The offset at which a file was put. -/
def startOf (map : Map) (index : Nat) : Int :=
  map.starts[index]?.getD 0

/-- The diagnostic of an offset that no file holds. -/
def outside (map : Map) (offset : Int) : Diagnostic :=
  .outsideMap ("Byte offset " ++ toString offset ++ " is outside every file in the source map")
    offset
    (some
      { operation := some "resolve"
        component := some "source_map"
        facts := [Json.member "files" (.list (map.names.map Json.Value.ofString))] })

/-- The file that holds an offset: the last one that does not start after it, if it reaches so far. -/
def lookup (map : Map) (offset : Int) : Except Failure File :=
  let bound := upperBound map.startOf map.starts.size offset
  match if bound = 0 then none else map.files[bound - 1]? with
  | some file =>
    if file.contains offset then .ok file else .error (.diagnosed (map.outside offset))
  | none => .error (.diagnosed (map.outside offset))

/-- The location of an offset. -/
def resolve (map : Map) (offset : Int) : Except Failure Location := do
  (← map.lookup offset).locate offset

/-- The lines of all files. -/
def lineCount (map : Map) : Nat :=
  (map.files.toList.map File.lineCount).foldr (· + ·) 0

/-- The map as a resolver. -/
def resolver (map : Map) : Resolver (Except Failure) :=
  ⟨map.resolve, .ok map.lineCount⟩

end Map

end UnsafeCensus.Source
