/-
**The program.**

What a run may need is read beforehand: the sources, the settings files and the files that the arguments
name, in the working directory, in the directories that the arguments name and in all directories below,
and the settings files of the directories above. Only when a module is not found that way are the other
files read as well. What the run has written is written afterwards.
-/

import UnsafeCensus.Console.Behaviour
import UnsafeCensus.Grammar.Grammar

namespace UnsafeCensus.Console

open Files

/-- What stands at an entry of a directory and below it: the directories, and the files whose names are
kept. Links to other directories are not followed. -/
partial def entriesAt (keeps : String → Bool) (entry : IO.FS.DirEntry) (place : Place) :
    IO (List (Place × Entry)) := do
  try
    match (← entry.path.symlinkMetadata).type, ← entry.path.isDir with
    | .dir, _ =>
      let below ← (← entry.path.readDir).toList.mapM fun inner =>
        entriesAt keeps inner (place ++ [inner.fileName])
      return (place, .directory) :: below.flatten
    | _, true => return []
    | type, false =>
      if keeps (place.getLast?.getD "") then
        let data ← IO.FS.readBinFile entry.path
        return [(place, if type matches .other then .special data else .file data)]
      else return []
  catch _ => return []

/-- The directories above a place, with their settings files. -/
def entriesAbove (root : IO.FS.DirEntry) (place : Place) : IO (List (Place × Entry)) := do
  let found ← (Settings.upwards place).mapM fun above => do
    let file : IO.FS.DirEntry := ⟨root.root / (Settings.pathOf above).text, Settings.fileName⟩
    return (above, Entry.directory)
      :: (← entriesAt (· == Settings.fileName) file (above ++ [Settings.fileName]))
  return found.flatten

/-- The directories outside of the working directory that the arguments name, or in which they name a
file. -/
def outerPlaces (root : IO.FS.DirEntry) (working : Place) (arguments : List String) :
    IO (List Place) := do
  let places ← arguments.mapM fun argument => do
    let place := (Path.ofText argument).absolute working
    let isDirectory ← (root.root / (Settings.pathOf place).text).isDir
    return if isDirectory then place else place.dropLast
  return places.eraseDups.filter fun place => !working.isPrefixOf place

/-- Whether a name is one of a source, of a settings file or of a file that the arguments name. -/
def isExpected (arguments : List String) (name : String) : Bool :=
  name.endsWith ".rs" || name == Settings.fileName
    || arguments.any fun argument => (Path.ofText argument).name == name

/-- The tree of the files that a run may need, with those whose names are kept. -/
def readTree (keeps : String → Bool) (arguments : List String) : IO Tree := do
  let root : IO.FS.DirEntry := ⟨← IO.currentDir, ""⟩
  let working := (Path.ofText root.root.toString).names
  let places ← outerPlaces root working arguments
  let found ← (working :: places).mapM fun place => do
    let entry : IO.FS.DirEntry := ⟨root.root / (Settings.pathOf place).text, ""⟩
    return (← entriesAbove root place.dropLast) ++ (← entriesAt keeps entry place)
  return ⟨found.flatten, working⟩

/-- All bytes of a stream after some that were read. -/
partial def readAll (stream : IO.FS.Stream) (done : ByteArray) : IO ByteArray := do
  let more ← stream.read 65536
  if more.isEmpty then return done else readAll stream (done ++ more)

/-- Writes the entries that a run has made. -/
def writeChanges (before after : Tree) : IO Unit := do
  let directory ← IO.currentDir
  for (place, entry) in after.entries do
    let path := directory / (Settings.pathOf place).text
    match before.entryAt? place, entry with
    | none, .directory => IO.FS.createDirAll path
    | some (.file old), .file data => if old != data then IO.FS.writeBinFile path data
    | _, .file data => IO.FS.writeBinFile path data
    | _, _ => pure ()

/-- Shows what a run does, and gives its number. -/
def Host.perform (host : Host) (behaviour : Behaviour) : IO UInt32 := do
  behaviour.output.forM IO.println
  behaviour.messages.forM fun message => IO.eprintln (host.told message)
  if let .failure failure := behaviour.ending then IO.eprintln failure.message
  return UInt32.ofNat behaviour.ending.status

/-- Whether a run did not find the file of a module. -/
def Behaviour.lacksModule (behaviour : Behaviour) : Bool :=
  behaviour.messages.any fun message =>
    match message with
    | .diagnostic diagnostic => diagnostic.code == .moduleNotFound
    | _ => false

/-- What a run finds, with the files whose names are kept. Control sequences go to terminals alone. -/
def readHost (keeps : String → Bool) (input : ByteArray) (arguments : List String) : IO Host := do
  let tree ← readTree keeps arguments
  let format ← IO.getEnv Settings.formatVariable
  let shows ← (← IO.getStdout).isTty
  let tells ← (← IO.getStderr).isTty
  return {
    tree, input, format
    echo := fun line => .ok (if shows then line else Controls.without line)
    tell := fun line => if tells then line else Controls.without line }

end UnsafeCensus.Console

open UnsafeCensus UnsafeCensus.Console in
/-- Runs the program. -/
def main (arguments : List String) : IO UInt32 := do
  let input ←
    if arguments.contains standardInput then readAll (← IO.getStdin) .empty else pure .empty
  let mut host ← readHost (isExpected arguments) input arguments
  let mut behaviour := run Grammar.parse host arguments
  if behaviour.lacksModule then
    host ← readHost (fun _ => true) input arguments
    behaviour := run Grammar.parse host arguments
  writeChanges host.tree behaviour.tree
  host.perform behaviour
