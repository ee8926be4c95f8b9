import ShareStreaks.Disk.FileEngine
import ShareStreaks.Program

/-!
# The command line

The program works on a picture of the disk.  `main` takes the picture of the places that the request
names, runs the program on it, puts its output out, and carries out on the disk what the picture changed.
If the output is not taken, the program is run again as one whose output is refused.
-/

set_option autoImplicit false

namespace ShareStreaks

/-- A place on the disk. -/
def Place.text (place : Place) : String := "/" ++ "/".intercalate place

/-- What is at a place on the disk. -/
def probe (place : Place) : IO (Option Node) := do
  try
    return some (.file (.bytes (← IO.FS.readBinFile (Place.text place))))
  catch fault =>
    match fault with
    | .inappropriateType _ 21 _ => return some .directory
    | _ => return none

/-- The file that a database is in, and what can be beside it. -/
def databasePaths (name : String) : List Path :=
  match readDatabaseName name with
  | .ok (.file p _) => p :: ["-journal", "-wal", "-shm", ".lock"].map fun suffix => ⟨p.text ++ suffix⟩
  | .ok .fresh | .error _ => []

/-- The paths that a request names, and those of the files it may write. -/
def Request.paths (r : Request) : List Path :=
  r.database :: databasePaths r.database.text ++ r.outputDirectory ::
    r.thresholds.map fun t => r.outputDirectory.join t.fileName

/-- A picture of the disk around the paths. -/
def picture (paths : List Path) : IO FileTree := do
  let here : Path := ⟨(← IO.currentDir).toString⟩
  let bare := FileTree.empty here.segments
  let places := paths.flatMap fun p => FileTree.placesOn (bare.start p) p.segments
  places.foldlM (fun t place => do
    if (t.at? place).isSome then return t
    match ← probe place with
    | some node => return t.put place node
    | none => return t) bare

/-- Makes the disk at a place what a later picture shows.  Texts are always new: what was there before
shows as bytes. -/
def carryOut (before : FileTree) (place : Place) : Node → IO Unit
  | .directory => unless (before.at? place).isSome do IO.FS.createDir (Place.text place)
  | .file (.text s) => IO.FS.writeFile (Place.text place) s
  | .file (.bytes b) =>
    unless before.at? place = some (.file (.bytes b)) do IO.FS.writeBinFile (Place.text place) b
  | .file (.tables _) => pure ()

/-- Runs the program and puts its output out. -/
def runAndPut (args : List String) (filterText : Option String) (before : FileTree) : IO Ending := do
  let ending := runProgram fileEngine .free args filterText before
  try
    let out ← IO.getStdout
    unless ending.output.isEmpty do out.write ending.output
    out.flush
    return ending
  catch fault =>
    let refusal : Outlet := ⟨fun _ => some (0, .text [toString fault])⟩
    return runProgram fileEngine refusal args filterText before

end ShareStreaks

open ShareStreaks

def main (args : List String) : IO UInt32 := do
  let begun ← IO.monoMsNow
  let filterText ← IO.getEnv "RUST_LOG"
  let before ← picture ((readArguments args).toOption.map Request.paths |>.getD [])
  let ending ← runAndPut args filterText before
  for (place, _) in before.entries do
    unless (ending.tree.at? place).isSome do IO.FS.removeFile (Place.text place)
  for (place, node) in ending.tree.entries do
    carryOut before place node
  let elapsed := toString ((← IO.monoMsNow) - begun)
  for event in ending.events do
    IO.eprintln (event.line elapsed)
  IO.eprint ending.errorOutput
  return ending.exitCode.toUInt32
