import ShareStreaks.Disk.FileTree
import ShareStreaks.Output.Results
import ShareStreaks.Text.Quoted

/-!
# Result files

Every outcome with findings gets a file of its own in the output directory, which is made first.  An
outcome without findings gets none, and an older file of its name is left alone.  Writing stops at the
first file that cannot be written; the files before it stay.
-/

set_option autoImplicit false

namespace ShareStreaks

/-- A file that was written, and how many findings it holds. -/
structure WrittenFile where
  path : Path
  count : Nat
deriving DecidableEq

/-- Why results could not be written. -/
inductive FilingFault where
  | directory (path : Path) (cause : FileFault)
  | file (path : Path) (cause : FileFault)
deriving DecidableEq

/-- The fault from the outside in. -/
def FilingFault.messages : FilingFault → List String
  | .directory path cause =>
    ["Failed to create output directory " ++ quoted path.text, cause.message]
  | .file path cause => ["Failed to create " ++ quoted path.text, cause.message]

/-- What writing results led to: the disk afterwards, the files written, and the fault that ended it if
there was one. -/
structure Filing where
  tree : FileTree
  written : List WrittenFile
  fault : Option FilingFault
deriving DecidableEq

/-- The path of the results for a threshold. -/
def Outcome.path (directory : Path) (o : Outcome) : Path := directory.join o.threshold.fileName

/-- Writes the files of the outcomes into a directory that is there. -/
def writeFiles (directory : Path) : List Outcome → FileTree → Filing
  | [], t => ⟨t, [], none⟩
  | o :: os, t =>
    if o.findings.isEmpty then writeFiles directory os t
    else
      let path := o.path directory
      match t.write path (resultText o.findings) with
      | .error cause => ⟨t, [], some (.file path cause)⟩
      | .ok t =>
        let rest := writeFiles directory os t
        { rest with written := ⟨path, o.findings.length⟩ :: rest.written }

/-- Makes the output directory and writes the files of the outcomes into it. -/
def fileOutcomes (directory : Path) (outcomes : List Outcome) (t : FileTree) : Filing :=
  match t.makeDirectories directory with
  | (t, some cause) => ⟨t, [], some (.directory directory cause)⟩
  | (t, none) => writeFiles directory outcomes t

end ShareStreaks
