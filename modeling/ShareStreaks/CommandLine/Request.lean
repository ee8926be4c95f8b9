import ShareStreaks.Calendar.Cutoff
import ShareStreaks.Disk.FileTree
import ShareStreaks.Tables.Shares
import ShareStreaks.Text.Quoted
import ShareStreaks.Threshold.Text

/-!
# Requests

What a run is asked to do: which database to read, what to count in it, which thresholds to try, and
where to put the results.  A request is checked before the run begins; of several faults the first in
the order of the checks is reported.
-/

set_option autoImplicit false

namespace ShareStreaks

structure Request where
  database : Path
  outputDirectory : Path := ⟨"."⟩
  /-- The thresholds asked for; none means the default ones. -/
  filters : List Threshold := []
  termLength : Int := 1
  attr : Int := 0
  /-- The cutoff as it was given. -/
  since : String := "1450000000"
  metric : Metric := .authors
  /-- Leave out the table on standard output. -/
  noDump : Bool := false
  verbose : Bool := false
deriving DecidableEq

/-- Why a request is not carried out. -/
inductive RequestFault where
  | termLength
  | outputIsFile (path : Path)
  | cutoff (fault : CutoffFault)
deriving DecidableEq

/-- The fault from the outside in. -/
def RequestFault.messages : RequestFault → List String
  | .termLength => ["--term-len must be greater than 0"]
  | .outputIsFile path => ["--output-dir " ++ quoted path.text ++ " is a file"]
  | .cutoff fault => fault.messages

namespace Request

/-- The thresholds to try. -/
def thresholds (r : Request) : List Threshold :=
  if r.filters.isEmpty then Threshold.defaults else r.filters

/-- What to select from the tables, the cutoff being known. -/
def query (r : Request) (since : Int) : Query := ⟨r.termLength, r.attr, since, r.metric⟩

/-- The first fault of the request, the output directory being looked for on the disk. -/
def fault? (r : Request) (t : FileTree) : Option RequestFault :=
  if r.termLength ≤ 0 then some .termLength
  else if t.isFile r.outputDirectory then some (.outputIsFile r.outputDirectory)
  else
    match readCutoff r.since with
    | .error fault => some (.cutoff fault)
    | .ok _ => none

end Request

/-- The query that is made when nothing else is asked for. -/
def Query.default : Query := ⟨1, 0, 1450000000, .authors⟩

end ShareStreaks
