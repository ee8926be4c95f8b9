import ShareStreaks.Output.Files

/-!
# The summary of a run

After a run, each threshold is listed with the number of terms it was given and the file they went to,
with a note if an earlier threshold covers it.  The file is the first written one whose path ends in the
threshold's file name; if none does, the file name stands alone.
-/

set_option autoImplicit false

namespace ShareStreaks

/-- Where the findings of an outcome went. -/
def Outcome.shownFile (written : List WrittenFile) (o : Outcome) : String :=
  match written.find? fun w => w.path.endsWith o.threshold.fileName with
  | some w => w.path.text
  | none => o.threshold.fileName

/-- The line of the outcome at an index. -/
def summaryLine (written : List WrittenFile) (shadowed : List Nat) (o : Outcome) (index : Nat) :
    String :=
  let note := if shadowed.contains index then " (shadowed by an earlier filter)" else ""
  if o.findings.isEmpty then o.threshold.description ++ ": no new terms" ++ note ++ "\n"
  else
    o.threshold.description ++ ": " ++ decimalText o.findings.length ++ " new terms -> "
      ++ o.shownFile written ++ note ++ "\n"

/-- The lines of all outcomes. -/
def summaryLines (outcomes : List Outcome) (written : List WrittenFile) (shadowed : List Nat) :
    List String :=
  outcomes.zipIdx.map fun (o, index) => summaryLine written shadowed o index

/-- The summary of a run. -/
def summary (outcomes : List Outcome) (written : List WrittenFile) (shadowed : List Nat) : String :=
  "\n--- Term Streak Analysis ---\n"
    ++ String.join (summaryLines outcomes written shadowed)
    ++ "Total terms reported: " ++ decimalText (totalFindings outcomes) ++ "\n"
    ++ (if shadowed.isEmpty then ""
        else "Shadowed filters: " ++ decimalText shadowed.length ++ "\n")

end ShareStreaks
