import ShareStreaks.Selection
import ShareStreaks.Threshold.Text

/-!
# Results as text

A result file holds one line for each finding: the term, and the bounds of its streak as percentages.
-/

set_option autoImplicit false

namespace ShareStreaks

/-- A finding in a result file. -/
def Finding.line (f : Finding) : List Char :=
  f.term.toList ++ ':' :: ' ' :: (f.bounds.least.percent ++ ' ' :: '-' :: ' ' :: f.bounds.greatest.percent)

/-- The text of a result file. -/
def resultText (findings : List Finding) : String :=
  String.ofList (findings.flatMap fun f => f.line ++ ['\n'])

end ShareStreaks
