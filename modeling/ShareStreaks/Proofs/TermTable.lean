import ShareStreaks.Proofs.OrderedTable
import ShareStreaks.Tables.Shares

/-!
# Points of a table

`TermTable.point?` looks a share up by its term and its year.  Recording a share changes this one point
(`point?_record`), so of a list of points that are recorded one after the other the last for a term and
a year is found (`point?_ofPoints`).
-/

set_option autoImplicit false

namespace ShareStreaks

/-- The share of the point, if it belongs to the term and the year. -/
def Point.shareAt? (term : String) (year : Int) (p : Point) : Option Binary64 :=
  if p.term = term ∧ p.year = year then some p.share else none

namespace TermTable

/-- The share of a term in a year, if there is one. -/
def point? (t : TermTable) (term : String) (year : Int) : Option Binary64 :=
  (t.find? term).bind fun s => s.find? year

theorem point?_record (t : TermTable) (p : Point) (term : String) (year : Int) :
    (t.record p.term p.year p.share).point? term year =
      (p.shareAt? term year).or (t.point? term year) := by
  simp only [point?, record, Point.shareAt?]
  rw [OrderedTable.find?_insert]
  by_cases hterm : term = p.term
  · rw [if_pos hterm, Option.bind_some, OrderedTable.find?_insert, hterm]
    by_cases hyear : year = p.year
    · rw [if_pos hyear, if_pos ⟨rfl, hyear.symm⟩, Option.some_or]
    · rw [if_neg hyear, if_neg fun h => hyear h.2.symm, Option.none_or]
      cases t.find? p.term with
      | none => rfl
      | some s => rfl
  · rw [if_neg hterm, if_neg fun h => hterm h.1.symm, Option.none_or]

/-- **The last point stays.** -/
theorem point?_ofPoints (ps : List Point) (term : String) (year : Int) :
    (ofPoints ps).point? term year = ps.reverse.findSome? (Point.shareAt? term year) := by
  rw [ofPoints, List.foldl_eq_foldr_reverse]
  induction ps.reverse with
  | nil => rfl
  | cons p ps ih =>
    rw [List.foldr_cons, point?_record, ih, List.findSome?_cons]
    cases p.shareAt? term year with
    | none => rfl
    | some share => rfl

end TermTable
end ShareStreaks
