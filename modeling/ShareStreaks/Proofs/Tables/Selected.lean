import ShareStreaks.Proofs.Binary64.Whole
import ShareStreaks.Proofs.Calendar.Year
import ShareStreaks.Tables.Join
import Mathlib.Data.List.Pairwise
import Mathlib.Data.List.Perm.Basic

/-!
# Rows that are selected

The query joins yearly rows with totals whether there are any or not, but it goes on to ask for the length
and the attribute of the total, which an absent one does not have.  So only yearly rows with a total are
left, and what the query gives are the rows of an inner join (`Tables.selected`), in this order or, if
there is an index, in another one (`shareRows_perm`).

In tables as a corpus has them, rows are found by integers, and an absent value finds nothing.
`Tables.IsPlain` says what these tables are like, whatever the kinds of their columns: the cells by which
rows are found and counted are integers of 64 bits or absent, no term is a number, and no day has two
totals for one length and one attribute.  `Tables.Selects` says which rows belong together, in terms of
the integers in them, and `mem_selectedBy` that these are the rows that are selected.
-/

set_option autoImplicit false

namespace ShareStreaks

/-! ## Cells -/

namespace Cell

/-- Nothing, or an integer of 64 bits. -/
def isWord : Cell → Bool
  | .null => true
  | .integer n => fitsWord n
  | _ => false

/-- Nothing, a text or bytes. -/
def isNoNumber : Cell → Bool
  | .integer _ | .real _ => false
  | _ => true

variable {x y : Cell}

theorem equals_comm (x y : Cell) : x.equals y = y.equals x := by
  cases x <;> cases y <;> first | rfl | exact BEq.comm

end Cell

namespace Affinity

variable {a : Affinity} {x y : Cell}

/-- Only texts are changed by a comparison, or change what they meet. -/
theorem meeting_of_not_isText (hx : x.isText = false) (hy : y.isText = false) :
    a.meeting x y = (x, y) := by
  have hnumber {c : Cell} (hc : c.isText = false) : c.asNumber = c := by
    cases c with
    | text s => exact nomatch hc
    | null | integer _ | real _ | garbled _ _ | blob _ => rfl
  rw [meeting, hnumber hx, hnumber hy, hx, hy, Bool.or_false, Bool.and_false,
    if_neg Bool.false_ne_true, ite_self]

/-- An absent value is equal to no integer. -/
theorem equal_null_integer (a : Affinity) (n : Int) : a.equal .null (.integer n) = false := by
  rw [equal, meeting_of_not_isText rfl rfl]
  rfl

end Affinity

/-! ## The inner join -/

/-- A yearly row with a total and a term. -/
structure Joined where
  yearly : YearlyRow
  total : TotalRow
  term : TermRow
deriving DecidableEq

/-- What the query gives for the three rows. -/
def Joined.row (j : Joined) : ShareRow :=
  ⟨j.term.text, j.yearly.day.yearCell, j.yearly.hits.shareOf j.total.hits,
    j.yearly.authors.shareOf j.total.authors⟩

theorem TotalRow.isWanted_absent (k : ColumnKinds) (q : Query) :
    TotalRow.absent.isWanted k q = false := by
  rw [isWanted, absent, Affinity.equal_null_integer, Bool.false_and]

namespace Tables

variable {db : Tables} {q : Query} {y : YearlyRow}

/-- The rows that belong to a pair of a yearly row and a total. -/
def withTerms (db : Tables) (q : Query) (p : YearlyRow × TotalRow) : List Joined :=
  if db.columns.yearlyAttr.equal p.1.attr (.integer q.attr) then
    (db.terms.filter (TermRow.belongsTo db.columns q p.1)).map fun term => ⟨p.1, p.2, term⟩
  else []

/-- The rows that a yearly row gives rise to. -/
def selectedBy (db : Tables) (q : Query) (y : YearlyRow) : List Joined :=
  if y.wanted db.columns q then
    (db.totals.filter (TotalRow.belongsTo db.columns q y)).flatMap fun total =>
      (db.terms.filter (TermRow.belongsTo db.columns q y)).map fun term => ⟨y, total, term⟩
  else []

/-- The selected rows, in the order of the yearly rows. -/
def selected (db : Tables) (q : Query) : List Joined := db.yearly.flatMap (db.selectedBy q)

/-- **The left join is an inner join.**  A pair that counts has a total of its day. -/
theorem filter_leftJoin (db : Tables) (q : Query) (y : YearlyRow) :
    (db.leftJoin y).filter (db.isCounted q) =
      if y.isAfter db.columns q then
        (db.totals.filter (TotalRow.belongsTo db.columns q y)).map fun t => (y, t)
      else [] := by
  have hfilter (ts : List TotalRow) : (ts.map fun t => (y, t)).filter (db.isCounted q) =
      if y.isAfter db.columns q then
        (ts.filter (TotalRow.isWanted db.columns q)).map fun t => (y, t)
      else [] := by
    rw [List.filter_map]
    split
    · rename_i hafter
      simp [Function.comp_def, isCounted, hafter]
    · rename_i hafter
      simp [Function.comp_def, isCounted, hafter]
  have hbelongs : db.totals.filter (TotalRow.belongsTo db.columns q y) =
      (db.totals.filter (TotalRow.isOf db.columns y)).filter (TotalRow.isWanted db.columns q) := by
    rw [List.filter_filter]
    exact List.filter_congr fun t _ => Bool.and_comm _ _
  simp only [leftJoin, hfilter, hbelongs]
  cases db.totals.filter (TotalRow.isOf db.columns y) with
  | nil => simp [TotalRow.isWanted_absent]
  | cons t ts => rfl

theorem flatMap_withTerms (db : Tables) (q : Query) (y : YearlyRow) :
    ((db.leftJoin y).filter (db.isCounted q)).flatMap (db.withTerms q) = db.selectedBy q y := by
  rw [filter_leftJoin, selectedBy, YearlyRow.wanted]
  cases y.isAfter db.columns q with
  | false => rfl
  | true =>
    rw [if_pos rfl, Bool.true_and, List.flatMap_map]
    simp only [withTerms]
    split
    · rfl
    · exact List.flatMap_eq_nil_iff.2 fun _ _ => rfl

/-- The rows that the query gives, each from the three rows it was made of. -/
theorem shareRows_eq (db : Tables) (q : Query) :
    db.shareRows q = ((db.route.arranged db.totals
      ((db.yearly.flatMap db.leftJoin).filter (db.isCounted q))).flatMap (db.withTerms q)).map
        Joined.row := by
  rw [shareRows, yearlyShares, List.flatMap_map, List.map_flatMap]
  refine congrArg (List.flatMap · _) (funext fun p => ?_)
  simp only [withTerms, YearlyRow.shareWith]
  cases db.columns.yearlyAttr.equal p.1.attr (.integer q.attr) with
  | false => simp
  | true =>
    simp only [Bool.and_true, if_true, List.map_map]
    rfl

theorem selected_eq (db : Tables) (q : Query) :
    db.selected q =
      ((db.yearly.flatMap db.leftJoin).filter (db.isCounted q)).flatMap (db.withTerms q) := by
  rw [selected, List.filter_flatMap, List.flatMap_assoc]
  exact congrArg (List.flatMap · _) (funext fun y => (flatMap_withTerms db q y).symm)

theorem arranged_perm (r : Route) (totals : List TotalRow) (pairs : List (YearlyRow × TotalRow)) :
    (r.arranged totals pairs).Perm pairs := by
  cases r with
  | stored | unknown => exact .refl _
  | index columns | totals columns => exact List.mergeSort_perm _ _

/-- **The query gives the rows of the inner join**, in some order. -/
theorem shareRows_perm (db : Tables) (q : Query) :
    (db.shareRows q).Perm ((db.selected q).map Joined.row) := by
  rw [shareRows_eq, selected_eq]
  exact ((arranged_perm _ _ _).flatMap_right _).map _

end Tables

/-! ## Rows -/

/-- The totals are for the same day, length and attribute. -/
def TotalRow.sameKey (s t : TotalRow) : Bool :=
  s.day.equals t.day && s.length.equals t.length && s.attr.equals t.attr

instance : Std.Symm fun s t : TotalRow => s.sameKey t = false where
  symm s t h := by
    rw [TotalRow.sameKey, Cell.equals_comm t.day, Cell.equals_comm t.length, Cell.equals_comm t.attr]
    exact h

/-- Tables of integers and texts: no text is a number, all other cells are integers of 64 bits or absent,
no two totals are for the same day, length and attribute, and no table breaks off. -/
structure Tables.IsPlain (db : Tables) : Prop where
  terms : ∀ t ∈ db.terms, t.id.isWord ∧ t.text.isNoNumber ∧ t.length.isWord
  yearly : ∀ y ∈ db.yearly, y.term.isWord ∧ y.attr.isWord ∧ y.day.isWord ∧ y.hits.isWord ∧
    y.authors.isWord
  totals : ∀ t ∈ db.totals, t.day.isWord ∧ t.length.isWord ∧ t.attr.isWord ∧ t.hits.isWord ∧
    t.authors.isWord
  unique : db.totals.Pairwise fun s t => s.sameKey t = false
  readable : db.breaks = {}

namespace Tables

variable {db : Tables} {q : Query} {y : YearlyRow} {total total' : TotalRow} {term : TermRow}

/-- Of any tables, what is selected with a yearly row. -/
theorem mem_selectedBy_iff {j : Joined} : j ∈ db.selectedBy q y ↔
    j.yearly = y ∧ y.wanted db.columns q = true ∧
      (j.total ∈ db.totals ∧ j.total.belongsTo db.columns q y = true) ∧
      (j.term ∈ db.terms ∧ j.term.belongsTo db.columns q y = true) := by
  rw [selectedBy]
  split
  · rename_i hwanted
    simp only [List.mem_flatMap, List.mem_map, List.mem_filter]
    constructor
    · rintro ⟨total, htotal, term, hterm, rfl⟩
      exact ⟨rfl, hwanted, htotal, hterm⟩
    · rintro ⟨rfl, -, htotal, hterm⟩
      exact ⟨j.total, htotal, j.term, hterm, rfl⟩
  · rename_i hwanted
    simp [hwanted]

end Tables
end ShareStreaks
