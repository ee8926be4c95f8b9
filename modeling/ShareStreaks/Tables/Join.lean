import ShareStreaks.Tables.Basic
import ShareStreaks.Tables.SchemaFault
import ShareStreaks.Tables.Shares

/-!
# The query for yearly shares

What `queryText` asks of three tables, step by step as it is written.  The yearly rows are joined with the
totals of their days, a row without any being joined with absent cells (`leftJoin`).  Of these pairs those
count whose total has the length and the attribute asked for and whose day comes after the cutoff
(`isCounted`).  Each gives a `YearlyShare`: the year of the day, and the quotient of the counts for both
ways of counting, zero if there is none.  At last these are joined with their terms (`shareRows`).

Nothing is said in the query about the order of the rows.  They come in the order in which the yearly rows
are come upon, which is the order in which they stand unless there is an index (`Route`).

Tables that break off are a fault if the query looks beyond what can be read of them: at the totals before
the first row is selected, at the others after the last.
-/

set_option autoImplicit false

namespace ShareStreaks

/-! ## Rows that belong together -/

/-- The row is a total for the day of a yearly row. -/
def TotalRow.isOf (k : ColumnKinds) (y : YearlyRow) (t : TotalRow) : Bool :=
  (Affinity.common k.yearlyDay k.totalDay).equal y.day t.day

/-- The row has the length and the attribute asked for. -/
def TotalRow.isWanted (k : ColumnKinds) (q : Query) (t : TotalRow) : Bool :=
  k.totalLength.equal t.length (.integer q.termLength) && k.totalAttr.equal t.attr (.integer q.attr)

/-- The row is the total for the day of a yearly row. -/
def TotalRow.belongsTo (k : ColumnKinds) (q : Query) (y : YearlyRow) (t : TotalRow) : Bool :=
  t.isOf k y && t.isWanted k q

def YearlyRow.isAfter (k : ColumnKinds) (q : Query) (y : YearlyRow) : Bool :=
  k.yearlyDay.exceeds y.day (.integer q.since)

/-- The row has the attribute asked for and a day after the cutoff. -/
def YearlyRow.wanted (k : ColumnKinds) (q : Query) (y : YearlyRow) : Bool :=
  y.isAfter k q && k.yearlyAttr.equal y.attr (.integer q.attr)

/-- The row has this identifier.  The number of a row is named by integers and by what a column of
integers makes integers of; an absent identifier names nothing. -/
def TermRow.isNamed (k : ColumnKinds) (name : Cell) (t : TermRow) : Bool :=
  if k.termsNumbered then name.asInteger == t.id && t.id != .null
  else (Affinity.common k.yearlyTerm k.termId).equal name t.id

def TermRow.isWanted (k : ColumnKinds) (q : Query) (t : TermRow) : Bool :=
  k.termLength.equal t.length (.integer q.termLength)

/-- The row is the term of a yearly row. -/
def TermRow.belongsTo (k : ColumnKinds) (q : Query) (y : YearlyRow) (t : TermRow) : Bool :=
  t.isNamed k y.term && t.isWanted k q

/-! ## Orders -/

/-- The cell stands before another in an index. -/
def Cell.precedes (c d : Cell) : Bool := if c = .null then d != .null else d.after c

namespace Route

/-- The row comes before another in an index. -/
def comesBefore : List IndexColumn → YearlyRow → YearlyRow → Bool
  | [], _, _ => false
  | c :: cs, y, z =>
    if (y.cell c.column).precedes (z.cell c.column) then !c.descends
    else if (z.cell c.column).precedes (y.cell c.column) then c.descends
    else comesBefore cs y z

/-- The pairs of yearly rows and totals in the order in which they are come upon. -/
def arranged (totals : List TotalRow) (pairs : List (YearlyRow × TotalRow)) :
    Route → List (YearlyRow × TotalRow)
  | .stored | .unknown => pairs
  | .index columns => pairs.mergeSort fun p p' => !comesBefore columns p'.1 p.1
  | .totals columns => pairs.mergeSort fun p p' =>
    let place := totals.idxOf p.2
    let place' := totals.idxOf p'.2
    place < place' || (place == place' && !comesBefore columns p'.1 p.1)

end Route

/-! ## The query -/

/-- A row of `YearlyPct`. -/
structure YearlyShare where
  term : Cell
  attr : Cell
  year : Cell
  hitsShare : Cell
  authorsShare : Cell

/-- The cells that stand for a total where there is none. -/
def TotalRow.absent : TotalRow := ⟨.null, .null, .null, .null, .null⟩

/-- The year of a moment as a cell. -/
def Cell.yearCell (c : Cell) : Cell :=
  match c.year with
  | some year => .integer year
  | none => .null

/-- The quotient of two cells, or the integer zero. -/
def Cell.shareOf (count base : Cell) : Cell :=
  match count.quotient base with
  | some share => .real share
  | none => .integer 0

/-- What a yearly row and a total give. -/
def YearlyRow.shareWith (y : YearlyRow) (t : TotalRow) : YearlyShare :=
  ⟨y.term, y.attr, y.day.yearCell, y.hits.shareOf t.hits, y.authors.shareOf t.authors⟩

namespace Tables

/-- A yearly row with each of the totals of its day, or with an absent one. -/
def leftJoin (db : Tables) (y : YearlyRow) : List (YearlyRow × TotalRow) :=
  let found := db.totals.filter (TotalRow.isOf db.columns y)
  (if found.isEmpty then [.absent] else found).map fun t => (y, t)

/-- The total is one asked for, and the day comes after the cutoff. -/
def isCounted (db : Tables) (q : Query) (p : YearlyRow × TotalRow) : Bool :=
  p.2.isWanted db.columns q && p.1.isAfter db.columns q

/-- The rows of `YearlyPct`. -/
def yearlyShares (db : Tables) (q : Query) : List YearlyShare :=
  (db.route.arranged db.totals ((db.yearly.flatMap db.leftJoin).filter (db.isCounted q))).map
    fun p => p.1.shareWith p.2

/-- The rows that the query gives. -/
def shareRows (db : Tables) (q : Query) : List ShareRow :=
  (db.yearlyShares q).flatMap fun s =>
    (db.terms.filter fun t => t.isNamed db.columns s.term && t.isWanted db.columns q
      && db.columns.yearlyAttr.equal s.attr (.integer q.attr)).map fun t =>
        ⟨t.text, s.year, s.hitsShare, s.authorsShare⟩

/-! ## Tables that break off -/

/-- The totals are looked at, and not all of them can be read. -/
def breaksBefore (db : Tables) (q : Query) : Bool :=
  db.breaks.totals && db.yearly.any (YearlyRow.wanted db.columns q)

/-- A term is looked for that is not among those that can be read. -/
def missesTerm (db : Tables) (q : Query) : Bool :=
  db.yearly.any fun y =>
    y.wanted db.columns q && db.totals.any (TotalRow.belongsTo db.columns q y)
      && !db.terms.any (TermRow.isNamed db.columns y.term)

/-- Not all rows that are looked at can be read. -/
def breaksAfter (db : Tables) (q : Query) : Bool :=
  db.breaks.yearly || (db.breaks.terms && db.missesTerm q)

/-- The answer to the query. -/
def answer (db : Tables) (q : Query) : Answer :=
  if db.breaksBefore q then ⟨[], some SchemaFault.damage⟩
  else ⟨db.shareRows q, if db.breaksAfter q then some SchemaFault.damage else none⟩

/-- The yearly shares that a query asks for. -/
def load (db : Tables) (q : Query) : Except LoadFault Loaded := (db.answer q).load q.metric

end Tables
end ShareStreaks
