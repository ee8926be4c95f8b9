import ShareStreaks.Tables.Affinity

/-!
# The tables of a corpus

A corpus comes as three tables, their rows in the order in which they were put in.

* `terms`: the texts whose use was counted, each with an identifier and its length.
* `yearly`: how often, and by how many authors, a term was used in the year that begins on a day, for
  each attribute of the term.
* `totals`: all uses and all authors on that day, for each length of terms and each attribute.

`addTerm`, `addYearly` and `addTotal` put a row in, and make of its cells what columns of integers make of
them.  Tables that come from elsewhere can have columns of other kinds, can break off before their last
row, and can have an index through which the yearly rows are found; `columns`, `breaks` and `route` say
so.
-/

set_option autoImplicit false

namespace ShareStreaks

structure TermRow where
  id : Cell
  text : Cell
  length : Cell
deriving DecidableEq

structure YearlyRow where
  term : Cell
  attr : Cell
  day : Cell
  hits : Cell
  authors : Cell
deriving DecidableEq

structure TotalRow where
  day : Cell
  length : Cell
  attr : Cell
  hits : Cell
  authors : Cell
deriving DecidableEq

/-- The affinities of the columns by which rows are found. -/
structure ColumnKinds where
  /-- Identifiers of terms are the numbers of their rows. -/
  termsNumbered : Bool := true
  termId : Affinity := .integer
  termLength : Affinity := .integer
  yearlyTerm : Affinity := .integer
  yearlyAttr : Affinity := .integer
  yearlyDay : Affinity := .integer
  totalDay : Affinity := .integer
  totalLength : Affinity := .integer
  totalAttr : Affinity := .integer
deriving DecidableEq

/-- The tables of which not all rows can be read. -/
structure Breaks where
  terms : Bool := false
  yearly : Bool := false
  totals : Bool := false
deriving DecidableEq

/-- A column of the yearly rows. -/
inductive YearlyColumn where
  | term
  | attr
  | day
  | hits
  | authors
deriving DecidableEq

def YearlyRow.cell (y : YearlyRow) : YearlyColumn → Cell
  | .term => y.term
  | .attr => y.attr
  | .day => y.day
  | .hits => y.hits
  | .authors => y.authors

/-- A column of an index. -/
structure IndexColumn where
  column : YearlyColumn
  descends : Bool := false
deriving DecidableEq

/-- The way by which yearly rows are come upon. -/
inductive Route where
  /-- As they stand. -/
  | stored
  /-- In the order of an index. -/
  | index (columns : List IndexColumn)
  /-- For one total after the other, in the order of an index. -/
  | totals (columns : List IndexColumn)
  /-- In an order that is not known. -/
  | unknown
deriving DecidableEq

structure Tables where
  terms : List TermRow
  yearly : List YearlyRow
  totals : List TotalRow
  columns : ColumnKinds := {}
  breaks : Breaks := {}
  route : Route := .stored
deriving DecidableEq

namespace Tables

def empty : Tables := { terms := [], yearly := [], totals := [] }

/-- The identifier given to a row that comes without one: one more than the greatest so far. -/
def nextId (db : Tables) : Int :=
  let ids := db.terms.filterMap fun r => match r.id with
    | .integer n => some n
    | _ => none
  match ids.max? with
  | some n => n + 1
  | none => 1

/-- Puts a term in, unless its identifier is no integer or is taken. -/
def addTerm (db : Tables) (id text length : Cell) : Option Tables := do
  let id ← match id.asInteger with
    | .null => some (.integer db.nextId)
    | .integer n => some (.integer n)
    | _ => none
  if db.terms.any fun r => r.id == id then none
  else some { db with terms := db.terms ++ [⟨id, text.asText, length.asInteger⟩] }

def addYearly (db : Tables) (term attr day hits authors : Cell) : Tables :=
  { db with yearly := db.yearly ++
    [⟨term.asInteger, attr.asInteger, day.asInteger, hits.asInteger, authors.asInteger⟩] }

def addTotal (db : Tables) (day length attr hits authors : Cell) : Tables :=
  { db with totals := db.totals ++
    [⟨day.asInteger, length.asInteger, attr.asInteger, hits.asInteger, authors.asInteger⟩] }

end Tables
end ShareStreaks
