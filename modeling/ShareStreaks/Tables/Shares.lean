import ShareStreaks.Tables.LoadFault
import ShareStreaks.TermTable

/-!
# Loading yearly shares

A `Query` says which shares are wanted: of the terms of one length, for one attribute, for the days after a
cutoff, by authors or by hits.  An engine answers it with rows, each of which has a term, a year and both
shares.

Each row sets the share of its term in its year, so the last row for a term and a year stays.  The cells
of a row are read one after the other, the term first; the first cell that cannot be read ends the
loading.  So does an engine that stops before its last row.
-/

set_option autoImplicit false

namespace ShareStreaks

/-- What is counted for a share. -/
inductive Metric where
  | authors
  | hits
deriving DecidableEq

structure Query where
  termLength : Int
  attr : Int
  /-- Only days after this moment count. -/
  since : Int
  metric : Metric
deriving DecidableEq

/-! ## Reading cells -/

namespace Cell

def readText : Cell → Except LoadFault String
  | .text s => .ok s
  | .garbled bytes _ => .error (.garbled bytes)
  | c => .error (.wrongKind .text c.kind)

/-- A year has 32 bits. -/
def readYear : Cell → Except LoadFault Int
  | .integer n => if -2 ^ 31 ≤ n ∧ n < 2 ^ 31 then .ok n else .error (.outOfRange .year n)
  | c => .error (.wrongKind .year c.kind)

def readShare (column : LoadColumn) : Cell → Except LoadFault Binary64
  | .integer n => .ok (.ofInt n)
  | .real x => .ok x
  | c => .error (.wrongKind column c.kind)

end Cell

/-! ## From rows to shares -/

/-- A row of an answer. -/
structure ShareRow where
  text : Cell
  year : Cell
  hitsShare : Cell
  authorsShare : Cell
deriving DecidableEq

/-- The share of a term in a year. -/
structure Point where
  term : String
  year : Int
  share : Binary64
deriving DecidableEq

namespace ShareRow

/-- The share that is wanted. -/
def share (r : ShareRow) : Metric → Except LoadFault Binary64
  | .hits => r.hitsShare.readShare .hits
  | .authors => r.authorsShare.readShare .authors

/-- The term, the year and the share of a row. -/
def point (m : Metric) (r : ShareRow) : Except LoadFault Point := do
  let term ← r.text.readText
  let year ← r.year.readYear
  let share ← r.share m
  return ⟨term, year, share⟩

end ShareRow

/-- The table of points, a later point for a term and a year replacing an earlier one. -/
def TermTable.ofPoints (ps : List Point) : TermTable :=
  ps.foldl (fun t p => t.record p.term p.year p.share) .empty

/-- What was loaded, and from how many rows. -/
structure Loaded where
  table : TermTable
  rowCount : Nat

/-- The rows that an engine hands over, and why it stops if there should be more. -/
structure Answer where
  rows : List ShareRow
  fault : Option EngineFault := none

/-- Loads the yearly shares in an answer. -/
def Answer.load (m : Metric) (a : Answer) : Except LoadFault Loaded := do
  let points ← a.rows.mapM (ShareRow.point m)
  match a.fault with
  | some fault => throw (.brokenOff fault)
  | none => return ⟨.ofPoints points, points.length⟩

end ShareStreaks
