import ShareStreaks.Tables.Cell

/-!
# Affinities

A column of a database has an *affinity*: what it makes of a value that is put into it, and of a value
that is compared with it.  It follows from the words of the column's type.  `Affinity.applied` says what a
column stores, and `Affinity.equal` and `Affinity.exceeds` compare under an affinity: of numbers and texts
that meet in a comparison, one kind is first turned into the other.
-/

set_option autoImplicit false

namespace ShareStreaks

inductive Affinity where
  /-- Takes everything as it is. -/
  | none
  | text
  | numeric
  | integer
  | real
deriving DecidableEq

namespace Affinity

/-- The characters `part` stand somewhere in a text. -/
def occurs (part : List Char) : List Char → Bool
  | [] => part.isEmpty
  | c :: cs => part.isPrefixOf (c :: cs) || occurs part cs

/-- The affinity of a column by the words of its type. -/
def ofType (type : String) : Affinity :=
  let cs := type.toList.map Char.toLower
  let has (part : String) : Bool := occurs part.toList cs
  if cs.isEmpty then .none
  else if has "int" then .integer
  else if has "char" || has "clob" || has "text" then .text
  else if has "blob" then .none
  else if has "real" || has "floa" || has "doub" then .real
  else .numeric

def isNumeric : Affinity → Bool
  | .numeric | .integer | .real => true
  | .none | .text => false

/-- What a column makes of a cell. -/
def applied : Affinity → Cell → Cell
  | .none, c => c
  | .text, c => c.asText
  | .numeric, c | .integer, c => c.asInteger
  | .real, c =>
    match c.asInteger with
    | .integer n => .real (.ofInt n)
    | c => c

/-- The affinity under which two columns are compared. -/
def common (a b : Affinity) : Affinity := if a.isNumeric || b.isNumeric then .numeric else .none

/-- Two cells as they meet in a comparison. -/
def meeting (a : Affinity) (x y : Cell) : Cell × Cell :=
  if a.isNumeric then (x.asNumber, y.asNumber)
  else if a = .text && (x.isText || y.isText) then (x.asText, y.asText)
  else (x, y)

def equal (a : Affinity) (x y : Cell) : Bool :=
  let (x, y) := a.meeting x y
  x.equals y

/-- The first cell comes after the second. -/
def exceeds (a : Affinity) (x y : Cell) : Bool :=
  let (x, y) := a.meeting x y
  x.after y

end Affinity
end ShareStreaks
