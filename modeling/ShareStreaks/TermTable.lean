import ShareStreaks.Binary64.Basic
import ShareStreaks.OrderedTable

/-!
# Yearly shares

`YearShares` holds the shares of one term by year, ascending.  Years without data are absent, not zero;
asked for the share of an absent year, `YearShares.share` answers zero all the same.

`TermTable` holds the yearly shares of all terms, in the order of their code points, which is also the
order of their bytes in UTF-8.  A term may be there without any year.
-/

set_option autoImplicit false

namespace ShareStreaks

/-! ## One term -/

/-- The shares of a term by year. -/
abbrev YearShares := OrderedTable Int Binary64

namespace YearShares

/-- The shares in the order of their years. -/
def values (s : YearShares) : List Binary64 := s.entries.map Prod.snd

/-- The share of a year, zero if there is none. -/
def share (s : YearShares) (year : Int) : Binary64 := (s.find? year).getD .zero

/-- The same years with the same numbers as shares. -/
def same (s t : YearShares) : Bool :=
  s.keys == t.keys && (s.values.zip t.values).all fun (x, y) => x.sameNumber y

end YearShares

/-! ## All terms -/

/-- The yearly shares of each term. -/
abbrev TermTable := OrderedTable String YearShares

namespace TermTable

/-- Sets the share of a term in a year. -/
def record (t : TermTable) (term : String) (year : Int) (share : Binary64) : TermTable :=
  let before : YearShares := (t.find? term).getD .empty
  t.insert term (before.insert year share)

/-- The share of a term in a year, zero if there is none. -/
def share (t : TermTable) (term : String) (year : Int) : Binary64 :=
  match t.find? term with
  | some s => s.share year
  | none => .zero

/-- How many pairs of a term and a year have a share. -/
def pointCount (t : TermTable) : Nat := (t.entries.flatMap fun e => e.2.entries).length

/-- The first and the last year of any term. -/
def yearRange? (t : TermTable) : Option (Int × Int) := do
  let first ← (t.entries.filterMap fun e => e.2.firstKey?).min?
  let last ← (t.entries.filterMap fun e => e.2.lastKey?).max?
  return (first, last)

/-- The same terms with the same yearly shares, as numbers. -/
def same (s t : TermTable) : Bool :=
  s.keys == t.keys && (s.entries.zip t.entries).all fun (a, b) => a.2.same b.2

end TermTable
end ShareStreaks
