import ShareStreaks.TermTable
import ShareStreaks.Threshold.Basic

/-!
# Streaks

A streak is a run of neighbouring shares that all meet a threshold.  Neighbours are taken among the
years that a term has: a year without data does not break a streak.

`YearShares.streak?` goes through the shares once and stops as soon as a streak is long enough, with
the least and the greatest share of the streak up to there.  `TermTable.ranking` does this for every
term of a table and puts the terms with the greatest minimum first, terms with the same minimum staying
in the order of the table.
-/

set_option autoImplicit false

namespace ShareStreaks

/-- The least and the greatest share of a streak. -/
structure Bounds where
  least : Binary64
  greatest : Binary64
deriving DecidableEq

/-- A streak that is still going on. -/
structure Streak where
  length : Nat
  bounds : Bounds
deriving DecidableEq

/-- A streak, or the beginning of one, with one more share. -/
def Streak.extend : Option Streak → Binary64 → Streak
  | none, share => ⟨1, share, share⟩
  | some ⟨length, least, greatest⟩, share =>
    ⟨length + 1, least.least share, greatest.greatest share⟩

/-- The bounds of the first streak that is long enough, after the streak that is going on. -/
def streakFrom (t : Threshold) : Option Streak → List Binary64 → Option Bounds
  | _, [] => none
  | current, share :: shares =>
    if t.minShare ≤ share then
      let streak := Streak.extend current share
      if t.years ≤ streak.length then some streak.bounds
      else streakFrom t (some streak) shares
    else streakFrom t none shares

/-- The bounds of the first streak that is long enough for the threshold. -/
def YearShares.streak? (s : YearShares) (t : Threshold) : Option Bounds := streakFrom t none s.values

/-- A term that meets a threshold, with the bounds of its first streak. -/
structure Finding where
  term : String
  bounds : Bounds
deriving DecidableEq

/-- The order of findings: the greater minimum first. -/
def Finding.before (a b : Finding) : Bool := decide (b.bounds.least.rank ≤ a.bounds.least.rank)

namespace TermTable

/-- The terms that meet the threshold, in the order of the table. -/
def findings (table : TermTable) (t : Threshold) : List Finding :=
  table.entries.filterMap fun (term, shares) => (shares.streak? t).map fun b => ⟨term, b⟩

/-- The terms that meet the threshold, the greatest minimum first. -/
def ranking (table : TermTable) (t : Threshold) : List Finding :=
  (table.findings t).mergeSort Finding.before

end TermTable
end ShareStreaks
