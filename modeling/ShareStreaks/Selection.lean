import ShareStreaks.Streak

/-!
# Selecting terms by several thresholds

Thresholds are tried one after the other, from the strictest to the most lenient as a rule, and each
term goes to the first threshold that it meets.  A `Round` is one threshold's turn; a `Selection` is
all rounds together with the terms that were given out.

A threshold that comes after one asking for no more can never get a term: `shadowings` lists these
thresholds, each with the first earlier one that covers it.
-/

set_option autoImplicit false

namespace ShareStreaks

/-- A threshold with the findings it was given. -/
structure Outcome where
  threshold : Threshold
  findings : List Finding
deriving DecidableEq

/-- A threshold's turn: what it was given, and how many terms meet it in all. -/
structure Round where
  outcome : Outcome
  qualifying : Nat
deriving DecidableEq

structure Selection where
  rounds : List Round
  /-- The terms given out, in the order in which they were. -/
  seen : List String
deriving DecidableEq

namespace Selection

/-- The rounds of the thresholds, after the terms in `seen` were given out. -/
def runFrom (table : TermTable) : List String → List Threshold → Selection
  | seen, [] => ⟨[], seen⟩
  | seen, t :: ts =>
    let found := table.ranking t
    let fresh := found.filter fun f => !seen.contains f.term
    let rest := runFrom table (seen ++ fresh.map Finding.term) ts
    ⟨⟨⟨t, fresh⟩, found.length⟩ :: rest.rounds, rest.seen⟩

/-- Gives every term of the table to the first threshold that it meets. -/
def run (table : TermTable) (ts : List Threshold) : Selection := runFrom table [] ts

def outcomes (s : Selection) : List Outcome := s.rounds.map Round.outcome

end Selection

/-- How many findings there are in all. -/
def totalFindings (outcomes : List Outcome) : Nat := (outcomes.flatMap Outcome.findings).length

/-- The findings of the first outcome whose threshold is the same as the given one. -/
def findingsFor (outcomes : List Outcome) (t : Threshold) : Option (List Finding) :=
  (outcomes.find? fun o => o.threshold.same t).map Outcome.findings

/-! ## Thresholds that cannot get a term -/

/-- The threshold at an index is covered by an earlier one. -/
structure Shadowing where
  index : Nat
  threshold : Threshold
  coveredBy : Threshold
deriving DecidableEq

/-- The thresholds that an earlier one covers, `earlier` being those before the list. -/
def shadowingsAfter (earlier : List Threshold) : List Threshold → List Shadowing
  | [] => []
  | t :: ts =>
    let rest := shadowingsAfter (earlier ++ [t]) ts
    match earlier.find? fun e => e.covers t with
    | some e => ⟨earlier.length, t, e⟩ :: rest
    | none => rest

def shadowings (ts : List Threshold) : List Shadowing := shadowingsAfter [] ts

/-- The indices of the thresholds that an earlier one covers. -/
def shadowed (ts : List Threshold) : List Nat := (shadowings ts).map Shadowing.index

end ShareStreaks
