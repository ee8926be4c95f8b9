import ShareStreaks.Proofs.Selection.FirstMet
import ShareStreaks.Proofs.Streak.Order

/-!
# Terms do not interfere

All terms of a table are ranked together and share one list of the terms that were given out, and still
what a run tells about a term depends on the shares of this term alone.

Tables that agree on some of the terms (`TermTable.AgreesOn`) rank the same findings for these, and rank
them in the same order, because where two findings stand to each other is settled by the two
(`TermTable.pairwise_ranking`).  Whether a term was given out before is a question of the term's own
shares as well (`TermTable.mem_terms_remaining`).  So the outcomes are the same once the findings of all
other terms are left out (`Selection.run_of_agreesOn`), though the lists they are taken from differ in
length at every threshold.
-/

set_option autoImplicit false

namespace ShareStreaks

/-- The tables have the same shares for each term that `p` picks out. -/
def TermTable.AgreesOn (p : String → Bool) (a b : TermTable) : Prop :=
  ∀ term, p term = true → a.find? term = b.find? term

/-- An outcome without the findings of terms that `p` does not pick out. -/
def Outcome.about (p : String → Bool) (o : Outcome) : Outcome :=
  { o with findings := o.findings.filter fun f => p f.term }

namespace TermTable

variable {p : String → Bool} {a b : TermTable}

/-- Setting the shares of a term leaves all others as they are. -/
theorem agreesOn_insert (table : TermTable) (term : String) (shares : YearShares) :
    AgreesOn (· != term) (table.insert term shares) table := by
  intro other hother
  rw [OrderedTable.find?_insert, if_neg (bne_iff_ne.1 hother)]

namespace AgreesOn

theorem meets_eq (h : AgreesOn p a b) (t : Threshold) {term : String} (hp : p term = true) :
    a.meets t term = b.meets t term := by
  rw [meets, meets, h term hp]

/-- Both sides are in order and have the same members. -/
theorem ranking_eq (h : AgreesOn p a b) (t : Threshold) :
    ((a.ranking t).filter fun f => p f.term) = (b.ranking t).filter fun f => p f.term := by
  refine List.Pairwise.eq_of_mem_iff ((pairwise_ranking a t).filter _)
    ((pairwise_ranking b t).filter _) fun f => ?_
  rw [List.mem_filter, List.mem_filter, mem_ranking, mem_ranking]
  refine and_congr_left fun hp => ?_
  rw [h f.term hp]

theorem remaining_eq (h : AgreesOn p a b) (earlier : List Threshold) (t : Threshold) :
    ((a.remaining earlier t).filter fun f => p f.term) =
      (b.remaining earlier t).filter fun f => p f.term := by
  have hcomm (table : TermTable) : ((table.remaining earlier t).filter fun f => p f.term) =
      ((table.ranking t).filter fun f => p f.term).filter
        fun f => !earlier.any fun e => table.meets e f.term := by
    rw [remaining, List.filter_comm]
  rw [hcomm, hcomm, h.ranking_eq t]
  -- what is left are findings the tables agree on, so the same of them were given out before
  refine List.filter_congr fun f hf => congrArg (!·) ?_
  have hp : p f.term = true := (List.mem_filter.1 hf).2
  simp only [h.meets_eq _ hp]

end AgreesOn
end TermTable

namespace Selection

/-- **What is told about a term depends on its shares alone.** -/
theorem run_of_agreesOn {p : String → Bool} {a b : TermTable} (h : a.AgreesOn p b)
    (ts : List Threshold) :
    (run a ts).outcomes.map (Outcome.about p) = (run b ts).outcomes.map (Outcome.about p) := by
  refine List.ext_getElem? fun i => ?_
  rw [List.getElem?_map, List.getElem?_map, getElem?_run, getElem?_run]
  cases ts[i]? with
  | none => rfl
  | some t =>
    simp only [Option.map_some, Outcome.about]
    rw [h.remaining_eq]

/-- **Terms do not interfere.**  Whatever the shares of a term are replaced by, or if the term is new,
all that a run tells about the other terms stays as it was: every one of them is in the outcome of the
same threshold, with the same bounds, and behind and before the same others. -/
theorem run_insert (table : TermTable) (term : String) (shares : YearShares) (ts : List Threshold) :
    (run (table.insert term shares) ts).outcomes.map (Outcome.about (· != term)) =
      (run table ts).outcomes.map (Outcome.about (· != term)) :=
  run_of_agreesOn (table.agreesOn_insert term shares) ts

end Selection
end ShareStreaks
