import ShareStreaks.Proofs.Streak.Ranking
import ShareStreaks.Selection

/-!
# Every term goes to the first threshold it meets

A selection passes a growing list of the terms that were given out from one threshold to the next,
and what a threshold is given depends on that list.  The law does not mention it: a threshold is
given its ranking without the terms that meet an earlier threshold (`TermTable.remaining`).

The two are tied together by the invariant `Selection.Claimed`: the terms given out so far are those
that meet one of the thresholds tried so far.  A round keeps it (`Selection.Claimed.append`), so it holds
before every threshold of a run, and at the end.
-/

set_option autoImplicit false

namespace ShareStreaks

/-- What a threshold has left to be given after the earlier ones: its ranking without the terms that
meet one of them. -/
def TermTable.remaining (table : TermTable) (earlier : List Threshold) (t : Threshold) :
    List Finding :=
  (table.ranking t).filter fun f => !earlier.any fun e => table.meets e f.term

def Outcome.terms (o : Outcome) : List String := o.findings.map Finding.term

/-- All the terms that outcomes hold, one after the other. -/
def termsOf (outcomes : List Outcome) : List String := outcomes.flatMap Outcome.terms

theorem totalFindings_eq_length_termsOf (outcomes : List Outcome) :
    totalFindings outcomes = (termsOf outcomes).length := by
  rw [totalFindings, termsOf, List.length_flatMap, List.length_flatMap]
  simp only [Outcome.terms, List.length_map]

theorem TermTable.mem_terms_remaining {table : TermTable} {earlier : List Threshold} {t : Threshold}
    {term : String} :
    term ∈ (table.remaining earlier t).map Finding.term ↔
      table.meets t term = true ∧ ∀ e ∈ earlier, table.meets e term = false := by
  have hnot (term : String) : (!earlier.any fun e => table.meets e term) = true ↔
      ∀ e ∈ earlier, table.meets e term = false := by
    rw [Bool.not_eq_true', List.any_eq_false]
    simp only [Bool.not_eq_true]
  rw [← mem_terms_ranking, List.mem_map, List.mem_map]
  constructor
  · rintro ⟨f, hf, rfl⟩
    obtain ⟨hf, hkeep⟩ := List.mem_filter.1 hf
    exact ⟨⟨f, hf, rfl⟩, (hnot _).1 hkeep⟩
  · rintro ⟨⟨f, hf, rfl⟩, hall⟩
    exact ⟨f, List.mem_filter.2 ⟨hf, (hnot _).2 hall⟩, rfl⟩

namespace Selection

variable {table : TermTable} {earlier : List Threshold} {seen : List String}

/-! ## The terms given out -/

/-- The terms given out are those that meet one of the thresholds tried. -/
def Claimed (table : TermTable) (tried : List Threshold) (seen : List String) : Prop :=
  ∀ term, term ∈ seen ↔ ∃ e ∈ tried, table.meets e term = true

theorem claimed_nil (table : TermTable) : Claimed table [] [] := by
  intro term
  simp

/-- Leaving out the terms given out is leaving out those that meet an earlier threshold. -/
theorem Claimed.fresh_eq (h : Claimed table earlier seen) (t : Threshold) :
    (table.ranking t).filter (fun f => !seen.contains f.term) = table.remaining earlier t := by
  rw [TermTable.remaining]
  refine List.filter_congr fun f _ => congrArg (!·) ?_
  rw [Bool.eq_iff_iff, List.contains_iff_mem, h f.term, List.any_eq_true]

/-- **A round keeps the invariant.** -/
theorem Claimed.append (h : Claimed table earlier seen) (t : Threshold) :
    Claimed table (earlier ++ [t]) (seen ++ (table.remaining earlier t).map Finding.term) := by
  intro term
  rw [List.mem_append, TermTable.mem_terms_remaining, h term]
  constructor
  · rintro (⟨e, he, hmeets⟩ | ⟨hmeets, -⟩)
    · exact ⟨e, List.mem_append_left _ he, hmeets⟩
    · exact ⟨t, by simp, hmeets⟩
  · rintro ⟨e, he, hmeets⟩
    by_cases hearlier : ∃ e ∈ earlier, table.meets e term = true
    · exact Or.inl hearlier
    · rcases List.mem_append.1 he with he | he
      · exact absurd ⟨e, he, hmeets⟩ hearlier
      · rw [List.mem_singleton.1 he] at hmeets
        refine Or.inr ⟨hmeets, fun e' he' => ?_⟩
        rw [← Bool.not_eq_true]
        exact fun hmeets' => hearlier ⟨e', he', hmeets'⟩

/-- The terms given out do not meet an earlier threshold, so none is given out again. -/
theorem Claimed.nodup_append (h : Claimed table earlier seen) (hnodup : seen.Nodup)
    (t : Threshold) : (seen ++ (table.remaining earlier t).map Finding.term).Nodup := by
  refine List.nodup_append.2 ⟨hnodup, ?_, ?_⟩
  · exact (table.nodup_terms_ranking t).sublist ((List.filter_sublist ..).map _)
  · rintro term hterm _ hfresh rfl
    obtain ⟨e, he, hmeets⟩ := (h term).1 hterm
    have hnot := (TermTable.mem_terms_remaining.1 hfresh).2 e he
    rw [hmeets] at hnot
    exact absurd hnot (by simp)

/-! ## Runs -/

theorem runFrom_cons (h : Claimed table earlier seen) (t : Threshold) (ts : List Threshold) :
    runFrom table seen (t :: ts) =
      let fresh := table.remaining earlier t
      let rest := runFrom table (seen ++ fresh.map Finding.term) ts
      ⟨⟨⟨t, fresh⟩, (table.ranking t).length⟩ :: rest.rounds, rest.seen⟩ := by
  rw [runFrom, h.fresh_eq t]

theorem runFrom_seen (h : Claimed table earlier seen) (ts : List Threshold) :
    (runFrom table seen ts).seen = seen ++ termsOf (runFrom table seen ts).outcomes := by
  induction ts generalizing earlier seen with
  | nil => simp [runFrom, outcomes, termsOf]
  | cons t ts ih =>
    rw [runFrom_cons h]
    simp only [outcomes, List.map_cons, termsOf, List.flatMap_cons]
    rw [ih (h.append t), List.append_assoc]
    rfl

theorem claimed_runFrom (h : Claimed table earlier seen) (ts : List Threshold) :
    Claimed table (earlier ++ ts) (runFrom table seen ts).seen := by
  induction ts generalizing earlier seen with
  | nil => rw [List.append_nil]; exact h
  | cons t ts ih =>
    rw [runFrom_cons h, List.append_cons]
    exact ih (h.append t)

theorem nodup_runFrom (h : Claimed table earlier seen) (hnodup : seen.Nodup) (ts : List Threshold) :
    (runFrom table seen ts).seen.Nodup := by
  induction ts generalizing earlier seen with
  | nil => exact hnodup
  | cons t ts ih =>
    rw [runFrom_cons h]
    exact ih (h.append t) (h.nodup_append hnodup t)

theorem getElem?_runFrom (h : Claimed table earlier seen) (ts : List Threshold) (i : Nat) :
    (runFrom table seen ts).outcomes[i]? =
      ts[i]?.map fun t => Outcome.mk t (table.remaining (earlier ++ ts.take i) t) := by
  induction ts generalizing earlier seen i with
  | nil => simp [runFrom, outcomes]
  | cons t ts ih =>
    rw [runFrom_cons h]
    cases i with
    | zero => simp [outcomes]
    | succ i =>
      simp only [outcomes, List.map_cons, List.getElem?_cons_succ, List.take_succ_cons]
      rw [List.append_cons]
      exact ih (h.append t) i

section run

variable (table : TermTable) (ts : List Threshold)

theorem run_seen : (run table ts).seen = termsOf (run table ts).outcomes :=
  runFrom_seen (claimed_nil table) ts

theorem nodup_termsOf_run : (termsOf (run table ts).outcomes).Nodup := by
  rw [← run_seen]
  exact nodup_runFrom (claimed_nil table) List.nodup_nil ts

theorem mem_termsOf_run {term : String} :
    term ∈ termsOf (run table ts).outcomes ↔ ∃ t ∈ ts, table.meets t term = true := by
  rw [← run_seen]
  exact claimed_runFrom (claimed_nil table) ts term

/-- What the threshold at an index is given. -/
theorem getElem?_run (i : Nat) :
    (run table ts).outcomes[i]? =
      ts[i]?.map fun t => Outcome.mk t (table.remaining (ts.take i) t) :=
  getElem?_runFrom (claimed_nil table) ts i

theorem getElem?_run_of_eq_some {i : Nat} {t : Threshold} (ht : ts[i]? = some t) :
    (run table ts).outcomes[i]? = some ⟨t, table.remaining (ts.take i) t⟩ := by
  rw [getElem?_run, ht, Option.map_some]

/-- The outcomes are those of the thresholds, in their order. -/
theorem map_threshold_run : (run table ts).outcomes.map Outcome.threshold = ts := by
  refine List.ext_getElem? fun i => ?_
  rw [List.getElem?_map, getElem?_run, Option.map_map]
  exact Option.map_id'

theorem mem_thresholds_run {o : Outcome} (h : o ∈ (run table ts).outcomes) : o.threshold ∈ ts := by
  rw [← map_threshold_run table ts]
  exact List.mem_map_of_mem h

/-- A threshold is given nothing if whatever meets it meets one that was there before. -/
theorem pairwise_meets_run :
    (run table ts).outcomes.Pairwise fun a b =>
      (∀ term, table.meets b.threshold term = true → table.meets a.threshold term = true) →
        b.findings = [] := by
  refine List.pairwise_iff_getElem.2 fun i j hi hj hij => ?_
  have hget {k : Nat} (hk : k < (run table ts).outcomes.length) :
      ∃ t, ts[k]? = some t ∧
        (run table ts).outcomes[k] = Outcome.mk t (table.remaining (ts.take k) t) := by
    have h := getElem?_run table ts k
    rw [List.getElem?_eq_getElem hk] at h
    obtain ⟨t, ht, ho⟩ := Option.map_eq_some_iff.1 h.symm
    exact ⟨t, ht, ho.symm⟩
  obtain ⟨a, ha, hoi⟩ := hget hi
  obtain ⟨b, -, hoj⟩ := hget hj
  rw [hoi, hoj]
  intro hab
  refine List.eq_nil_iff_forall_not_mem.2 fun f hf => ?_
  obtain ⟨hmeets, hearlier⟩ :=
    TermTable.mem_terms_remaining.1 (List.mem_map_of_mem (f := Finding.term) hf)
  have hmem : a ∈ ts.take j := by
    refine List.mem_of_getElem? (i := i) ?_
    rw [List.getElem?_take_of_lt hij, ha]
  have hnot := hearlier a hmem
  rw [hab _ hmeets] at hnot
  exact absurd hnot (by simp)

/-- A threshold that was there before is given nothing. -/
theorem pairwise_run :
    (run table ts).outcomes.Pairwise fun a b => a.threshold = b.threshold → b.findings = [] :=
  (pairwise_meets_run table ts).imp fun h hab => h fun _ hmeets => by rwa [hab]

/-- The terms of a run are, in another order, the terms of the table that meet a threshold. -/
theorem termsOf_run_perm :
    (termsOf (run table ts).outcomes).Perm
      ((table.entries.filter fun e => ts.any fun t => (e.2.streak? t).isSome).map Prod.fst) := by
  refine (List.perm_ext_iff_of_nodup (nodup_termsOf_run table ts) ?_).2 fun term => ?_
  · exact (OrderedTable.nodup_keys table).sublist ((List.filter_sublist ..).map _)
  · rw [mem_termsOf_run, List.mem_map]
    constructor
    · rintro ⟨t, ht, hmeets⟩
      obtain ⟨shares, b, hfind, hb⟩ := TermTable.meets_iff.1 hmeets
      refine ⟨(term, shares), List.mem_filter.2 ⟨OrderedTable.find?_eq_some_iff.1 hfind, ?_⟩, rfl⟩
      exact List.any_eq_true.2 ⟨t, ht, Option.isSome_iff_exists.2 ⟨b, hb⟩⟩
    · rintro ⟨e, he, rfl⟩
      obtain ⟨hmem, hany⟩ := List.mem_filter.1 he
      obtain ⟨t, ht, hsome⟩ := List.any_eq_true.1 hany
      exact ⟨t, ht, (TermTable.meets_of_mem hmem).trans hsome⟩

/-- **Every term goes to the first threshold it meets.**  There is one outcome for each threshold,
in their order.  It holds the ranking of its threshold, in the ranking's order and with its bounds,
without the terms that meet an earlier threshold.  So a term is in the outcome of the first
threshold that it meets and in no other, once, and the findings are as many as the terms that meet
any threshold. -/
theorem run_first_met :
    (run table ts).outcomes.length = ts.length ∧
    (∀ i, (run table ts).outcomes[i]? = ts[i]?.map fun t => Outcome.mk t
      ((table.ranking t).filter fun f => !(ts.take i).any fun e => table.meets e f.term)) ∧
    (∀ i term, (∃ o, (run table ts).outcomes[i]? = some o ∧ term ∈ o.terms) ↔
      (∃ t, ts[i]? = some t ∧ table.meets t term = true) ∧
        ∀ e ∈ ts.take i, table.meets e term = false) ∧
    (∀ term, (termsOf (run table ts).outcomes).count term =
      if ∃ t ∈ ts, table.meets t term = true then 1 else 0) ∧
    totalFindings (run table ts).outcomes =
      (table.entries.filter fun e => ts.any fun t => (e.2.streak? t).isSome).length := by
  refine ⟨?_, getElem?_run table ts, fun i term => ?_, fun term => ?_, ?_⟩
  · have hiff (i : Nat) : (run table ts).outcomes[i]? = none ↔ ts[i]? = none := by
      rw [getElem?_run, Option.map_eq_none_iff]
    simp only [List.getElem?_eq_none_iff] at hiff
    exact Nat.le_antisymm ((hiff _).2 (Nat.le_refl _)) ((hiff _).1 (Nat.le_refl _))
  · rw [getElem?_run]
    constructor
    · rintro ⟨o, ho, hterm⟩
      obtain ⟨t, ht, rfl⟩ := Option.map_eq_some_iff.1 ho
      obtain ⟨hmeets, hearlier⟩ := TermTable.mem_terms_remaining.1 hterm
      exact ⟨⟨t, ht, hmeets⟩, hearlier⟩
    · rintro ⟨⟨t, ht, hmeets⟩, hearlier⟩
      refine ⟨Outcome.mk t (table.remaining (ts.take i) t), by rw [ht, Option.map_some], ?_⟩
      exact TermTable.mem_terms_remaining.2 ⟨hmeets, hearlier⟩
  · rw [(nodup_termsOf_run table ts).count]
    simp only [mem_termsOf_run]
  · rw [totalFindings_eq_length_termsOf, (termsOf_run_perm table ts).length_eq, List.length_map]

end run
end Selection
end ShareStreaks
