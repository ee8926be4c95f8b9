import ShareStreaks.Proofs.Selection.Shadowing

/-!
# Shadowed thresholds are redundant

Leaving out all the shadowed thresholds of a list at once changes nothing for the others
(`Selection.run_without_shadowed`).  This is more than leaving out one of them: a shadowed threshold
may itself be the one that covers another, and both go.

What carries the proof is `StandsFor`: of the thresholds tried so far, those that are kept cover all
of them.  Covering is transitive, so a threshold that is covered by one that was left out is covered
by one that is kept; and a term that meets a threshold meets what covers it, so the kept thresholds
claim the same terms.
-/

set_option autoImplicit false

namespace ShareStreaks

/-! ## Leaving entries out -/

section without

variable {α : Type}

/-- The entries whose indices, counted from `n` on, are not among the given ones. -/
def withoutFrom (is : List Nat) (n : Nat) (xs : List α) : List α :=
  ((xs.zipIdx n).filter fun p => !is.contains p.2).map Prod.fst

/-- The list without the entries at the given indices. -/
def without (is : List Nat) (xs : List α) : List α := withoutFrom is 0 xs

variable {is : List Nat} {n : Nat} {x : α} {xs : List α}

theorem withoutFrom_cons_of_mem (h : n ∈ is) :
    withoutFrom is n (x :: xs) = withoutFrom is (n + 1) xs := by
  simp [withoutFrom, h]

theorem withoutFrom_cons_of_notMem (h : n ∉ is) :
    withoutFrom is n (x :: xs) = x :: withoutFrom is (n + 1) xs := by
  simp [withoutFrom, h]

end without

/-! ## What is kept stands for all -/

theorem Threshold.covers_trans {a b c : Threshold} (hab : a.covers b = true)
    (hbc : b.covers c = true) : a.covers c = true := by
  rw [covers_iff] at hab hbc ⊢
  exact ⟨Binary64.le_trans hab.1 hbc.1, Nat.le_trans hab.2 hbc.2⟩

/-- The kept thresholds are some of those tried, and cover each of them. -/
structure StandsFor (kept tried : List Threshold) : Prop where
  subset : ∀ k ∈ kept, k ∈ tried
  covers : ∀ e ∈ tried, ∃ k ∈ kept, k.covers e = true

namespace StandsFor

variable {kept tried : List Threshold} {t : Threshold}

theorem nil : StandsFor [] [] := ⟨by simp, by simp⟩

theorem keep (h : StandsFor kept tried) (t : Threshold) : StandsFor (kept ++ [t]) (tried ++ [t]) := by
  refine ⟨fun k hk => ?_, fun e he => ?_⟩
  · rcases List.mem_append.1 hk with hk | hk
    · exact List.mem_append_left _ (h.subset k hk)
    · exact List.mem_append_right _ hk
  · rcases List.mem_append.1 he with he | he
    · obtain ⟨k, hk, hcovers⟩ := h.covers e he
      exact ⟨k, List.mem_append_left _ hk, hcovers⟩
    · rw [List.mem_singleton.1 he]
      exact ⟨t, by simp, t.covers_refl⟩

/-- A threshold that one of those tried covers need not be kept, even if that one was not kept. -/
theorem leaveOut (h : StandsFor kept tried) (ht : ∃ e ∈ tried, e.covers t = true) :
    StandsFor kept (tried ++ [t]) := by
  refine ⟨fun k hk => List.mem_append_left _ (h.subset k hk), fun e he => ?_⟩
  rcases List.mem_append.1 he with he | he
  · exact h.covers e he
  · obtain ⟨e', he', hcovers'⟩ := ht
    obtain ⟨k, hk, hcovers⟩ := h.covers e' he'
    rw [List.mem_singleton.1 he]
    exact ⟨k, hk, Threshold.covers_trans hcovers hcovers'⟩

/-- The kept thresholds claim the same terms. -/
theorem exists_meets_iff (h : StandsFor kept tried) {table : TermTable} {term : String} :
    (∃ k ∈ kept, table.meets k term = true) ↔ ∃ e ∈ tried, table.meets e term = true := by
  constructor
  · rintro ⟨k, hk, hmeets⟩
    exact ⟨k, h.subset k hk, hmeets⟩
  · rintro ⟨e, he, hmeets⟩
    obtain ⟨k, hk, hcovers⟩ := h.covers e he
    exact ⟨k, hk, Threshold.covers_meets hcovers hmeets⟩

/-- So the next threshold has the same left to be given. -/
theorem remaining_eq (h : StandsFor kept tried) (table : TermTable) (t : Threshold) :
    table.remaining kept t = table.remaining tried t := by
  rw [TermTable.remaining, TermTable.remaining]
  refine List.filter_congr fun f _ => congrArg (!·) ?_
  rw [Bool.eq_iff_iff, List.any_eq_true, List.any_eq_true]
  exact h.exists_meets_iff

end StandsFor

namespace Selection

variable {table : TermTable} {kept tried : List Threshold} {seen seen' : List String}

/-! ## Runs -/

/-- **What both runs do at every threshold.**  At the indices a threshold is left out that one of
those tried covers.  It is given nothing in the one run and does not occur in the other; at a
threshold that is kept both runs do the same. -/
theorem outcomes_runFrom_without (hs : StandsFor kept tried) (h : Claimed table tried seen)
    (h' : Claimed table kept seen') {is : List Nat} {n : Nat} {ts : List Threshold}
    (his : ∀ i t, ts[i]? = some t → (n + i ∈ is ↔ ∃ e ∈ tried ++ ts.take i, e.covers t = true)) :
    (runFrom table seen' (withoutFrom is n ts)).outcomes =
      withoutFrom is n (runFrom table seen ts).outcomes := by
  induction ts generalizing tried kept seen seen' n with
  | nil => rfl
  | cons t ts ih =>
    have hhead : n ∈ is ↔ ∃ e ∈ tried, e.covers t = true := by simpa using his 0 t rfl
    have htail : ∀ i u, ts[i]? = some u →
        (n + 1 + i ∈ is ↔ ∃ e ∈ tried ++ [t] ++ ts.take i, e.covers u = true) := by
      intro i u hu
      have hiff := his (i + 1) u hu
      rw [List.take_succ_cons, List.append_cons] at hiff
      rw [show n + 1 + i = n + (i + 1) by omega]
      exact hiff
    have hrest := h.append t
    rw [runFrom_cons h]
    by_cases hmem : n ∈ is
    · rw [withoutFrom_cons_of_mem hmem]
      simp only [outcomes, List.map_cons]
      rw [withoutFrom_cons_of_mem hmem]
      exact ih (hs.leaveOut (hhead.1 hmem)) hrest h' htail
    · rw [withoutFrom_cons_of_notMem hmem, runFrom_cons h', hs.remaining_eq]
      simp only [outcomes, List.map_cons]
      rw [withoutFrom_cons_of_notMem hmem]
      have hrest' := h'.append t
      rw [hs.remaining_eq] at hrest'
      exact congrArg _ (ih (hs.keep t) hrest hrest' htail)

/-- Leaving out outcomes without findings leaves out no finding. -/
theorem totalFindings_withoutFrom {is : List Nat} {n : Nat} {os : List Outcome}
    (h : ∀ i o, os[i]? = some o → n + i ∈ is → o.findings = []) :
    totalFindings (withoutFrom is n os) = totalFindings os := by
  induction os generalizing n with
  | nil => rfl
  | cons o os ih =>
    have htail : totalFindings (withoutFrom is (n + 1) os) = totalFindings os := by
      refine ih fun i o' ho' hi => h (i + 1) o' ho' ?_
      rw [show n + (i + 1) = n + 1 + i by omega]
      exact hi
    by_cases hmem : n ∈ is
    · rw [withoutFrom_cons_of_mem hmem, htail, totalFindings, totalFindings, List.flatMap_cons,
        h 0 o rfl hmem, List.nil_append]
    · rw [withoutFrom_cons_of_notMem hmem]
      simp only [totalFindings, List.flatMap_cons, List.length_append] at htail ⊢
      rw [htail]

/-- **Shadowed thresholds are redundant.**  Whatever the table is, leaving all of them out at once
leaves out their outcomes and changes no other one: the thresholds that are kept get the same terms
with the same bounds in the same order, and there are as many findings in all. -/
theorem run_without_shadowed (table : TermTable) (ts : List Threshold) :
    (run table (without (shadowed ts) ts)).outcomes =
      without (shadowed ts) (run table ts).outcomes ∧
    totalFindings (run table (without (shadowed ts) ts)).outcomes =
      totalFindings (run table ts).outcomes := by
  have hshadowed : ∀ i t, ts[i]? = some t →
      (0 + i ∈ shadowed ts ↔ ∃ e ∈ [] ++ ts.take i, e.covers t = true) := by
    intro i t ht
    rw [Nat.zero_add, List.nil_append, mem_shadowed_iff]
    refine ⟨fun ⟨u, hu, hcovered⟩ => ?_, fun hcovered => ⟨t, ht, hcovered⟩⟩
    rw [ht, Option.some_inj] at hu
    exact hu ▸ hcovered
  have houtcomes := outcomes_runFrom_without StandsFor.nil (claimed_nil table) (claimed_nil table)
    hshadowed
  refine ⟨houtcomes, ?_⟩
  rw [run, without, houtcomes]
  refine totalFindings_withoutFrom fun i o ho hi => ?_
  obtain ⟨t, ht, hcovered⟩ := mem_shadowed_iff.1 (Nat.zero_add i ▸ hi)
  have hrun := getElem?_run table ts i
  rw [run, ho, ht, Option.map_some, Option.some_inj] at hrun
  rw [hrun]
  exact TermTable.remaining_eq_nil hcovered

end Selection
end ShareStreaks
