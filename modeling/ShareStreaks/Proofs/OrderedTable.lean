import ShareStreaks.OrderedTable

/-!
# Looking things up in ordered tables

The keys of a table ascend (`pairwise_keys`), so that the first and the last of them bound the others.
They are all different, and `find?` answers with the one value that the table has for a key:
`find?_eq_some_iff` puts membership among the entries in the place of the search.  Setting the value of
a key changes the answer for that key alone (`find?_insert`).  Two tables look alike, what is seen of
their values being the same, if they have the same keys and look alike at each (`map_entries_eq_iff`).
-/

set_option autoImplicit false

namespace ShareStreaks

/-- The first element of a list in order is the one that comes before all others. -/
theorem head?_eq_some_iff_of_pairwise {α : Type} {r : α → α → Prop} {xs : List α}
    (hasymm : ∀ {x y}, r x y → ¬ r y x) (h : xs.Pairwise r) {x : α} :
    xs.head? = some x ↔ x ∈ xs ∧ ∀ y ∈ xs, y = x ∨ r x y := by
  cases xs with
  | nil => simp
  | cons first rest =>
    rw [List.pairwise_cons] at h
    rw [List.head?_cons, Option.some_inj]
    constructor
    · rintro rfl
      refine ⟨List.mem_cons_self, fun y hy => ?_⟩
      exact (List.mem_cons.1 hy).imp_right (h.1 y)
    · rintro ⟨hmem, hfirst⟩
      rcases hfirst first List.mem_cons_self with heq | hbefore
      · exact heq
      · rcases List.mem_cons.1 hmem with heq | hmem
        · exact heq.symm
        · exact absurd (h.1 x hmem) (hasymm hbefore)

namespace OrderedTable

section Keys

variable {κ ν : Type} [LT κ]

theorem pairwise_keys (t : OrderedTable κ ν) : t.keys.Pairwise (· < ·) :=
  List.pairwise_map.2 t.ascending

variable [LE κ] [Std.LawfulOrderLT κ]

theorem nodup_keys (t : OrderedTable κ ν) : t.keys.Nodup := by
  rw [List.nodup_iff_pairwise_ne]
  refine t.pairwise_keys.imp ?_
  intro a b hlt heq
  exact Std.lt_irrefl (heq ▸ hlt)

variable [Std.IsLinearOrder κ] {t : OrderedTable κ ν} {k : κ}

theorem firstKey?_eq_some_iff :
    t.firstKey? = some k ↔ k ∈ t.keys ∧ ∀ j ∈ t.keys, k ≤ j := by
  have hle {j : κ} : j = k ∨ k < j ↔ k ≤ j := by
    rw [Std.le_iff_lt_or_eq, or_comm, eq_comm]
  rw [firstKey?, head?_eq_some_iff_of_pairwise Std.not_gt_of_lt t.pairwise_keys]
  simp only [hle]

theorem lastKey?_eq_some_iff :
    t.lastKey? = some k ↔ k ∈ t.keys ∧ ∀ j ∈ t.keys, j ≤ k := by
  have hle {j : κ} : j = k ∨ j < k ↔ j ≤ k := by
    rw [Std.le_iff_lt_or_eq, or_comm]
  rw [lastKey?, List.getLast?_eq_head?_reverse,
    head?_eq_some_iff_of_pairwise Std.not_gt_of_lt (List.pairwise_reverse.2 t.pairwise_keys)]
  simp only [List.mem_reverse, hle]

end Keys

variable {κ ν : Type} [LT κ] [LE κ] [Std.LawfulOrderLT κ] [DecidableLT κ]

/-- Entries before the key are passed by both, and the search ends at the one that was set. -/
theorem findEntry_setEntry (k : κ) (v : ν) (es : List (κ × ν)) :
    findEntry k (setEntry k v es) = some v := by
  have hself : ¬ k < k := Std.lt_irrefl
  fun_induction setEntry k v es with
  | case1 => rw [findEntry, if_neg hself, if_neg hself]
  | case2 l w rest hlk ih => rw [findEntry, if_pos hlk, ih]
  | case3 l w rest hlk hkl => rw [findEntry, if_neg hself, if_neg hself]
  | case4 l w rest hlk hkl => rw [findEntry, if_neg hself, if_neg hself]

variable [Std.IsLinearOrder κ]

/-- In ascending entries a search does not stop before the key, nor pass it. -/
theorem findEntry_eq_some_iff {es : List (κ × ν)} (h : es.Pairwise (fun a b => a.1 < b.1)) {k : κ}
    {v : ν} : findEntry k es = some v ↔ (k, v) ∈ es := by
  fun_induction findEntry k es with
  | case1 => simp
  | case2 l w rest hlk ih =>
    rw [List.pairwise_cons] at h
    rw [ih h.2, List.mem_cons, Prod.mk.injEq]
    refine ⟨Or.inr, fun hor => hor.resolve_left ?_⟩
    rintro ⟨rfl, -⟩
    exact Std.lt_irrefl hlk
  | case3 l w rest hlk hkl =>
    refine ⟨fun hn => absurd hn (by simp), fun hmem => ?_⟩
    rcases List.mem_cons.1 hmem with he | hmem
    · rw [Prod.mk.injEq] at he
      exact absurd (he.1 ▸ hkl) Std.lt_irrefl
    · exact absurd (Std.lt_trans hkl ((List.pairwise_cons.1 h).1 _ hmem)) Std.lt_irrefl
  | case4 l w rest hlk hkl =>
    obtain rfl : k = l := Std.le_antisymm (Std.not_lt.1 hlk) (Std.not_lt.1 hkl)
    rw [Option.some_inj, List.mem_cons, Prod.mk.injEq]
    refine ⟨fun hw => Or.inl ⟨rfl, hw.symm⟩, fun hor => ?_⟩
    rcases hor with he | hmem
    · exact he.2.symm
    · exact absurd ((List.pairwise_cons.1 h).1 _ hmem) Std.lt_irrefl

theorem find?_eq_some_iff {t : OrderedTable κ ν} {k : κ} {v : ν} :
    t.find? k = some v ↔ (k, v) ∈ t.entries :=
  findEntry_eq_some_iff t.ascending

theorem findEntry_setEntry_of_ne {j k : κ} (hne : j ≠ k) (v : ν) {es : List (κ × ν)}
    (h : es.Pairwise (fun a b => a.1 < b.1)) : findEntry j (setEntry k v es) = findEntry j es := by
  have hiff {w : ν} : (j, w) ∈ setEntry k v es ↔ (j, w) ∈ es := by
    fun_induction setEntry k v es with grind
  refine Option.ext fun w => ?_
  rw [findEntry_eq_some_iff (pairwise_setEntry k v h), findEntry_eq_some_iff h, hiff]

theorem find?_insert [DecidableEq κ] (t : OrderedTable κ ν) (j k : κ) (v : ν) :
    (t.insert k v).find? j = if j = k then some v else t.find? j := by
  split
  · rename_i heq
    rw [heq]
    exact findEntry_setEntry k v t.entries
  · rename_i hne
    exact findEntry_setEntry_of_ne hne v t.ascending

theorem mem_keys_iff {t : OrderedTable κ ν} {k : κ} : k ∈ t.keys ↔ ∃ v, t.find? k = some v := by
  simp [keys, find?_eq_some_iff]

theorem mem_keys_insert [DecidableEq κ] {t : OrderedTable κ ν} {j k : κ} {v : ν} :
    j ∈ (t.insert k v).keys ↔ j = k ∨ j ∈ t.keys := by
  simp only [mem_keys_iff, find?_insert]
  by_cases h : j = k
  · simp [h]
  · simp [h]

/-- What is seen of the values is the same exactly if it is the same for every key. -/
theorem map_entries_eq_iff {μ : Type} (f : ν → μ) {s t : OrderedTable κ ν} :
    (s.entries.map fun e => (e.1, f e.2)) = (t.entries.map fun e => (e.1, f e.2)) ↔
      s.keys = t.keys ∧ ∀ k v w, s.find? k = some v → t.find? k = some w → f v = f w := by
  constructor
  · intro h
    have hkeys := congrArg (List.map Prod.fst) h
    rw [List.map_map, List.map_map] at hkeys
    refine ⟨hkeys, fun k v w hv hw => ?_⟩
    have hmem : (k, f v) ∈ t.entries.map fun e => (e.1, f e.2) := by
      rw [← h]
      exact List.mem_map.2 ⟨(k, v), find?_eq_some_iff.1 hv, rfl⟩
    obtain ⟨⟨k', w'⟩, hmem', heq⟩ := List.mem_map.1 hmem
    rw [Prod.mk.injEq] at heq
    obtain ⟨rfl, hvalue⟩ := heq
    rw [find?_eq_some_iff.2 hmem', Option.some_inj] at hw
    rw [← hvalue, hw]
  · rintro ⟨hkeys, hvalues⟩
    have hlength : s.entries.length = t.entries.length := by
      simpa [keys] using congrArg List.length hkeys
    refine List.ext_getElem (by simpa using hlength) fun i hi hi' => ?_
    rw [List.getElem_map, List.getElem_map]
    have hs : i < s.entries.length := by simpa using hi
    have ht : i < t.entries.length := by simpa using hi'
    have hkey : s.entries[i].1 = t.entries[i].1 := by
      simpa [keys, hs, ht] using congrArg (·[i]?) hkeys
    have hfind : s.find? s.entries[i].1 = some s.entries[i].2 :=
      find?_eq_some_iff.2 (List.getElem_mem hs)
    have hfind' : t.find? s.entries[i].1 = some t.entries[i].2 := by
      rw [hkey]
      exact find?_eq_some_iff.2 (List.getElem_mem ht)
    rw [hvalues _ _ _ hfind hfind', hkey]

end OrderedTable
end ShareStreaks
