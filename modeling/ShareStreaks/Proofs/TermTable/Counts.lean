import Mathlib.Data.List.Nodup
import Mathlib.Order.Bounds.Basic
import ShareStreaks.Proofs.TermTable

/-!
# What a table tells about its points

Everything that is asked of a table as a whole is a question about its points.  Going through the entries
meets each point once (`mem_pairs`, `nodup_pairs`), so they are counted right.  The years of one term
ascend, so its first and last year bound the others, and the least of the first years and the greatest of
the last years bound those of all terms (`yearRange?_eq_some_iff`).  Terms that have no year add nothing
to either.
-/

set_option autoImplicit false

namespace ShareStreaks

namespace TermTable

variable {table : TermTable}

/-! ## Points -/

theorem point?_eq_some_iff {term : String} {year : Int} {share : Binary64} :
    table.point? term year = some share ↔
      ∃ shares, (term, shares) ∈ table.entries ∧ (year, share) ∈ shares.entries := by
  simp only [point?, Option.bind_eq_some_iff, OrderedTable.find?_eq_some_iff]

theorem isSome_point?_iff {term : String} {year : Int} :
    (table.point? term year).isSome ↔
      ∃ shares, (term, shares) ∈ table.entries ∧ year ∈ shares.keys := by
  rw [Option.isSome_iff_exists]
  simp only [point?_eq_some_iff, OrderedTable.mem_keys_iff, OrderedTable.find?_eq_some_iff]
  constructor
  · rintro ⟨share, shares, hterm, hyear⟩
    exact ⟨shares, hterm, share, hyear⟩
  · rintro ⟨shares, hterm, share, hyear⟩
    exact ⟨share, shares, hterm, hyear⟩

/-- Asked for a share that is not there, a table answers zero. -/
theorem share_eq (table : TermTable) (term : String) (year : Int) :
    table.share term year = (table.point? term year).getD .zero := by
  rw [share, point?]
  cases table.find? term with
  | none => rfl
  | some shares => rfl

/-! ## Counting -/

/-- The terms and years that have a share, in the order of the table. -/
def pairs (table : TermTable) : List (String × Int) :=
  table.entries.flatMap fun e => e.2.keys.map fun year => (e.1, year)

theorem mem_pairs {term : String} {year : Int} :
    (term, year) ∈ table.pairs ↔ (table.point? term year).isSome := by
  rw [isSome_point?_iff, pairs, List.mem_flatMap]
  simp only [List.mem_map, Prod.mk.injEq]
  constructor
  · rintro ⟨e, he, year, hyear, rfl, rfl⟩
    exact ⟨e.2, he, hyear⟩
  · rintro ⟨shares, hterm, hyear⟩
    exact ⟨(term, shares), hterm, year, hyear, rfl, rfl⟩

theorem nodup_pairs (table : TermTable) : table.pairs.Nodup := by
  refine List.nodup_flatMap.2 ⟨fun e _ => ?_, table.ascending.imp fun {a b} hlt => ?_⟩
  · exact e.2.nodup_keys.map fun _ _ heq => (Prod.mk.inj heq).2
  · intro pair ha hb
    obtain ⟨_, -, rfl⟩ := List.mem_map.1 ha
    obtain ⟨_, -, heq⟩ := List.mem_map.1 hb
    exact Std.lt_irrefl ((Prod.mk.inj heq).1 ▸ hlt)

theorem pointCount_eq (table : TermTable) : table.pointCount = table.pairs.length := by
  rw [pointCount, pairs, List.length_flatMap, List.length_flatMap]
  simp only [OrderedTable.keys, List.length_map]

/-! ## The range of the years -/

/-- The years in which any term has a share. -/
def years (table : TermTable) : Set Int :=
  {year | ∃ term, (table.point? term year).isSome}

theorem mem_years {year : Int} :
    year ∈ table.years ↔ ∃ e ∈ table.entries, year ∈ e.2.keys := by
  rw [years, Set.mem_ofPred_eq]
  simp only [isSome_point?_iff]
  constructor
  · rintro ⟨term, shares, hterm, hyear⟩
    exact ⟨(term, shares), hterm, hyear⟩
  · rintro ⟨e, he, hyear⟩
    exact ⟨e.1, e.2, he, hyear⟩

/-- What bounds the years of each term that has any bounds all years, if `end?` is the bound of one term
in the sense of `r`. -/
theorem extreme_iff {r : Int → Int → Prop} [IsTrans Int r] {end? : YearShares → Option Int}
    (hend : ∀ shares year, end? shares = some year ↔
      year ∈ shares.keys ∧ ∀ other ∈ shares.keys, r year other)
    (hsome : ∀ shares, shares.keys ≠ [] → (end? shares).isSome) {year : Int} :
    (year ∈ table.entries.filterMap (fun e => end? e.2) ∧
      ∀ other ∈ table.entries.filterMap (fun e => end? e.2), r year other) ↔
    year ∈ table.years ∧ ∀ other ∈ table.years, r year other := by
  have hmem {y : Int} : y ∈ table.entries.filterMap (fun e => end? e.2) ↔
      ∃ e ∈ table.entries, y ∈ e.2.keys ∧ ∀ other ∈ e.2.keys, r y other := by
    simp only [List.mem_filterMap, hend]
  rw [hmem]
  constructor
  · rintro ⟨⟨e, he, hyear, -⟩, hall⟩
    refine ⟨mem_years.2 ⟨e, he, hyear⟩, fun other hother => ?_⟩
    obtain ⟨e', he', hother⟩ := mem_years.1 hother
    -- the term has a bound of its own, which lies between the two years
    obtain ⟨bound, hbound⟩ :=
      Option.isSome_iff_exists.1 (hsome e'.2 (List.ne_nil_of_mem hother))
    have hbound' := (hend e'.2 bound).1 hbound
    exact IsTrans.trans _ _ _ (hall bound (hmem.2 ⟨e', he', hbound'⟩)) (hbound'.2 other hother)
  · rintro ⟨hyear, hall⟩
    obtain ⟨e, he, hyear⟩ := mem_years.1 hyear
    refine ⟨⟨e, he, hyear, fun other hother => hall other (mem_years.2 ⟨e, he, hother⟩)⟩, ?_⟩
    intro other hother
    obtain ⟨e', he', hother, -⟩ := hmem.1 hother
    exact hall other (mem_years.2 ⟨e', he', hother⟩)

/-- **The range of the years goes from the least to the greatest year of any term.** -/
theorem yearRange?_eq_some_iff {first last : Int} :
    table.yearRange? = some (first, last) ↔
      IsLeast table.years first ∧ IsGreatest table.years last := by
  have hfirst : (table.entries.filterMap fun e => e.2.firstKey?).min? = some first ↔
      IsLeast table.years first := by
    rw [List.min?_eq_some_iff]
    exact extreme_iff (r := (· ≤ ·)) (fun _ _ => OrderedTable.firstKey?_eq_some_iff)
      (fun _ hne => List.isSome_head?.2 hne)
  have hlast : (table.entries.filterMap fun e => e.2.lastKey?).max? = some last ↔
      IsGreatest table.years last := by
    rw [List.max?_eq_some_iff]
    exact extreme_iff (r := (· ≥ ·)) (fun _ _ => OrderedTable.lastKey?_eq_some_iff)
      (fun _ hne => List.getLast?_isSome.2 hne)
  rw [← hfirst, ← hlast, yearRange?]
  simp only [bind, pure, Option.bind_eq_some_iff, Option.some_inj, Prod.mk.injEq]
  constructor
  · rintro ⟨_, hmin, _, hmax, rfl, rfl⟩
    exact ⟨hmin, hmax⟩
  · rintro ⟨hmin, hmax⟩
    exact ⟨first, hmin, last, hmax, rfl, rfl⟩

/-- Terms without a year do not make a range. -/
theorem yearRange?_eq_none_iff : table.yearRange? = none ↔ table.pointCount = 0 := by
  rw [pointCount_eq, List.length_eq_zero_iff, List.eq_nil_iff_forall_not_mem]
  constructor
  · rintro hnone ⟨term, year⟩ hmem
    obtain ⟨shares, hterm, hyear⟩ := isSome_point?_iff.1 (mem_pairs.1 hmem)
    have hkeys := List.ne_nil_of_mem hyear
    obtain ⟨first, hfirst⟩ := Option.isSome_iff_exists.1 (List.isSome_head?.2 hkeys)
    obtain ⟨last, hlast⟩ := Option.isSome_iff_exists.1 (List.getLast?_isSome.2 hkeys)
    have hmin : ((table.entries.filterMap fun e => e.2.firstKey?).min?).isSome :=
      List.isSome_min?_of_mem (List.mem_filterMap.2 ⟨_, hterm, hfirst⟩)
    have hmax : ((table.entries.filterMap fun e => e.2.lastKey?).max?).isSome :=
      List.isSome_max?_of_mem (List.mem_filterMap.2 ⟨_, hterm, hlast⟩)
    obtain ⟨_, hmin⟩ := Option.isSome_iff_exists.1 hmin
    obtain ⟨_, hmax⟩ := Option.isSome_iff_exists.1 hmax
    simp [yearRange?, hmin, hmax] at hnone
  · intro hnone
    rw [Option.eq_none_iff_forall_ne_some]
    rintro ⟨first, last⟩ hrange
    obtain ⟨term, hpoint⟩ := (yearRange?_eq_some_iff.1 hrange).1.1
    exact hnone (term, first) (mem_pairs.2 hpoint)

end TermTable
end ShareStreaks
