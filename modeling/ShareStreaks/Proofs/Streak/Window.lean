import ShareStreaks.Proofs.Binary64.Order
import ShareStreaks.Streak

/-!
# The window of a streak

The scan for a streak goes through the shares once, with a counter and two running bounds.  What it
looks for can be said without any of them: a *window* of as many neighbouring shares as the
threshold has years, all of which meet it.

* `Threshold.MetFrom` says that the window at an index is there and meets the threshold.
* `Threshold.Answers` is what a scan has to find: nothing if no window meets the threshold, and the
  bounds of the first one that does otherwise.
* `streakFrom_answers` is the scan's invariant, `streak?_answers` its result for the shares of a
  term.

The first window that meets a threshold begins with the first share or just after one that fails
(`Threshold.MetFrom.pred_fails`), so nothing of an earlier streak is left in the bounds.
-/

set_option autoImplicit false

namespace ShareStreaks

/-! ## Windows -/

/-- From the index on there are shares for all the years of the threshold, and each one meets it. -/
def Threshold.MetFrom (t : Threshold) (shares : List Binary64) (i : Nat) : Prop :=
  ∀ j < t.years, ∃ v, shares[i + j]? = some v ∧ t.minShare ≤ v

/-- So many shares from the index on. -/
def window (shares : List Binary64) (i years : Nat) : List Binary64 := (shares.drop i).take years

theorem mem_window {shares : List Binary64} {i years : Nat} {v : Binary64} :
    v ∈ window shares i years ↔ ∃ j < years, shares[i + j]? = some v := by
  rw [window, List.mem_iff_getElem?]
  simp only [List.getElem?_take, List.getElem?_drop]
  refine exists_congr fun j => ?_
  split
  · rename_i h; simp [h]
  · rename_i h; simp [h]

namespace Threshold

variable {t : Threshold} {shares : List Binary64} {i : Nat}

theorem MetFrom.add_years_le (h : t.MetFrom shares i) : i + t.years ≤ shares.length := by
  have hpos := t.years_pos
  obtain ⟨v, hv, -⟩ := h (t.years - 1) (by omega)
  have hlt := (List.getElem?_eq_some_iff.1 hv).1
  omega

theorem MetFrom.length_window (h : t.MetFrom shares i) :
    (window shares i t.years).length = t.years := by
  have hle := h.add_years_le
  rw [window, List.length_take, List.length_drop]
  omega

theorem MetFrom.le_of_mem_window (h : t.MetFrom shares i) {v : Binary64}
    (hv : v ∈ window shares i t.years) : t.minShare ≤ v := by
  obtain ⟨j, hj, hget⟩ := mem_window.1 hv
  obtain ⟨w, hw, hle⟩ := h j hj
  rw [hget, Option.some_inj] at hw
  exact hw ▸ hle

/-- Just before the first window that meets the threshold stands a share that does not. -/
theorem MetFrom.pred_fails (h : t.MetFrom shares (i + 1)) (hfirst : ¬ t.MetFrom shares i) :
    ∃ v, shares[i]? = some v ∧ ¬ t.minShare ≤ v := by
  have hle := h.add_years_le
  have hi : i < shares.length := by have := t.years_pos; omega
  obtain ⟨v, hv⟩ : ∃ v, shares[i]? = some v := ⟨shares[i], List.getElem?_eq_getElem hi⟩
  refine ⟨v, hv, fun hmeets => hfirst fun j hj => ?_⟩
  cases j with
  | zero => exact ⟨v, hv, hmeets⟩
  | succ j =>
    obtain ⟨w, hw, hmeets'⟩ := h j (by omega)
    exact ⟨w, by rw [← hw]; congr 1; omega, hmeets'⟩

/-- A window of too few shares meets nothing. -/
theorem not_metFrom_of_length_lt (h : shares.length < t.years) : ¬ t.MetFrom shares i := by
  intro hmet
  have hle := hmet.add_years_le
  omega

/-- Where a share fails, the windows that meet the threshold are those after it, as long as there is
no room for one before it. -/
theorem metFrom_append_cons_iff {run rest : List Binary64} {v : Binary64}
    (hrun : run.length < t.years) (hv : ¬ t.minShare ≤ v) :
    t.MetFrom (run ++ v :: rest) i ↔ ∃ k, i = run.length + 1 + k ∧ t.MetFrom rest k := by
  have hshift (k j : Nat) :
      (run ++ v :: rest)[run.length + 1 + k + j]? = rest[k + j]? := by
    rw [List.getElem?_append_right (by omega),
      show run.length + 1 + k + j - run.length = (k + j) + 1 by omega, List.getElem?_cons_succ]
  constructor
  · intro h
    rcases Nat.lt_or_ge run.length i with hlt | hge
    · obtain ⟨k, rfl⟩ : ∃ k, i = run.length + 1 + k := ⟨i - (run.length + 1), by omega⟩
      refine ⟨k, rfl, fun j hj => ?_⟩
      rw [← hshift k j]
      exact h j hj
    -- a window that begins before the failing share holds it
    · obtain ⟨w, hw, hmeets⟩ := h (run.length - i) (by omega)
      rw [show i + (run.length - i) = run.length by omega, List.getElem?_append_right (by omega),
        Nat.sub_self, List.getElem?_cons_zero, Option.some_inj] at hw
      exact absurd (hw ▸ hmeets) hv
  · rintro ⟨k, rfl, h⟩ j hj
    rw [hshift k j]
    exact h j hj

end Threshold

/-! ## Bounds -/

/-- The bounds are the least and the greatest of the shares, and both are among them. -/
structure Bounds.Of (b : Bounds) (shares : List Binary64) : Prop where
  least_mem : b.least ∈ shares
  least_le : ∀ v ∈ shares, b.least ≤ v
  greatest_mem : b.greatest ∈ shares
  le_greatest : ∀ v ∈ shares, v ≤ b.greatest

theorem Bounds.of_singleton {v : Binary64} (h : v.isNaN = false) : Bounds.Of ⟨v, v⟩ [v] := by
  constructor <;> simp [Binary64.le_refl h]

theorem Bounds.Of.snoc {b : Bounds} {shares : List Binary64} (h : b.Of shares) {v : Binary64}
    (hv : v.isNaN = false) :
    Bounds.Of ⟨b.least.least v, b.greatest.greatest v⟩ (shares ++ [v]) := by
  have hleast : b.least.isNaN = false := (h.least_le _ h.least_mem).1
  have hgreatest : b.greatest.isNaN = false := (h.le_greatest _ h.greatest_mem).1
  constructor
  · rcases Binary64.least_eq_or b.least v with he | he <;> rw [he]
    · exact List.mem_append_left _ h.least_mem
    · simp
  · intro w hw
    rcases List.mem_append.1 hw with hw | hw
    · exact Binary64.le_trans (Binary64.least_le_left hleast) (h.least_le w hw)
    · rw [List.mem_singleton.1 hw]
      exact Binary64.least_le_right hleast hv
  · rcases Binary64.greatest_eq_or b.greatest v with he | he <;> rw [he]
    · exact List.mem_append_left _ h.greatest_mem
    · simp
  · intro w hw
    rcases List.mem_append.1 hw with hw | hw
    · exact Binary64.le_trans (h.le_greatest w hw) (Binary64.left_le_greatest hgreatest)
    · rw [List.mem_singleton.1 hw]
      exact Binary64.right_le_greatest hgreatest hv

/-- Shares that do not hold both zeros have one least and one greatest, bit for bit. -/
theorem Bounds.Of.eq {b c : Bounds} {shares : List Binary64} (hb : b.Of shares) (hc : c.Of shares)
    (hz : ¬ (Binary64.zero ∈ shares ∧ Binary64.zero.negated ∈ shares)) : b = c := by
  have hsame {x y : Binary64} (hx : x ∈ shares) (hy : y ∈ shares) (hxy : x ≤ y) (hyx : y ≤ x) :
      x = y := by
    cases hx0 : x.isZero with
    | false => exact Binary64.eq_of_le_of_le hxy hyx hx0
    | true =>
      cases hy0 : y.isZero with
      | false => exact (Binary64.eq_of_le_of_le hyx hxy hy0).symm
      | true =>
        rcases Binary64.eq_zero_or_of_isZero hx0 with rfl | rfl <;>
          rcases Binary64.eq_zero_or_of_isZero hy0 with rfl | rfl
        · rfl
        · exact absurd ⟨hx, hy⟩ hz
        · exact absurd ⟨hy, hx⟩ hz
        · rfl
  obtain ⟨bl, bg⟩ := b
  obtain ⟨cl, cg⟩ := c
  rw [Bounds.mk.injEq]
  exact ⟨hsame hb.least_mem hc.least_mem (hb.least_le _ hc.least_mem) (hc.least_le _ hb.least_mem),
    hsame hb.greatest_mem hc.greatest_mem (hc.le_greatest _ hb.greatest_mem)
      (hb.le_greatest _ hc.greatest_mem)⟩

/-! ## The scan -/

/-- What a scan remembers of the shares of the streak that is going on. -/
def Streak.Over : Option Streak → List Binary64 → Prop
  | none, run => run = []
  | some s, run => s.length = run.length ∧ s.bounds.Of run

theorem Streak.Over.extend {current : Option Streak} {run : List Binary64}
    (h : Streak.Over current run) {v : Binary64} (hv : v.isNaN = false) :
    Streak.Over (some (Streak.extend current v)) (run ++ [v]) := by
  cases current with
  | none =>
    obtain rfl : run = [] := h
    exact ⟨rfl, Bounds.of_singleton hv⟩
  | some s =>
    obtain ⟨hlength, hbounds⟩ := h
    refine ⟨?_, hbounds.snoc hv⟩
    rw [List.length_append, ← hlength]
    rfl

/-- What there is to find in the shares: the bounds of the first window that meets the threshold, or
nothing if no window does. -/
def Threshold.Answers (t : Threshold) (shares : List Binary64) : Option Bounds → Prop
  | none => ∀ i, ¬ t.MetFrom shares i
  | some b => ∃ i, t.MetFrom shares i ∧ (∀ j < i, ¬ t.MetFrom shares j) ∧
      b.Of (window shares i t.years)

/-- Shares up to one that fails, too few for a window of their own, change nothing. -/
theorem Threshold.Answers.append_cons {t : Threshold} {run rest : List Binary64} {v : Binary64}
    {answer : Option Bounds} (h : t.Answers rest answer) (hrun : run.length < t.years)
    (hv : ¬ t.minShare ≤ v) : t.Answers (run ++ v :: rest) answer := by
  cases answer with
  | none =>
    intro i hi
    obtain ⟨k, -, hk⟩ := (metFrom_append_cons_iff hrun hv).1 hi
    exact h k hk
  | some b =>
    obtain ⟨i, hmet, hfirst, hbounds⟩ := h
    refine ⟨run.length + 1 + i, (metFrom_append_cons_iff hrun hv).2 ⟨i, rfl, hmet⟩, ?_, ?_⟩
    · intro j hj hmet'
      obtain ⟨k, rfl, hk⟩ := (metFrom_append_cons_iff hrun hv).1 hmet'
      exact hfirst k (by omega) hk
    · have hdrop : (run ++ v :: rest).drop (run.length + 1 + i) = rest.drop i := by
        rw [List.drop_append, List.drop_eq_nil_of_le (by omega), List.nil_append,
          show run.length + 1 + i - run.length = i + 1 by omega, List.drop_succ_cons]
      rw [window, hdrop]
      exact hbounds

/-- **The invariant of the scan.**  The streak that is going on is over `run`, all of whose shares
meet the threshold, and which is too short; then the scan of the rest answers for `run` and the rest
together. -/
theorem streakFrom_answers {t : Threshold} (shares : List Binary64) {current : Option Streak}
    {run : List Binary64} (hover : Streak.Over current run) (hmeets : ∀ v ∈ run, t.minShare ≤ v)
    (hshort : run.length < t.years) : t.Answers (run ++ shares) (streakFrom t current shares) := by
  induction shares generalizing current run with
  | nil =>
    rw [List.append_nil, streakFrom]
    exact fun i => Threshold.not_metFrom_of_length_lt hshort
  | cons v shares ih =>
    rw [streakFrom]
    split
    · rename_i hv
      have hover' := hover.extend hv.2.1
      have hmeets' : ∀ w ∈ run ++ [v], t.minShare ≤ w := by
        intro w hw
        rcases List.mem_append.1 hw with hw | hw
        · exact hmeets w hw
        · rw [List.mem_singleton.1 hw]; exact hv
      have hlength : (Streak.extend current v).length = run.length + 1 := by
        rw [hover'.1, List.length_append, List.length_singleton]
      have hassoc : run ++ v :: shares = (run ++ [v]) ++ shares := by simp
      rw [hassoc]
      simp only [hlength]
      split
      -- the streak has just become long enough, and it is the window at 0
      · have hyears : t.years = (run ++ [v]).length := by
          rw [List.length_append, List.length_singleton]; omega
        refine ⟨0, fun j hj => ?_, fun j hj => absurd hj (Nat.not_lt_zero j), ?_⟩
        · have hj' : j < (run ++ [v]).length := by omega
          refine ⟨(run ++ [v])[j], ?_, hmeets' _ (List.getElem_mem hj')⟩
          rw [Nat.zero_add, List.getElem?_append_left hj', List.getElem?_eq_getElem hj']
        · rw [window, List.drop_zero, hyears, List.take_left]
          exact hover'.2
      · exact ih hover' hmeets' (by rw [List.length_append, List.length_singleton]; omega)
    · rename_i hv
      have hrest : t.Answers shares (streakFrom t none shares) :=
        ih (show Streak.Over none [] from rfl) (by simp) t.years_pos
      exact hrest.append_cons hshort hv

theorem streakFrom_none_answers (t : Threshold) (shares : List Binary64) :
    t.Answers shares (streakFrom t none shares) :=
  streakFrom_answers shares (show Streak.Over none [] from rfl) (by simp) t.years_pos

/-- A scan finds something exactly if some window meets the threshold. -/
theorem isSome_streakFrom_iff {t : Threshold} {shares : List Binary64} :
    (streakFrom t none shares).isSome = true ↔ ∃ i, t.MetFrom shares i := by
  have h := streakFrom_none_answers t shares
  cases hs : streakFrom t none shares with
  | none =>
    rw [hs] at h
    exact ⟨fun hfalse => absurd hfalse Bool.false_ne_true, fun ⟨i, hi⟩ => absurd hi (h i)⟩
  | some b =>
    rw [hs] at h
    obtain ⟨i, hmet, -⟩ := h
    exact ⟨fun _ => ⟨i, hmet⟩, fun _ => rfl⟩

theorem YearShares.streak?_answers (s : YearShares) (t : Threshold) :
    t.Answers s.values (s.streak? t) :=
  streakFrom_none_answers t s.values

/-- A term meets a threshold exactly if some window of its shares does. -/
theorem YearShares.isSome_streak?_iff {s : YearShares} {t : Threshold} :
    (s.streak? t).isSome = true ↔ ∃ i, t.MetFrom s.values i :=
  isSome_streakFrom_iff

/-- What a scan has found it finds with more shares behind those it went through. -/
theorem streakFrom_append {t : Threshold} {shares : List Binary64} {current : Option Streak}
    {b : Bounds} (h : streakFrom t current shares = some b) (more : List Binary64) :
    streakFrom t current (shares ++ more) = some b := by
  induction shares generalizing current with
  | nil => simp [streakFrom] at h
  | cons v shares ih =>
    rw [List.cons_append, streakFrom]
    rw [streakFrom] at h
    by_cases hmeets : t.minShare ≤ v
    · rw [if_pos hmeets] at h ⊢
      by_cases hlong : t.years ≤ (Streak.extend current v).length
      · rw [if_pos hlong] at h ⊢
        exact h
      · rw [if_neg hlong] at h ⊢
        exact ih h
    · rw [if_neg hmeets] at h ⊢
      exact ih h

/-- **A streak is the first window that meets the threshold.**  There is none exactly if no window
meets the threshold.  Otherwise the bounds are the least and the greatest of the shares in the first
such window: both are among these shares and at or above what the threshold asks for, and there are
no others, bit for bit, unless the window holds both zeros.  The window begins with the first share
of all or just after one that fails. -/
theorem YearShares.streak?_first_window (s : YearShares) (t : Threshold) :
    (s.streak? t = none ↔ ∀ i, ¬ t.MetFrom s.values i) ∧
    ∀ b, s.streak? t = some b → ∃ i, t.MetFrom s.values i ∧ (∀ j < i, ¬ t.MetFrom s.values j) ∧
      (window s.values i t.years).length = t.years ∧
      b.Of (window s.values i t.years) ∧
      (¬ (Binary64.zero ∈ window s.values i t.years ∧
          Binary64.zero.negated ∈ window s.values i t.years) →
        ∀ c : Bounds, c.Of (window s.values i t.years) → c = b) ∧
      t.minShare ≤ b.least ∧ b.least ≤ b.greatest ∧
      b.least.isNaN = false ∧ b.greatest.isNaN = false ∧
      (i = 0 ∨ ∃ v, s.values[i - 1]? = some v ∧ ¬ t.minShare ≤ v) := by
  have h := s.streak?_answers t
  refine ⟨?_, fun b hb => ?_⟩
  · rw [← Option.not_isSome_iff_eq_none, YearShares.isSome_streak?_iff]
    exact not_exists
  · rw [hb] at h
    obtain ⟨i, hmet, hfirst, hbounds⟩ := h
    have hleast := hmet.le_of_mem_window hbounds.least_mem
    have horder := hbounds.least_le _ hbounds.greatest_mem
    refine ⟨i, hmet, hfirst, hmet.length_window, hbounds, fun hz c hc => hc.eq hbounds hz, hleast,
      horder, horder.1, horder.2.1, ?_⟩
    cases i with
    | zero => exact Or.inl rfl
    | succ i => exact Or.inr (hmet.pred_fails (hfirst i (Nat.lt_succ_self i)))

/-- A NaN and a low share break a streak, and the share after the second year widens nothing. -/
theorem YearShares.streak?_first_window_after_break :
    let s : YearShares :=
      ⟨[(2014, .ofBits 0x3FC999999999999A), (2015, .notANumber), (2016, .ofBits 0x3FC999999999999A),
        (2018, .ofBits 0x3FB999999999999A), (2019, .ofBits 0x3FD3333333333333),
        (2020, .infinity true), (2021, .infinity false)], by decide⟩
    let t : Threshold := ⟨.ofBits 0x3FB999999999999A, 2, by decide, by decide, by decide⟩
    let b : Bounds := ⟨.ofBits 0x3FB999999999999A, .ofBits 0x3FC999999999999A⟩
    s.streak? t = some b ∧
    ∃ i, t.MetFrom s.values i ∧ (∀ j < i, ¬ t.MetFrom s.values j) ∧
      b.Of (window s.values i t.years) ∧
      (i = 0 ∨ ∃ v, s.values[i - 1]? = some v ∧ ¬ t.minShare ≤ v) := by
  intro s t b
  have h : s.streak? t = some b := by decide
  obtain ⟨i, hmet, hfirst, -, hbounds, -, -, -, -, -, hbreak⟩ := (s.streak?_first_window t).2 b h
  exact ⟨h, i, hmet, hfirst, hbounds, hbreak⟩

end ShareStreaks
