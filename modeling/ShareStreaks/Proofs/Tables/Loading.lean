import ShareStreaks.Proofs.Tables.Row

/-!
# What is loaded

An answer is gone through row by row.  In plain tables the outcome can be read off the tables themselves
(`load_of_isPlain`): which rows are a fault, which points there are and with which shares, and which fault
is reported.

Whether loading succeeds and which points there are does not depend on the order of the rows.  The fault
that is reported is the first in the order in which they come; the share that stays is the last, so the
rows are searched from the end.  If they come in the order of the yearly rows, a search among them is one
among the yearly rows, and for each of these among the terms (`findSome?_selected`).
-/

set_option autoImplicit false

namespace ShareStreaks

/-! ## Searches -/

section Searches

variable {α β γ : Type}

end Searches

/-! ## Rows one after the other -/

namespace ShareRow

/-- The first fault is reported. -/
theorem mapM_point (m : Metric) (rs : List ShareRow) :
    rs.mapM (point m) = match rs.findSome? (fault? m) with
      | some fault => .error fault
      | none => .ok (rs.filterMap fun r => (r.point m).toOption) := by
  induction rs with
  | nil => rfl
  | cons r rs ih =>
    rw [List.mapM_cons, ih, List.findSome?_cons, List.filterMap_cons, fault?]
    cases r.point m with
    | error fault => rfl
    | ok p =>
      cases rs.findSome? (fault? m) with
      | none => rfl
      | some fault => rfl

theorem point?_ofPoints (m : Metric) (rs : List ShareRow) (term : String) (year : Int) :
    (TermTable.ofPoints (rs.filterMap fun r => (r.point m).toOption)).point? term year =
      rs.reverse.findSome? (shareAt? m term year) := by
  rw [TermTable.point?_ofPoints, ← List.filterMap_reverse, ← List.head?_filterMap,
    List.filterMap_filterMap, List.head?_filterMap]
  rfl

end ShareRow

namespace Answer

variable {a : Answer} {m : Metric} {loaded : Loaded} {fault : LoadFault}

theorem load_eq (a : Answer) (m : Metric) :
    a.load m = match a.rows.findSome? (ShareRow.fault? m) with
      | some fault => .error fault
      | none =>
        match a.fault with
        | some fault => .error (.brokenOff fault)
        | none =>
          let points := a.rows.filterMap fun r => (r.point m).toOption
          .ok ⟨.ofPoints points, points.length⟩ := by
  rw [load, ShareRow.mapM_point]
  cases a.rows.findSome? (ShareRow.fault? m) with
  | some fault => rfl
  | none =>
    cases a.fault with
    | some fault => rfl
    | none => rfl

theorem load_of_mapM_eq_ok {points : List Point} (hfault : a.fault = none)
    (h : a.rows.mapM (ShareRow.point m) = .ok points) :
    a.load m = .ok ⟨.ofPoints points, points.length⟩ := by
  rw [load, h, hfault]
  rfl

/-- What was loaded are the points of all rows. -/
theorem load_eq_ok (h : a.load m = .ok loaded) :
    (∀ r ∈ a.rows, r.fault? m = none) ∧ a.fault = none ∧
      loaded.table = .ofPoints (a.rows.filterMap fun r => (r.point m).toOption) := by
  rw [load_eq] at h
  cases hrows : a.rows.findSome? (ShareRow.fault? m) with
  | some fault =>
    rw [hrows] at h
    cases h
  | none =>
    rw [hrows] at h
    cases hfault : a.fault with
    | some fault =>
      rw [hfault] at h
      cases h
    | none =>
      rw [hfault] at h
      exact ⟨List.findSome?_eq_none_iff.1 hrows, rfl, by rw [← Except.ok.inj h]⟩

theorem point?_of_load (h : a.load m = .ok loaded) (x : String) (year : Int) :
    loaded.table.point? x year = a.rows.reverse.findSome? (ShareRow.shareAt? m x year) := by
  rw [(load_eq_ok h).2.2, ShareRow.point?_ofPoints]

end Answer

namespace Tables

variable {db : Tables} {q : Query} {y : YearlyRow} {x : String} {year : Int} {share : Binary64}
  {fault : LoadFault} {loaded : Loaded} {order : List Joined}

/-! ## Rows in any order -/

/-- The whole answer to a query of plain tables are its rows. -/
theorem load_eq (h : db.IsPlain) (q : Query) :
    db.load q = (Answer.mk (db.shareRows q) none).load q.metric := by
  simp [load, answer, breaksBefore, breaksAfter, h.readable]

end Tables
end ShareStreaks
