/-!
# Ordered tables

A table from keys to values as the list of its entries, in strictly ascending order of the keys.  The
order is part of the type, so two tables with the same entries are equal and going through a table
always follows the keys.
-/

set_option autoImplicit false

namespace ShareStreaks

/-- Entries with strictly ascending keys. -/
structure OrderedTable (κ ν : Type) [LT κ] where
  entries : List (κ × ν)
  ascending : entries.Pairwise (fun a b => a.1 < b.1)

namespace OrderedTable

variable {κ ν : Type} [LT κ]

theorem ext {s t : OrderedTable κ ν} (h : s.entries = t.entries) : s = t := by
  cases s; cases t; simp_all

def empty : OrderedTable κ ν := ⟨[], .nil⟩

instance : Inhabited (OrderedTable κ ν) := ⟨empty⟩

def size (t : OrderedTable κ ν) : Nat := t.entries.length

def isEmpty (t : OrderedTable κ ν) : Bool := t.entries.isEmpty

def keys (t : OrderedTable κ ν) : List κ := t.entries.map Prod.fst

def firstKey? (t : OrderedTable κ ν) : Option κ := t.keys.head?

def lastKey? (t : OrderedTable κ ν) : Option κ := t.keys.getLast?

variable [DecidableLT κ]

/-- The value of the first entry whose key is not below the given one, if it is that key. -/
def findEntry (k : κ) : List (κ × ν) → Option ν
  | [] => none
  | (l, v) :: rest => if l < k then findEntry k rest else if k < l then none else some v

def find? (t : OrderedTable κ ν) (k : κ) : Option ν := findEntry k t.entries

/-- Sets the value of a key in ascending entries. -/
def setEntry (k : κ) (v : ν) : List (κ × ν) → List (κ × ν)
  | [] => [(k, v)]
  | (l, w) :: rest =>
    if l < k then (l, w) :: setEntry k v rest
    else if k < l then (k, v) :: (l, w) :: rest
    else (k, v) :: rest

theorem eq_or_mem_of_mem_setEntry {k : κ} {v : ν} {es : List (κ × ν)} {e : κ × ν}
    (h : e ∈ setEntry k v es) : e = (k, v) ∨ e ∈ es := by
  fun_induction setEntry k v es with grind

variable [LE κ] [Std.LawfulOrderLT κ] [Std.IsLinearOrder κ]

theorem pairwise_setEntry (k : κ) (v : ν) {es : List (κ × ν)}
    (h : es.Pairwise (fun a b => a.1 < b.1)) :
    (setEntry k v es).Pairwise (fun a b => a.1 < b.1) := by
  fun_induction setEntry k v es with
  | case1 => simp
  | case2 l w rest hlk ih =>
    rw [List.pairwise_cons] at h ⊢
    refine ⟨fun e he => ?_, ih h.2⟩
    rcases eq_or_mem_of_mem_setEntry he with rfl | he
    · exact hlk
    · exact h.1 e he
  | case3 l w rest hlk hkl =>
    refine List.pairwise_cons.2 ⟨fun e he => ?_, h⟩
    rcases List.mem_cons.1 he with rfl | he
    · exact hkl
    · exact Std.lt_trans hkl ((List.pairwise_cons.1 h).1 e he)
  | case4 l w rest hlk hkl =>
    rw [List.pairwise_cons] at h ⊢
    refine ⟨fun e he => ?_, h.2⟩
    have hkl' : k = l := Std.le_antisymm (Std.not_lt.1 hlk) (Std.not_lt.1 hkl)
    exact hkl' ▸ h.1 e he

/-- Sets the value of a key, in place of the one it had. -/
def insert (t : OrderedTable κ ν) (k : κ) (v : ν) : OrderedTable κ ν :=
  ⟨setEntry k v t.entries, pairwise_setEntry k v t.ascending⟩

/-- The table of a list of entries, a later entry for a key replacing an earlier one. -/
def ofList (es : List (κ × ν)) : OrderedTable κ ν := es.foldl (fun t e => t.insert e.1 e.2) empty

end OrderedTable
end ShareStreaks
