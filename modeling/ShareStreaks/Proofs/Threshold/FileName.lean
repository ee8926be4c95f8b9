import Mathlib.Data.List.Basic
import ShareStreaks.Proofs.Decimal.ReadBack
import ShareStreaks.Proofs.Disk.Path
import ShareStreaks.Threshold.Text

/-!
# The file names of thresholds

Different thresholds have different file names (`Threshold.fileName_inj`).  The share and the count
are kept apart by an underscore, which the text of a share does not have, and each of the two is
read back from its text.  The two zeros are different shares here, and so are their texts.
-/

set_option autoImplicit false

namespace ShareStreaks
namespace Threshold

theorem ext {a b : Threshold} (hshare : a.minShare = b.minShare) (hyears : a.years = b.years) :
    a = b := by
  obtain ⟨share, years, _, _, _⟩ := a
  obtain ⟨share', years', _, _, _⟩ := b
  obtain rfl : share = share' := hshare
  obtain rfl : years = years' := hyears
  rfl

theorem toList_fileName (t : Threshold) :
    t.fileName.toList =
      "terms_".toList ++ (t.minShare.shareText ++ '_' :: digits t.years) ++ ".txt".toList := by
  have hmiddle : (String.ofList (t.minShare.shareText ++ '_' :: digits t.years)).toList
      = t.minShare.shareText ++ '_' :: digits t.years := String.toList_ofList
  rw [fileName, String.toList_append, String.toList_append, hmiddle]

theorem notMem_shareText (t : Threshold) {c : Char}
    (hc : ¬(c.isDigit = true ∨ c ∈ ['+', '-', '.', 'e'])) : c ∉ t.minShare.shareText :=
  mt (Binary64.isNumeral_written t.finite shareStyle c) hc

theorem notMem_digits (n : Nat) {c : Char} (hc : ¬c.isDigit = true) : c ∉ digits n :=
  mt (isDigits_digits n c) hc

/-- **A file name tells its threshold.** -/
theorem fileName_inj {a b : Threshold} : a.fileName = b.fileName ↔ a = b := by
  refine ⟨fun h => ?_, congrArg fileName⟩
  have hlist := congrArg String.toList h
  rw [toList_fileName, toList_fileName, List.append_left_inj, List.append_right_inj,
    List.append_cons_inj_of_notMem (a.notMem_shareText (by decide))
      (notMem_digits a.years (by decide))] at hlist
  obtain ⟨hshare, -, hyears⟩ := hlist
  refine ext ?_ ?_
  · have hread := congrArg readBinary64 hshare
    rw [Binary64.shareText, Binary64.readBinary64_written a.finite, Binary64.shareText,
      Binary64.readBinary64_written b.finite] at hread
    exact Except.ok.inj hread
  · exact digits_injective hyears

theorem slash_notMem_fileName (t : Threshold) : '/' ∉ t.fileName.toList := by
  rw [toList_fileName, List.mem_append, List.mem_append, List.mem_append, List.mem_cons]
  rintro ((h | h | h | h) | h)
  · exact absurd h (by decide)
  · exact t.notMem_shareText (by decide) h
  · exact absurd h (by decide)
  · exact notMem_digits t.years (by decide) h
  · exact absurd h (by decide)

theorem isEntryName_fileName (t : Threshold) : IsEntryName t.fileName := by
  have hhead : t.fileName.toList.head? = some 't' := by rw [toList_fileName]; rfl
  have hne {name : String} (hname : name.toList.head? ≠ some 't') : t.fileName ≠ name :=
    fun h => hname (h ▸ hhead)
  exact ⟨hne (by decide), hne (by decide), hne (by decide), t.slash_notMem_fileName⟩

end Threshold
end ShareStreaks
