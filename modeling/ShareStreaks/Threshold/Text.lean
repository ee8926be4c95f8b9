import ShareStreaks.Decimal.Notation
import ShareStreaks.Decimal.Percent
import ShareStreaks.Text.Blank
import ShareStreaks.Threshold.Basic

/-!
# Thresholds as texts

A threshold is read from `SHARE:YEARS`, the two parts being separated by the first colon and blanks
around them being ignored.  The faults of a text come in a fixed order: no colon, an unreadable share,
an unreadable count, and last a share and a count that are no threshold.

It is shown in a sentence (`description`), and it names the file of its results (`fileName`).  The
share in the file name has all the digits it needs to be read back, so different thresholds have
different files.
-/

set_option autoImplicit false

namespace ShareStreaks

/-- Shares are written out from `0.0001` up to sixteen digits before the point, and with a signed
exponent of at least two digits otherwise. -/
def shareStyle : NumberStyle where
  leastExponent := -4
  greatestExponent := 15
  plusSign := true
  exponentDigits := 2
  tie := .up
  notANumber := "NaN"
  infinity := "inf"
  negativeInfinity := "-inf"

/-- A share with its shortest digits. -/
def Binary64.shareText (share : Binary64) : List Char := share.written shareStyle

def ThresholdFault.message : ThresholdFault → String
  | .notFinite share =>
    "minimum percentage must be a finite number, got " ++ String.ofList share.shareText
  | .noYears => "minimum consecutive years must be greater than 0"

namespace Threshold

/-- The name of the file that the results for the threshold go to. -/
def fileName (t : Threshold) : String :=
  "terms_" ++ String.ofList (t.minShare.shareText ++ '_' :: digits t.years) ++ ".txt"

/-- The threshold in words. -/
def description (t : Threshold) : String :=
  ">= " ++ String.ofList t.minShare.percent ++ " for " ++ String.ofList (digits t.years)
    ++ " consecutive years"

end Threshold

/-! ## Reading -/

/-- What is wrong with a text that should be a threshold. -/
inductive ThresholdTextFault where
  | noColon
  | share (part : String) (cause : LiteralFault)
  | years (part : String) (cause : IntegerFault)
  | rejected (cause : ThresholdFault)
deriving DecidableEq

/-- The fault of the given text, from the outside in. -/
def ThresholdTextFault.messages (text : String) : ThresholdTextFault → List String
  | .noColon => ["filter '" ++ text ++ "' must look like PERCENT:YEARS"]
  | .share part cause =>
    ["invalid percentage '" ++ part ++ "' in filter '" ++ text ++ "'", cause.message]
  | .years part cause =>
    ["invalid year count '" ++ part ++ "' in filter '" ++ text ++ "'", cause.message]
  | .rejected cause => ["invalid filter '" ++ text ++ "'", cause.message]

/-- The text before and after the first colon. -/
def splitColon : List Char → Option (List Char × List Char)
  | [] => none
  | c :: cs =>
    if c = ':' then some ([], cs) else (splitColon cs).map fun (before, after) => (c :: before, after)

def readThreshold (text : String) : Except ThresholdTextFault Threshold :=
  match splitColon text.toList with
  | none => .error .noColon
  | some (share, years) =>
    match readBinary64 (trim share) with
    | .error cause => .error (.share (String.ofList share) cause)
    | .ok minShare =>
      match readNatural (trim years) with
      | .error cause => .error (.years (String.ofList years) cause)
      | .ok n =>
        match Threshold.make minShare n.1 (Nat.lt_of_le_of_lt n.2 (by decide)) with
        | .error cause => .error (.rejected cause)
        | .ok t => .ok t

/-! ## The thresholds used when none are given -/

/-- A tenth of the authors for five years, three fortieths for four, a twentieth for three. -/
def Threshold.defaults : List Threshold :=
  [⟨Binary64.ofBits 0x3FB999999999999A, 5, by decide, by decide, by decide⟩,
    ⟨Binary64.ofBits 0x3FB3333333333333, 4, by decide, by decide, by decide⟩,
    ⟨Binary64.ofBits 0x3FA999999999999A, 3, by decide, by decide, by decide⟩]

end ShareStreaks
