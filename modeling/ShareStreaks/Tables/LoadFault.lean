import ShareStreaks.Tables.Cell

/-!
# Faults of loading

Why the rows that an engine hands over cannot be read as yearly shares.  A cell of a row can be of a kind
that is not asked for, or of the right kind and still no text or no year; or there should be more rows,
and the engine stops.  What the engine says about a text that is no UTF-8 is its own matter.
-/

set_option autoImplicit false

namespace ShareStreaks

/-- What an engine says that went wrong, from the outside in. -/
structure EngineFault where
  messages : List String
deriving DecidableEq

/-- A column of the rows. -/
inductive LoadColumn where
  | text
  | year
  | hits
  | authors
deriving DecidableEq

/-- Why rows cannot be read as yearly shares. -/
inductive LoadFault where
  /-- A cell of this column is of this kind. -/
  | wrongKind (column : LoadColumn) (kind : CellKind)
  /-- A cell of this column is an integer that does not fit. -/
  | outOfRange (column : LoadColumn) (n : Int)
  /-- These bytes should be a text. -/
  | garbled (bytes : List UInt8)
  /-- There are no more rows, and not all have come. -/
  | brokenOff (fault : EngineFault)
deriving DecidableEq

def LoadColumn.index : LoadColumn → Nat
  | .text => 0
  | .year => 1
  | .hits => 2
  | .authors => 3

def LoadColumn.name : LoadColumn → String
  | .text => "text"
  | .year => "year"
  | .hits => "hits_pct"
  | .authors => "authors_pct"

def CellKind.shown : CellKind → String
  | .null => "Null"
  | .integer => "Integer"
  | .real => "Real"
  | .text => "Text"
  | .blob => "Blob"

/-- The fault from the outside in, given what there is to say about bytes that are no text. -/
def LoadFault.messages (complaint : List UInt8 → List String) : LoadFault → List String
  | .wrongKind column kind =>
    ["Invalid column type " ++ kind.shown ++ " at index: " ++ decimalText column.index ++ ", name: "
      ++ column.name]
  | .outOfRange column n =>
    ["Integer " ++ String.ofList (signedDigits n) ++ " out of range at index "
      ++ decimalText column.index]
  | .garbled bytes => complaint bytes
  | .brokenOff fault => fault.messages

end ShareStreaks
