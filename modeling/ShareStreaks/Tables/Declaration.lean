import ShareStreaks.Tables.Affinity

/-!
# Declarations of tables

What a statement says about the table that it declares: the columns with their types and defaults, the
primary key and other keys, and how rows are stored.  A table whose key is one column of the type
`INTEGER` holds the numbers of its rows there.  Names are the same in letters of either case.
-/

set_option autoImplicit false

namespace ShareStreaks

/-- Why a statement does not declare a table. -/
inductive DeclarationFault where
  | unexpected (token : String)
  | unrecognized (token : String)
  | incomplete
  | columnTwice (name : String)
  | keyTwice (table : String)
  | keyMissing (table : String)
  | growingKey
  | growingWithoutNumbers
  | unknownOption (name : String)
  | noColumn (name : String)
  | noReferringColumn (name : String)
  | typeMissing (table column : String)
  | unknownType (table column type : String)
  | qualifiedName
deriving DecidableEq

def DeclarationFault.message : DeclarationFault → String
  | .unexpected token => "near \"" ++ token ++ "\": syntax error"
  | .unrecognized token => "unrecognized token: \"" ++ token ++ "\""
  | .incomplete => "incomplete input"
  | .columnTwice name => "duplicate column name: " ++ name
  | .keyTwice table => "table \"" ++ table ++ "\" has more than one primary key"
  | .keyMissing table => "PRIMARY KEY missing on table " ++ table
  | .growingKey => "AUTOINCREMENT is only allowed on an INTEGER PRIMARY KEY"
  | .growingWithoutNumbers => "AUTOINCREMENT not allowed on WITHOUT ROWID tables"
  | .unknownOption name => "unknown table option: " ++ name
  | .noColumn name => "no such column: " ++ name
  | .noReferringColumn name => "unknown column \"" ++ name ++ "\" in foreign key definition"
  | .typeMissing table column => "missing datatype for " ++ table ++ "." ++ column
  | .unknownType table column type =>
    "unknown datatype for " ++ table ++ "." ++ column ++ ": \"" ++ type ++ "\""
  | .qualifiedName => "corrupt database"

/-- The text in lower case. -/
def lowered (s : String) : String := String.ofList (s.toList.map Char.toLower)

/-- The names are the same but for the case of letters. -/
def sameName (s t : String) : Bool := lowered s == lowered t

/-- A column as it is declared. -/
structure Column where
  name : String
  type : String := ""
  /-- What a row holds that was written before the column was there. -/
  missing : Cell := .null
  /-- The column is computed anew whenever it is read. -/
  isComputed : Bool := false
deriving DecidableEq

def Column.affinity (c : Column) : Affinity := .ofType c.type

/-- A column of a key. -/
structure KeyColumn where
  name : String
  descends : Bool := false
  /-- Texts are compared in a way of the key's own. -/
  collates : Bool := false
deriving DecidableEq

/-- The primary key of a table. -/
structure PrimaryKey where
  columns : List KeyColumn
  /-- The one column of the key is declared to descend. -/
  descends : Bool := false
  /-- New rows get numbers that were never used. -/
  grows : Bool := false
deriving DecidableEq

/-- A table as it is declared. -/
structure Declaration where
  name : String
  columns : List Column := []
  key : Option PrimaryKey := none
  /-- The rows have no numbers, and stand in the order of their keys. -/
  byKey : Bool := false
  /-- Columns hold only values of their types, of which there are six. -/
  isStrict : Bool := false
  /-- Other columns than the key that are declared to be unique. -/
  uniques : List (List KeyColumn) := []
deriving DecidableEq

/-- An index as it is declared. -/
structure IndexDeclaration where
  table : String
  /-- What it is made of, if that are columns, and of all rows. -/
  columns : Option (List KeyColumn)
deriving DecidableEq

namespace Declaration

/-- The affinity of a column; in a strict table one of any type takes everything as it is. -/
def affinityOf (d : Declaration) (c : Column) : Affinity :=
  if d.isStrict && lowered c.type == "any" then .none else c.affinity

/-- The column that holds the numbers of the rows. -/
def numberColumn? (d : Declaration) : Option String :=
  match d.key with
  | some ⟨[column], false, _⟩ =>
    if !d.byKey && d.columns.any fun c => sameName c.name column.name && lowered c.type == "integer" then
      some column.name
    else none
  | _ => none

end Declaration
end ShareStreaks
