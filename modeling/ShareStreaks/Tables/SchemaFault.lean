import ShareStreaks.Tables.LoadFault

/-!
# Faults of a database

What keeps a query from being prepared.  The tables are read by a query in the language of the database,
`queryText`; a column that is missing is named with the place of its first mention in it.
-/

set_option autoImplicit false

namespace ShareStreaks

/-- The query for yearly shares. -/
def queryText : String := "
    WITH YearlyPct AS (
        SELECT
            y.term_id,
            y.attr,
            CAST(strftime('%Y', y.day, 'unixepoch') AS INTEGER) AS year,
            COALESCE((y.hits * 1.0) / t.hits, 0) AS hits_pct,
            COALESCE((y.authors * 1.0) / t.authors, 0) AS authors_pct
        FROM
            yearly y
            LEFT JOIN total_yearly t ON y.day = t.day
        WHERE
            t.term_len = :term_len AND
            t.attr = :attr AND
            y.day > :since
    )
    SELECT
        t.text,
        yp.year,
        yp.hits_pct,
        yp.authors_pct
    FROM
        YearlyPct yp
        JOIN term t ON yp.term_id = t.id
    WHERE
        t.len = :term_len AND
        yp.attr = :attr
"

/-- The place of a text in a longer one. -/
def placeOf (part : List Char) : List Char → Option Nat
  | [] => none
  | c :: cs => if part.isPrefixOf (c :: cs) then some 0 else (placeOf part cs).map (· + 1)

/-- Why the query cannot be prepared. -/
inductive SchemaFault where
  /-- The database has no table of this name. -/
  | noTable (name : String)
  /-- The table has no column of this name; the query calls the table by a letter. -/
  | noColumn (table : Char) (name : String)
  /-- The file is not a database. -/
  | notADatabase
  /-- The file is a database that breaks off or contradicts itself. -/
  | damaged
  /-- The file is a database of a form that is not known yet. -/
  | unknownFormat
  /-- What the database says about one of its tables makes no sense. -/
  | malformed (object : String) (why : String)
  /-- A change of the database was broken off and has to be taken back first. -/
  | changePending
  /-- A file beside the database cannot be read. -/
  | besideUnreadable
  /-- A file beside the database cannot be opened. -/
  | besideClosed
  /-- A file beside the database cannot be removed. -/
  | besideKept
  /-- Somebody else has locked the database. -/
  | locked
  /-- Somebody else seems to change the log all the time. -/
  | unsettled
  /-- The database is one that is not read here, for this reason. -/
  | unsupported (why : String)
deriving DecidableEq

namespace SchemaFault

/-- What a query says about a column that is missing.  Of a column by which tables are joined no place
is given. -/
def missingColumn (table : Char) (name : String) : String :=
  let mention := String.ofList [table, '.'] ++ name
  let place := if ["t.day", "t.id"].contains mention then none
    else placeOf mention.toList queryText.toList
  "no such column: " ++ mention ++ match place with
    | some n => " in " ++ queryText ++ " at offset " ++ decimalText n
    | none => ""

/-- What is wrong, and the code of its kind. -/
def coded (what code : String) : EngineFault := ⟨[what, "Error code " ++ code]⟩

/-- What the engine says about a database that contradicts itself. -/
def damage : EngineFault :=
  coded "database disk image is malformed" "11: The database disk image is malformed"

/-- The fault as the engine tells it. -/
def told : SchemaFault → EngineFault
  | .noTable name => coded ("no such table: " ++ name) "1: SQL error or missing database"
  | .noColumn table name => coded (missingColumn table name) "1: SQL error or missing database"
  | .notADatabase => coded "file is not a database" "26: File opened that is not a database file"
  | .damaged => damage
  | .unknownFormat => coded "unsupported file format" "1: SQL error or missing database"
  | .malformed object why =>
    let reason := if why.isEmpty then "" else " - " ++ why
    coded ("malformed database schema (" ++ object ++ ")" ++ reason)
      "11: The database disk image is malformed"
  | .changePending =>
    coded "attempt to write a readonly database"
      "776: Database has hot journal that must be rolled back before it can be opened"
  | .besideUnreadable => coded "disk I/O error" "266: Error reading from disk"
  | .besideClosed => coded "unable to open database file" "14: Unable to open the database file"
  | .besideKept => coded "disk I/O error" "2570: I/O error within xDelete of a VFS object"
  | .locked => coded "database is locked" "5: The database file is locked"
  | .unsettled => coded "locking protocol" "15: Database lock protocol error"
  | .unsupported why => ⟨["not supported: " ++ why]⟩

end SchemaFault
end ShareStreaks
