import ShareStreaks.Disk.DatabaseFiles
import ShareStreaks.Engine
import ShareStreaks.Tables.Join
import ShareStreaks.Tables.Stored

/-!
# An engine that reads database files

`fileEngine` is the engine that the program runs with.  It looks at the name of a database, at the files
beside it and at the bytes of its file and its log, and answers the query from the tables in them.  Where
it could not tell what the answer is, it says so and gives none: of views, of columns that are computed
when they are read, and of rows whose order matters and is not known.
-/

set_option autoImplicit false

namespace ShareStreaks

/-- The database that a file is together with a log. -/
def Content.database (c : Content) (log : Log) : Except SchemaFault Tables :=
  match c with
  | .tables db =>
    if log.finished.isEmpty then .ok db else .error (.unsupported "a log without its database")
  | .text _ | .bytes _ => Tables.ofFile (log.laidOnto c.toBytes)

/-- Which of two rows comes first makes a difference: they give different shares of a term in a year, or
have different faults. -/
def ShareRow.rivals (m : Metric) (r s : ShareRow) : Bool :=
  match r.point m, s.point m with
  | .ok p, .ok p' => p.term == p'.term && p.year == p'.year && p.share != p'.share
  | .error fault, .error fault' => fault != fault'
  | _, _ => false

/-- The order of the rows makes a difference. -/
def Answer.dependsOnOrder (m : Metric) (a : Answer) : Bool :=
  a.rows.any fun r => a.rows.any (r.rivals m)

/-- The answer to a query, if it is known in which order its rows come, or if that does not matter. -/
def Tables.reply (db : Tables) (q : Query) : Reply :=
  let answer := db.answer q
  if db.route = .unknown && answer.dependsOnOrder q.metric then
    .unprepared (SchemaFault.unsupported "more than one way to the rows").told
  else .answered answer

/-- What comes of a query to the tables that a file was found to hold. -/
def Reply.ofTables (q : Query) : Except SchemaFault Tables → Reply
  | .error fault => .unprepared fault.told
  | .ok db => db.reply q

namespace FileTree

/-- Opens the database in a file, which may be a new one: the disk afterwards, and the tables in it. -/
def openTables (t : FileTree) (source : Option (Place × Access)) :
    FileTree × Except SchemaFault Tables :=
  match source with
  | none => (t, .error (.noTable "yearly"))
  | some (place, access) =>
    match t.at? place with
    | some (.file c) =>
      let opened := t.openBeside place access c
      (opened.1, opened.2.bind c.database)
    | some .directory | none => (t, .error (.noTable "yearly"))

/-- What comes of asking for the yearly shares in a database. -/
def reply (t : FileTree) (name : String) (q : Query) : FileTree × Reply :=
  match t.databasePlace name with
  | .error fault => (t, .closed ⟨fault.messages⟩)
  | .ok source =>
    let opened := t.openTables source
    (opened.1, .ofTables q opened.2)

end FileTree

/-- What is said about bytes that are no text. -/
def noText (_ : List UInt8) : List String :=
  ["Conversion error from type Text at index: 0, invalid utf-8 sequence", "invalid utf-8 sequence"]

/-- The engine that reads database files. -/
def fileEngine : Engine where
  ask t p q := t.reply p.text q
  complaint := noText

end ShareStreaks
