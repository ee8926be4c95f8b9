import ShareStreaks.Tables.Basic
import ShareStreaks.Tables.Declaration.Reader
import ShareStreaks.Tables.Image
import ShareStreaks.Tables.SchemaFault

/-!
# Tables in a database file

The first page of a database file begins the table of all tables, the *catalog*: their names, the pages
they begin at and the statements that declared them.  A declaration gives the columns in the order in
which a row has its values; a column that is the key of its table holds the number of the row, and a
value that a row lacks is the default of its column.

`Tables.ofFile` reads the three tables of a corpus by their names and the names of their columns.  First
the whole catalog has to make sense.  Then the tables, and after them the columns, are missed in the order
in which the query needs them; a file without any content misses the first table.  Rows that cannot be
read are no fault yet: the query may stop before them.

In which order an engine comes upon the rows is its own choice, for which it looks at the indexes there
are.  `Catalog.route` tells this order where it can be told from the declarations.  Views, columns that are
computed when they are read, and tables that have their rows from elsewhere are not supported.
-/

set_option autoImplicit false

namespace ShareStreaks
namespace Stored

/-! ## The catalog -/

/-- A cell as a text, which ends before the character zero. -/
def textIn (c : Cell) : Option String :=
  let cut (cs : List Char) := String.ofList (cs.takeWhile (· != '\x00'))
  match c.asText with
  | .text s => some (cut s.toList)
  | .garbled bytes _ | .blob bytes => some (cut (Cell.blobChars bytes))
  | _ => none

/-- A table of the file. -/
structure StoredTable where
  declaration : Declaration
  root : Nat
deriving DecidableEq

structure Catalog where
  tables : List StoredTable := []
  /-- The names of what is no table, as far as it was declared. -/
  others : List String := []
  /-- The names of what can be read like a table, but has its rows from elsewhere. -/
  views : List String := []
  indexes : List IndexDeclaration := []
  /-- The names of the indexes that keys and unique columns bring with them. -/
  implied : List String := []

def Catalog.find? (c : Catalog) (name : String) : Option StoredTable :=
  c.tables.find? fun t => sameName t.declaration.name name

/-- The number of a page that is written in digits. -/
def pageNumber? (s : String) : Option Nat :=
  if !s.isEmpty && s.toList.all Char.isDigit then some (ofDigits s.toList) else none

/-- The statement declares something, or tries to. -/
def isDeclaring (statement : String) : Bool := ['c', 'r'].isPrefixOf (lowered statement).toList

/-- The word that says what a statement declares. -/
def declaredKind (statement : String) : String :=
  let isQualifier (w : String) : Bool := ["unique", "temp", "temporary"].contains w
  match ((tokens statement).map Token.keyword).filter fun w => !isQualifier w with
  | "create" :: w :: _ => w
  | _ => ""

/-- Takes something else than a table into the catalog, if the statement declares that. -/
def Catalog.addOther? (c : Catalog) (name : List String) (statement : String) : Option Catalog :=
  let c := { c with others := c.others ++ name }
  match declaredKind statement with
  | "index" => some { c with indexes := c.indexes ++ (readIndexDeclaration statement).toOption.toList }
  | "view" | "virtual" => some { c with views := c.views ++ name }
  | "trigger" => some c
  | _ => none

/-- Takes a table into the catalog. -/
def Catalog.addTable (c : Catalog) (kind name table : String) (root : Nat) (statement : String) :
    Except String Catalog := do
  let (declared, _) ← (readDeclaredName statement).mapError DeclarationFault.message
  if root = 1 || !sameName kind "table" || !sameName declared name || !sameName declared table then
    throw ""
  if (c.find? name).isSome then throw ("table " ++ declared ++ " already exists")
  if c.others.any (sameName name) then throw ("there is already an index named " ++ declared)
  let d ← (readDeclaration statement).mapError DeclarationFault.message
  return { c with tables := c.tables ++ [⟨d, root⟩] }

/-- The index belongs to a table. -/
def isIndexOf (table name : String) : Bool :=
  ("sqlite_autoindex_" ++ lowered table ++ "_").toList.isPrefixOf (lowered name).toList

/-- The index belongs to a key or to other columns that are declared to be unique. -/
def Catalog.impliesIndex (c : Catalog) (name : String) : Bool :=
  c.tables.any fun t =>
    (!t.declaration.uniques.isEmpty || t.declaration.key.isSome) && isIndexOf t.declaration.name name

/-- The rows of a table are found by a key, and the index that leads to them is not there. -/
def Catalog.lacksIndex (c : Catalog) (t : StoredTable) (column : String) : Bool :=
  match t.declaration.key with
  | some key =>
    t.declaration.numberColumn?.isNone && !t.declaration.byKey
      && (key.columns.head?.any fun first => sameName column first.name)
      && !c.implied.any (isIndexOf t.declaration.name)
  | none => false

/-- Takes an entry into the catalog, or says what is wrong with it. -/
def Catalog.add (c : Catalog) (pages : Nat) (row : List Cell) : Except SchemaFault Catalog :=
  let cell (i : Nat) : Option String := (row[i]?).bind textIn
  let statement := (cell 4).getD ""
  let wrong {α : Type} (why : String) : Except SchemaFault α :=
    .error (.malformed ((cell 1).getD "?") why)
  match cell 3 with
  | none => wrong ""
  | some root =>
    if isDeclaring statement then
      match pageNumber? root with
      | none => wrong "invalid rootpage"
      | some n =>
        if pages < n then wrong "invalid rootpage"
        else
          match c.addOther? (cell 1).toList statement with
          | some c => .ok c
          | none =>
            match c.addTable ((cell 0).getD "") ((cell 1).getD "") ((cell 2).getD "") n statement with
            | .ok c => .ok c
            | .error why => wrong why
    else if !statement.isEmpty then wrong ""
    else
      match cell 1 with
      | none => wrong ""
      | some name =>
        if !c.impliesIndex name then wrong "orphan index"
        else
          match pageNumber? root with
          | some n =>
            if 2 ≤ n ∧ n ≤ pages then .ok { c with implied := c.implied ++ [name] }
            else wrong "invalid rootpage"
          | none => wrong "invalid rootpage"

def faultOf : ImageFault → SchemaFault
  | .notADatabase => .notADatabase
  | .damaged => .damaged
  | .unknownFormat => .unknownFormat

/-- The catalog of a file. -/
def catalogOf (img : Image) : Except SchemaFault Catalog := do
  let rows := img.rows 1
  let c ← rows.items.foldlM (fun c row => Catalog.add c img.pageCount row.2) {}
  if rows.breaksOff then throw .damaged
  return c

/-! ## Columns and rows -/

/-- The columns of a table in the order in which a row has its values. -/
def StoredTable.order (t : StoredTable) : List Column :=
  let columns := t.declaration.columns.filter fun c => !c.isComputed
  match t.declaration.byKey, t.declaration.key with
  | true, some key =>
    let named := key.columns.filterMap fun k => columns.find? fun c => sameName c.name k.name
    named.eraseDups ++ columns.filter fun c => !named.contains c
  | _, _ => columns

/-- The value of a named column in a row. -/
def StoredTable.cell (t : StoredTable) (row : Int × List Cell) (name : String) : Cell :=
  let isNumber := match t.declaration.numberColumn? with
    | some n => sameName n name
    | none => false
  if isNumber then .integer row.1
  else
    match t.order.findIdx? fun c => sameName c.name name with
    | none => .null
    | some i =>
      match t.order[i]? with
      | none => .null
      | some c =>
        match t.declaration.affinityOf c, row.2[i]?.getD c.missing with
        | .real, .integer n => .real (.ofInt n)
        | _, v => v

def StoredTable.column? (t : StoredTable) (name : String) : Option Column :=
  t.declaration.columns.find? fun c => sameName c.name name

/-- The affinity of a named column. -/
def StoredTable.affinity (t : StoredTable) (name : String) : Affinity :=
  ((t.column? name).map t.declaration.affinityOf).getD .none

/-- The rows of a table, each as what gives the value of a column. -/
def StoredTable.rows (t : StoredTable) (img : Image) : Image.Stretch (String → Cell) :=
  let rows := if t.declaration.byKey then img.keyedRows t.root else img.rows t.root
  ⟨rows.items.map t.cell, rows.breaksOff⟩

/-! ## The way to the rows -/

/-- The keys by which rows of a table can be found, as far as they are made of columns. -/
def Catalog.keysOf (c : Catalog) (t : StoredTable) : List (Option (List KeyColumn)) :=
  let d := t.declaration
  let key := if d.numberColumn?.isSome then none else d.key
  (c.indexes.filter fun i => sameName i.table d.name).map IndexDeclaration.columns
    ++ (key.map fun k => some k.columns).toList ++ d.uniques.map some

def yearlyColumns : List (String × YearlyColumn) :=
  [("term_id", .term), ("attr", .attr), ("day", .day), ("hits", .hits), ("authors", .authors)]

def yearlyColumn? (name : String) : Option YearlyColumn := yearlyColumns.lookup (lowered name)

/-- The key as one of yearly rows, if these are compared in the usual way. -/
def indexColumns? (key : List KeyColumn) : Option (List IndexColumn) :=
  key.mapM fun c => if c.collates then none else (yearlyColumn? c.name).map fun y => ⟨y, c.descends⟩

/-- The key has all columns that are needed of yearly rows. -/
def holdsAll (key : List KeyColumn) : Bool :=
  yearlyColumns.all fun y => key.any fun c => yearlyColumn? c.name == some y.2

/-- The way to yearly rows that an index opens.  Totals and terms are free if nothing but the number of a
term leads to their rows. -/
def routeBy (k : ColumnKinds) (totalsFree termsFree : Bool) (key : List KeyColumn) : Route :=
  let affinities := [k.termId, k.termLength, k.yearlyTerm, k.yearlyAttr, k.yearlyDay, k.totalDay,
    k.totalLength, k.totalAttr]
  match indexColumns? key with
  | none => .unknown
  | some columns =>
    if affinities.contains .text then .unknown
    else
      match columns.map IndexColumn.column with
      | .attr :: .day :: _ => .index columns
      | .attr :: _ => if k.termsNumbered then .index columns else .unknown
      | .day :: _ =>
        if !k.termsNumbered || !totalsFree then .unknown
        else if k.yearlyDay.isNumeric || !k.totalDay.isNumeric then .totals columns
        else .index columns
      | _ => if k.termsNumbered && termsFree && !holdsAll key then .stored else .unknown

/-- The way to yearly rows, as far as it follows from the declarations alone: there is at most one index
that can be of use, and nothing was counted that the engine could go by. -/
def Catalog.route (c : Catalog) (terms yearly totals : StoredTable) (k : ColumnKinds) : Route :=
  let isOfUse : Option (List KeyColumn) → Bool
    | none => true
    | some key => (key.head?.bind fun first => yearlyColumn? first.name).isSome || holdsAll key
  let isNumber (y : YearlyColumn) : Bool :=
    (yearly.declaration.numberColumn?.bind yearlyColumn?) == some y
  let totalsFree := (c.keysOf totals).isEmpty && totals.declaration.numberColumn?.isNone
  let isCounted := ["sqlite_stat1", "sqlite_stat4"].any fun name => (c.find? name).isSome
  if isCounted || isNumber .day || isNumber .attr then .unknown
  else
    match (c.keysOf yearly).filter isOfUse with
    | [] => if k.termsNumbered || totalsFree then .stored else .unknown
    | [some key] => routeBy k totalsFree (c.keysOf terms).isEmpty key
    | _ => .unknown

/-! ## The three tables -/

def termRow (cell : String → Cell) : TermRow := ⟨cell "id", cell "text", cell "len"⟩

def yearlyRow (cell : String → Cell) : YearlyRow :=
  ⟨cell "term_id", cell "attr", cell "day", cell "hits", cell "authors"⟩

def totalRow (cell : String → Cell) : TotalRow :=
  ⟨cell "day", cell "term_len", cell "attr", cell "hits", cell "authors"⟩

def orMissing (c : Catalog) (name : String) : Except SchemaFault StoredTable :=
  match c.find? name with
  | some t => .ok t
  | none =>
    if c.views.any (sameName name) then .error (.unsupported ("the view " ++ name))
    else .error (.noTable name)

/-- The columns in the order in which the query needs them, with the letter of their table. -/
def neededColumns (yearly totals terms : StoredTable) : List (Char × StoredTable × String) :=
  [('y', yearly, "term_id"), ('y', yearly, "attr"), ('y', yearly, "day"), ('y', yearly, "hits"),
    ('t', totals, "hits"), ('y', yearly, "authors"), ('t', totals, "authors"),
    ('t', totals, "term_len"), ('t', totals, "attr"), ('t', totals, "day"), ('t', terms, "text"),
    ('t', terms, "len"), ('t', terms, "id")]

end Stored

open Stored in
/-- The tables in the bytes of a database file. -/
def Tables.ofFile (bytes : ByteArray) : Except SchemaFault Tables :=
  if bytes.size ≤ 1 then .error (.noTable "yearly")
  else do
    let img ← (Image.ofBytes bytes).mapError faultOf
    let catalog ← catalogOf img
    let yearly ← orMissing catalog "yearly"
    let totals ← orMissing catalog "total_yearly"
    let terms ← orMissing catalog "term"
    let needed := neededColumns yearly totals terms
    if let some (letter, _, name) := needed.find? fun (_, t, name) => (t.column? name).isNone then
      throw (.noColumn letter name)
    if let some (_, t, name) := needed.find? fun (_, t, name) =>
        (t.column? name).any Column.isComputed then
      throw (.unsupported ("the computed column " ++ t.declaration.name ++ "." ++ name))
    let columns : ColumnKinds := {
      termsNumbered := terms.declaration.numberColumn?.any (sameName "id")
      termId := terms.affinity "id"
      termLength := terms.affinity "len"
      yearlyTerm := yearly.affinity "term_id"
      yearlyAttr := yearly.affinity "attr"
      yearlyDay := yearly.affinity "day"
      totalDay := totals.affinity "day"
      totalLength := totals.affinity "term_len"
      totalAttr := totals.affinity "attr" }
    let termRows := terms.rows img
    let yearlyRows := yearly.rows img
    let totalRows := totals.rows img
    let rootless := [terms, yearly, totals].any (·.root == 0) || catalog.lacksIndex terms "id"
    return {
      terms := termRows.items.map termRow
      yearly := if rootless then [] else yearlyRows.items.map yearlyRow
      totals := totalRows.items.map totalRow
      columns := columns
      breaks := {
        terms := termRows.breaksOff
        yearly := rootless || yearlyRows.breaksOff
        totals := totalRows.breaksOff }
      route := catalog.route terms yearly totals columns }

end ShareStreaks
