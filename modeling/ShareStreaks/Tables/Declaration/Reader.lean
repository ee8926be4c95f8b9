import ShareStreaks.Tables.Declaration
import ShareStreaks.Tables.Token

/-!
# Reading declarations

`readDeclaration` reads a statement that declares a table: the name of the table, its columns with their
types, constraints and defaults, the constraints of the table, and its options.  Of conditions and
computed values only the parentheses around them are read.  `readIndexDeclaration` reads of an index which
columns it is made of.

A statement of another form is refused at the first token that does not fit, or as incomplete if it ends
too early.  Keywords are the same in letters of either case.
-/

set_option autoImplicit false

namespace ShareStreaks
namespace Declaration

/-! ## Reading tokens -/

/-- What a reader of tokens gives: often a thing and the rest of the tokens. -/
abbrev Reading := Except DeclarationFault

/-- What is wrong with a token that does not fit. -/
def refuse {α : Type} : List Token → Reading α
  | [] => .error .incomplete
  | t :: _ => .error (if t.kind = .illegal then .unrecognized t.text else .unexpected t.text)

def isSign (s : String) (t : Token) : Bool := t.kind = .sign && t.text == s

/-- The rest after a token with a property. -/
def expect (fits : Token → Bool) : List Token → Reading (List Token)
  | t :: ts => if fits t then .ok ts else refuse (t :: ts)
  | [] => refuse []

def expectSign (s : String) : List Token → Reading (List Token) := expect (isSign s)

def expectWord (w : String) : List Token → Reading (List Token) :=
  expect fun t => t.keyword == w

/-- The rest after a word, if it is there, and whether it was. -/
def optionalWord (w : String) : List Token → Bool × List Token
  | t :: ts => if t.keyword == w then (true, ts) else (false, t :: ts)
  | [] => (false, [])

/-- Words that cannot be names of types. -/
def joinWords : List String :=
  ["cross", "full", "indexed", "inner", "left", "natural", "outer", "right"]

/-- Words that cannot be names. -/
def reservedWords : List String :=
  ["add", "all", "alter", "and", "as", "autoincrement", "between", "case", "check", "collate",
    "commit", "constraint", "create", "default", "deferrable", "delete", "distinct", "drop", "else",
    "escape", "except", "exists", "foreign", "from", "group", "having", "in", "index", "insert",
    "intersect", "into", "is", "isnull", "join", "limit", "not", "nothing", "notnull", "null", "on",
    "or", "order", "primary", "references", "returning", "select", "set", "table", "then", "to",
    "transaction", "union", "unique", "update", "using", "values", "when", "where"]

def isName (t : Token) : Bool :=
  match t.kind with
  | .name | .string => true
  | .word => !reservedWords.contains t.keyword
  | _ => false

/-- The token can be a word of a type. -/
def isTypeWord (t : Token) : Bool := isName t && !joinWords.contains t.keyword

def readName : List Token → Reading (String × List Token)
  | t :: ts => if isName t then .ok (t.value, ts) else refuse (t :: ts)
  | [] => refuse []

/-- The rest after the parenthesis that closes `depth` open ones. -/
def closed : Nat → List Token → Reading (List Token)
  | _, [] => .error .incomplete
  | depth, t :: ts =>
    if t.kind = .illegal then refuse (t :: ts)
    else if isSign "(" t then closed (depth + 1) ts
    else if isSign ")" t then if depth ≤ 1 then .ok ts else closed (depth - 1) ts
    else if isSign ";" t then refuse (t :: ts)
    else closed depth ts

/-- The rest after something in parentheses. -/
def parenthesized (ts : List Token) : Reading (List Token) := do
  let ts ← expectSign "(" ts
  match ts with
  | t :: _ => if isSign ")" t then refuse ts else closed 1 ts
  | [] => refuse ts

/-! ## Types and values -/

/-- The words of a type. -/
def readWords : List Token → List String × List Token
  | [] => ([], [])
  | t :: ts =>
    if isTypeWord t && t.keyword != "generated" then
      let (words, rest) := readWords ts
      (t.value :: words, rest)
    else ([], t :: ts)

/-- The rest after a number that may have a sign. -/
def readSigned (ts : List Token) : Reading (List Token) := do
  let ts := match ts with
    | t :: rest => if isSign "+" t || isSign "-" t then rest else ts
    | [] => ts
  expect (fun t => t.kind = .number) ts

/-- A type: words, and perhaps one or two numbers in parentheses. -/
def readType (ts : List Token) : Reading (String × List Token) := do
  let (words, rest) := readWords ts
  let type := " ".intercalate words
  match rest with
  | t :: more =>
    if words.isEmpty || !isSign "(" t then return (type, rest)
    let more ← readSigned more
    match more with
    | t :: second =>
      if isSign "," t then return (type, ← expectSign ")" (← readSigned second))
      return (type, ← expectSign ")" more)
    | [] => refuse []
  | [] => return (type, rest)

/-- The bytes that hexadecimal digits stand for. -/
def hexBytes : List Char → List UInt8
  | a :: b :: cs => (16 * hexDigitValue a + hexDigitValue b).toUInt8 :: hexBytes cs
  | _ => []
where
  hexDigitValue (c : Char) : Nat :=
    if c.isDigit then c.toNat - '0'.toNat else c.toLower.toNat - 'a'.toNat + 10

/-- The value that a token stands for in a column with an affinity, if it is the same for all rows. -/
def constant (a : Affinity) (negative : Bool) (t : Token) : Cell :=
  let sign := if negative then "-" else ""
  match t.kind with
  | .number => (if a = .none then Affinity.numeric else a).applied (.text (sign ++ t.text))
  | .string => a.applied (.text t.value)
  | .blob => .blob (hexBytes (t.text.toList.drop 2).dropLast)
  | .word =>
    match t.keyword with
    | "null" | "current_date" | "current_time" | "current_timestamp" => .null
    | "true" => a.applied (.integer 1)
    | "false" => a.applied (.integer 0)
    | _ => a.applied (.text t.text)
  | .name => a.applied (.text t.value)
  | .parameter | .sign | .illegal => .null

/-- The token can be a default without parentheses. -/
def isTerm (t : Token) : Bool :=
  t.kind = .string || t.kind = .number || t.kind = .blob || t.keyword == "null"

/-- A default: a value, a name that stands for itself, or something in parentheses. -/
def readDefault (a : Affinity) (ts : List Token) : Reading (Cell × List Token) :=
  match ts with
  | t :: rest =>
    if isSign "(" t then do
      let after ← parenthesized ts
      match rest with
      | [v, _] => return (constant a false v, after)
      | v :: w :: x :: _ =>
        return (if isSign ")" w && isTerm v then constant a false v
          else if isSign "-" v && isTerm w && isSign ")" x then constant a true w else .null, after)
      | _ => return (.null, after)
    else if isSign "+" t || isSign "-" t then
      match rest with
      | v :: after =>
        if isTerm v || v.keyword.startsWith "current_" then .ok (constant a (isSign "-" t) v, after)
        else refuse rest
      | [] => refuse rest
    else if isTerm t || (isTypeWord t && t.kind ≠ .string) then .ok (constant a false t, rest)
    else refuse ts
  | [] => refuse ts

/-! ## Constraints -/

/-- The rest after what is to be done about a conflict. -/
def readConflict (ts : List Token) : Reading (List Token) :=
  match optionalWord "on" ts with
  | (false, ts) => .ok ts
  | (true, ts) => do
    let ts ← expectWord "conflict" ts
    expect (fun t => ["rollback", "abort", "fail", "ignore", "replace"].contains t.keyword) ts

/-- The rest after an order. -/
def readOrder (ts : List Token) : Bool × List Token :=
  match optionalWord "desc" ts with
  | (true, ts) => (true, ts)
  | (false, ts) => (false, (optionalWord "asc" ts).2)

/-- The names in parentheses, of which there can be others than columns. -/
def readNames (steps : Nat) (ts : List Token) : Reading (List KeyColumn × List Token) :=
  match steps with
  | 0 => refuse ts
  | steps + 1 => do
    let (name, ts) ← readName ts
    let (collates, ts) ← match optionalWord "collate" ts with
      | (true, ts) => (readName ts).map fun r => (true, r.2)
      | (false, ts) => pure (false, ts)
    let (descends, ts) := readOrder ts
    let column : KeyColumn := ⟨name, descends, collates⟩
    match ts with
    | t :: rest =>
      if isSign "," t then
        let (columns, rest) ← readNames steps rest
        return (column :: columns, rest)
      else if isSign ")" t then return ([column], rest)
      else if t.keyword == "autoincrement" then return ([column], ← expectSign ")" rest)
      else refuse ts
    | [] => refuse ts

/-- The rest after what is to be done about rows that are referred to. -/
def readActions (steps : Nat) (ts : List Token) : Reading (List Token) :=
  match steps with
  | 0 => refuse ts
  | steps + 1 =>
    match optionalWord "on" ts with
    | (true, ts) => do
      let ts ← expect (fun t => ["insert", "delete", "update"].contains t.keyword) ts
      match ts with
      | t :: rest =>
        if t.keyword == "set" then
          readActions steps (← expect (fun t => ["null", "default"].contains t.keyword) rest)
        else if t.keyword == "no" then readActions steps (← expectWord "action" rest)
        else if ["cascade", "restrict"].contains t.keyword then readActions steps rest
        else refuse ts
      | [] => refuse ts
    | (false, ts) =>
      match optionalWord "match" ts with
      | (true, ts) => do readActions steps (← readName ts).2
      | (false, ts) => .ok ts

/-- The rest after a clause about when references are checked, if there is one. -/
def readDeferral (ts : List Token) : Reading (List Token) :=
  let after := match ts with
    | t :: u :: rest =>
      if t.keyword == "not" && u.keyword == "deferrable" then some rest
      else if t.keyword == "deferrable" then some (u :: rest) else none
    | [t] => if t.keyword == "deferrable" then some [] else none
    | [] => none
  match after with
  | none => .ok ts
  | some ts =>
    match optionalWord "initially" ts with
    | (false, ts) => .ok ts
    | (true, ts) => expect (fun t => ["deferred", "immediate"].contains t.keyword) ts

/-- The rest after a reference to another table. -/
def readReference (ts : List Token) : Reading (List Token) := do
  let (_, ts) ← readName ts
  let ts ← match ts with
    | t :: rest => if isSign "(" t then (readNames rest.length rest).map Prod.snd else pure ts
    | [] => pure ts
  readActions (ts.length + 1) ts

/-- The word begins a constraint of the table. -/
def beginsConstraint (t : Token) : Bool :=
  ["constraint", "primary", "unique", "check", "foreign"].contains t.keyword

/-- The first of the names that is not the name of a column. -/
def foreignName? (d : Declaration) (names : List String) : Option String :=
  names.find? fun name => !d.columns.any fun c => sameName c.name name

/-- All names are names of columns. -/
def checkNames (d : Declaration) (key : List KeyColumn) (fault : String → DeclarationFault) :
    Reading Unit :=
  match d.foreignName? (key.map KeyColumn.name) with
  | some name => .error (fault name)
  | none => .ok ()

/-- A constraint of the table can end before the tokens. -/
def checkEnd (ts : List Token) : Reading Unit :=
  match ts with
  | t :: _ => if isSign ")" t || isSign "," t || beginsConstraint t then .ok () else refuse ts
  | [] => refuse ts

/-- Adds a primary key. -/
def withKey (d : Declaration) (k : PrimaryKey) : Except DeclarationFault Declaration :=
  if d.key.isSome then .error (.keyTwice d.name)
  else
    let d := { d with key := some k }
    if k.grows && d.numberColumn?.isNone then .error .growingKey else .ok d

/-- Changes the column that was declared last. -/
def changeLast (d : Declaration) (f : Column → Column) : Declaration :=
  { d with columns := d.columns.dropLast ++ (d.columns.getLast?.map f).toList }

/-- The constraints of the column that was declared last. -/
def readColumnConstraints (steps : Nat) (d : Declaration) (ts : List Token) :
    Reading (Declaration × List Token) :=
  match steps, ts with
  | 0, _ => refuse ts
  | _, [] => .ok (d, [])
  | steps + 1, t :: rest =>
    let last : Column := d.columns.getLast?.getD ⟨"", "", .null, false⟩
    match t.keyword with
    | "constraint" => do readColumnConstraints steps d (← readName rest).2
    | "null" => do readColumnConstraints steps d (← readConflict rest)
    | "not" =>
      match optionalWord "null" rest with
      | (true, rest) => do readColumnConstraints steps d (← readConflict rest)
      | (false, _) => do
        match rest with
        | u :: _ =>
          if u.keyword == "deferrable" then readColumnConstraints steps d (← readDeferral ts)
          else refuse rest
        | [] => refuse rest
    | "deferrable" => do readColumnConstraints steps d (← readDeferral ts)
    | "default" => do
      let (value, rest) ← readDefault last.affinity rest
      readColumnConstraints steps (d.changeLast fun c => { c with missing := value }) rest
    | "primary" => do
      let rest ← expectWord "key" rest
      let (descends, rest) := readOrder rest
      let rest ← readConflict rest
      let (grows, rest) := optionalWord "autoincrement" rest
      readColumnConstraints steps (← d.withKey ⟨[⟨last.name, descends, false⟩], descends, grows⟩) rest
    | "unique" => do
      let d := { d with uniques := d.uniques ++ [[⟨last.name, false, false⟩]] }
      readColumnConstraints steps d (← readConflict rest)
    | "check" => do readColumnConstraints steps d (← parenthesized rest)
    | "references" => do readColumnConstraints steps d (← readReference rest)
    | "collate" => do
      readColumnConstraints steps d (← expect isTypeWord rest)
    | "generated" => do
      let rest ← expectWord "as" (← expectWord "always" rest)
      computed steps d rest
    | "as" => computed steps d rest
    | _ => .ok (d, ts)
where
  /-- Reads how the column is computed, and whether it is stored. -/
  computed (steps : Nat) (d : Declaration) (ts : List Token) : Reading (Declaration × List Token) := do
    let ts ← parenthesized ts
    let (stored, ts) := optionalWord "stored" ts
    let ts := (optionalWord "virtual" ts).2
    readColumnConstraints steps (d.changeLast fun c => { c with isComputed := !stored }) ts

/-- The constraints of the table, up to the parenthesis behind them. -/
def readTableConstraints (steps : Nat) (d : Declaration) (ts : List Token) :
    Reading (Declaration × List Token) :=
  match steps, ts with
  | 0, _ | _, [] => refuse ts
  | steps + 1, t :: rest =>
    match t.keyword with
    | "constraint" => do after steps d (← readName rest).2
    | "primary" => do
      let rest ← expectSign "(" (← expectWord "key" rest)
      let (names, after') ← readNames rest.length rest
      let grows := (rest.take (rest.length - after'.length)).any fun t => t.keyword == "autoincrement"
      let rest ← readConflict after'
      checkEnd rest
      let d ← d.withKey ⟨names, false, grows⟩
      d.checkNames names .noColumn
      after steps d rest
    | "unique" => do
      let rest ← expectSign "(" rest
      let (names, rest) ← readNames rest.length rest
      let rest ← readConflict rest
      checkEnd rest
      d.checkNames names .noColumn
      after steps { d with uniques := d.uniques ++ [names] } rest
    | "check" => do after steps d (← readConflict (← parenthesized rest))
    | "foreign" => do
      let rest ← expectSign "(" (← expectWord "key" rest)
      let (names, rest) ← readNames rest.length rest
      let rest ← readDeferral (← readReference (← expectWord "references" rest))
      checkEnd rest
      d.checkNames names .noReferringColumn
      after steps d rest
    | _ => refuse ts
where
  /-- Goes on after a constraint; a comma between two of them can be left out. -/
  after (steps : Nat) (d : Declaration) (ts : List Token) : Reading (Declaration × List Token) :=
    match ts with
    | t :: rest =>
      if isSign ")" t then .ok (d, rest)
      else if isSign "," t then readTableConstraints steps d rest
      else readTableConstraints steps d ts
    | [] => refuse ts

/-! ## The whole statement -/

/-- The columns and the constraints of the table, up to the parenthesis behind them. -/
def readColumns (steps : Nat) (d : Declaration) (ts : List Token) : Reading (Declaration × List Token) :=
  match steps with
  | 0 => refuse ts
  | steps + 1 => do
    let (name, ts) ← readName ts
    let (type, ts) ← readType ts
    if d.columns.any fun c => sameName c.name name then throw (.columnTwice name)
    let d := { d with columns := d.columns ++ [{ name := name, type := type }] }
    let (d, ts) ← readColumnConstraints (ts.length + 1) d ts
    match ts with
    | t :: rest =>
      if isSign ")" t then return (d, rest)
      else if isSign "," t then
        if (rest.head?.map beginsConstraint).getD false then
          readTableConstraints (rest.length + 1) d rest
        else readColumns steps d rest
      else refuse ts
    | [] => refuse ts

/-- The options of the table, between commas. -/
def readOptions (steps : Nat) (d : Declaration) (ts : List Token) : Reading Declaration :=
  match steps, ts with
  | _, [] => .ok d
  | 0, _ => refuse ts
  | steps + 1, t :: rest =>
    if isSign ";" t then .ok d
    else if t.keyword == "without" then
      match rest with
      | u :: rest =>
        if !isName u then refuse (u :: rest)
        else if u.keyword == "rowid" then more steps { d with byKey := true } rest
        else unknown u rest
      | [] => refuse []
    else if !isName t then refuse ts
    else if t.keyword == "strict" then more steps { d with isStrict := true } rest
    else unknown t rest
where
  /-- Goes on after an option. -/
  more (steps : Nat) (d : Declaration) (ts : List Token) : Reading Declaration :=
    match ts with
    | [] => .ok d
    | t :: rest =>
      if isSign "," t then (match rest with
        | [] => refuse []
        | _ => readOptions steps d rest)
      else if isSign ";" t then .ok d
      else refuse ts
  /-- Refuses an option that is not known, if it can be one by what follows it. -/
  unknown (t : Token) (ts : List Token) : Reading Declaration :=
    match ts with
    | [] => .error (.unknownOption t.value)
    | u :: _ => if isSign "," u || isSign ";" u then .error (.unknownOption t.value) else refuse ts

/-- The options behind the columns, which can begin with a comma. -/
def readAllOptions (d : Declaration) (ts : List Token) : Reading Declaration :=
  match ts with
  | [] => .ok d
  | t :: rest =>
    if isSign "," t then
      if (rest.head?.map (isSign ";")).getD true then refuse rest
      else readOptions (rest.length + 1) d rest
    else readOptions (ts.length + 1) d ts

/-- The types of the columns of a strict table. -/
def strictTypes : List String := ["any", "blob", "int", "integer", "real", "text"]

/-- What is wrong with the declaration as a whole. -/
def check (d : Declaration) : Reading Unit :=
  match d.columns.find? fun c => d.isStrict && !strictTypes.contains (lowered c.type) with
  | some c => .error (if c.type.isEmpty then .typeMissing d.name c.name
      else .unknownType d.name c.name c.type)
  | none =>
    match d.byKey, d.key with
    | true, none => .error (.keyMissing d.name)
    | true, some key => if key.grows then .error .growingWithoutNumbers else .ok ()
    | false, _ => .ok ()

end Declaration

open Declaration in
/-- The name of the table that a statement declares, and the columns that follow it. -/
def readDeclaredName (statement : String) : Reading (String × List Token) := do
  let ts ← expectWord "create" (tokens statement)
  let ts := match optionalWord "temp" ts with
    | (true, ts) => ts
    | (false, ts) => (optionalWord "temporary" ts).2
  let ts ← expectWord "table" ts
  let ts ← match optionalWord "if" ts with
    | (true, ts) => do expectWord "exists" (← expectWord "not" ts)
    | (false, ts) => pure ts
  let (name, ts) ← readName ts
  match ts with
  | t :: _ =>
    if isSign "." t then throw .qualifiedName
    else if isSign "(" t then return (name, ts)
    else refuse ts
  | [] => refuse ts

open Declaration in
/-- Reads the statement that declares an index. -/
def readIndexDeclaration (statement : String) : Reading IndexDeclaration := do
  let ts ← expectWord "create" (tokens statement)
  let ts ← expectWord "index" (optionalWord "unique" ts).2
  let ts ← match optionalWord "if" ts with
    | (true, ts) => do expectWord "exists" (← expectWord "not" ts)
    | (false, ts) => pure ts
  let (_, ts) ← readName ts
  let (table, ts) ← readName (← expectWord "on" ts)
  let ts ← expectSign "(" ts
  match readNames ts.length ts with
  | .ok (columns, rest) =>
    return ⟨table, if rest.all (isSign ";") then some columns else none⟩
  | .error _ => return ⟨table, none⟩

open Declaration in
/-- Reads the statement that declares a table. -/
def readDeclaration (statement : String) : Except DeclarationFault Declaration := do
  let (name, ts) ← readDeclaredName statement
  let ts ← expectSign "(" ts
  let (d, ts) ← readColumns (ts.length + 1) { name := name } ts
  let d ← readAllOptions d ts
  d.check
  return d

end ShareStreaks
