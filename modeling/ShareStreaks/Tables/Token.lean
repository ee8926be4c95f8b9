import ShareStreaks.Tables.Numeral

/-!
# Tokens of a statement

A statement that declares a table is text.  `tokens` cuts it into words, names and texts in quotation
marks, numbers and signs; blanks and comments between them are dropped.  What cannot be a token is kept
as one of the kind `illegal`, so that a reader can say where it stopped.
-/

set_option autoImplicit false

namespace ShareStreaks

inductive TokenKind where
  /-- A keyword, or a name without quotation marks. -/
  | word
  /-- A name in quotation marks or brackets. -/
  | name
  /-- A text between single quotation marks. -/
  | string
  | number
  /-- Bytes in hexadecimal digits. -/
  | blob
  | parameter
  | sign
  | illegal
deriving DecidableEq

structure Token where
  kind : TokenKind
  /-- The token as it stands in the statement. -/
  text : String
deriving DecidableEq

namespace Token

/-- The character belongs to words. -/
def isWordChar (c : Char) : Bool := c.isAlphanum || c == '_' || c == '$' || 0x80 ≤ c.toNat

/-- The text up to the quotation mark that closes it, with that mark, and the rest; a doubled mark does
not close it. -/
def splitQuoted (mark : Char) : List Char → Option (List Char × List Char)
  | [] => none
  | [c] => if c = mark then some ([c], []) else none
  | c :: d :: cs =>
    if c = mark then
      if d = mark then (splitQuoted mark cs).map fun r => (c :: d :: r.1, r.2) else some ([c], d :: cs)
    else (splitQuoted mark (d :: cs)).map fun r => (c :: r.1, r.2)

/-- What follows the end of a comment between slashes and stars. -/
def afterComment : List Char → List Char
  | '*' :: '/' :: cs => cs
  | _ :: cs => afterComment cs
  | [] => []

/-- The text between quotation marks, a doubled mark standing for one. -/
def unquoted (mark : Char) : List Char → List Char
  | c :: d :: cs => if c = mark ∧ d = mark then c :: unquoted mark cs else c :: unquoted mark (d :: cs)
  | cs => cs

/-- The name or the text that a token stands for. -/
def value (t : Token) : String :=
  match t.kind, t.text.toList with
  | .name, '[' :: cs => String.ofList cs.dropLast
  | .name, mark :: cs | .string, mark :: cs => String.ofList (unquoted mark cs.dropLast)
  | _, cs => String.ofList cs

/-- The word in lower case, or nothing if the token is none. -/
def keyword (t : Token) : String :=
  if t.kind = .word then String.ofList (t.text.toList.map Char.toLower) else ""

/-- The number at the front of a text that begins like one, and the rest. -/
def splitNumber (cs : List Char) : List Char × List Char :=
  let whole := cs.takeWhile Char.isDigit
  let (point, rest) := match cs.dropWhile Char.isDigit with
    | '.' :: rest => ('.' :: rest.takeWhile Char.isDigit, rest.dropWhile Char.isDigit)
    | rest => ([], rest)
  let (exponent, rest) := match rest with
    | c :: more =>
      let sign := more.takeWhile fun d => d == '+' || d == '-'
      let ds := (more.drop sign.length).takeWhile Char.isDigit
      if (c == 'e' || c == 'E') && sign.length ≤ 1 && !ds.isEmpty then
        (c :: sign ++ ds, more.drop (sign.length + ds.length))
      else ([], rest)
    | [] => ([], [])
  (whole ++ point ++ exponent, rest)

def isHexDigit (c : Char) : Bool := c.isDigit || ('a' ≤ c.toLower && c.toLower ≤ 'f')

/-- The word begins like a number in hexadecimal digits. -/
def isHexadecimal : List Char → Bool
  | '0' :: x :: d :: _ => x.toLower == 'x' && isHexDigit d
  | _ => false

/-- The text of a parameter behind its first sign, the rest, and whether it is one.  It can have words in
parentheses at its end. -/
def splitParameter (isNamed : Bool) : List Char → List Char × List Char × Bool
  | [] => ([], [], isNamed)
  | c :: cs =>
    if isWordChar c then
      let r := splitParameter true cs
      (c :: r.1, r.2)
    else if c = '(' ∧ isNamed then
      let inside := cs.takeWhile fun d => !isSpace d && d != ')'
      match cs.drop inside.length with
      | ')' :: rest => (c :: inside ++ [')'], rest, true)
      | rest => (c :: inside, rest, false)
    else ([], c :: cs, isNamed)
where
  isSpace (c : Char) : Bool := Numeral.isGap c

/-- Signs of more than one character. -/
def longSigns : List (List Char) :=
  ["->>", "->", "==", "<=", "<>", "<<", ">=", ">>", "!=", "||"].map String.toList

/-- A token and what follows it. -/
def found (kind : TokenKind) (text rest : List Char) : Option (Token × List Char) :=
  some (⟨kind, String.ofList text⟩, rest)

/-- The token at the front of a text, or what follows the blank or the comment there. -/
def next (cs : List Char) : Option (Token × List Char) ⊕ List Char :=
  let word := cs.takeWhile isWordChar
  let afterWord := cs.dropWhile isWordChar
  match cs with
  | [] => .inl none
  | '-' :: '-' :: rest => .inr (rest.dropWhile (· != '\n'))
  | '/' :: '*' :: c :: rest => .inr (afterComment (c :: rest))
  | c :: rest =>
    if Numeral.isGap c && c != '\x0b' then .inr (rest.dropWhile Numeral.isGap)
    else if c = '\'' ∨ c = '"' ∨ c = '\x60' then
      match splitQuoted c rest with
      | some (inside, after) => .inl (found (if c = '\'' then .string else .name) (c :: inside) after)
      | none => .inl (found .illegal cs [])
    else if c = '[' then
      match rest.dropWhile (· != ']') with
      | close :: after => .inl (found .name (c :: rest.takeWhile (· != ']') ++ [close]) after)
      | [] => .inl (found .illegal cs [])
    else if c.isDigit || (c == '.' && (rest.head?.map Char.isDigit).getD false) then
      if isHexadecimal word then
        .inl (found (if (word.drop 2).all isHexDigit then .number else .illegal) word afterWord)
      else
        let (number, after) := splitNumber cs
        let extra := after.takeWhile isWordChar
        if extra.isEmpty then .inl (found .number number after)
        else .inl (found .illegal (number ++ extra) (after.drop extra.length))
    else if (c = 'x' ∨ c = 'X') ∧ rest.head? = some '\'' then
      let inside := rest.tail.takeWhile (· != '\'')
      let close := (rest.tail.drop inside.length).take 1
      let isOne := !close.isEmpty && inside.all isHexDigit && inside.length % 2 == 0
      .inl (found (if isOne then .blob else .illegal) (c :: '\'' :: inside ++ close)
        (rest.tail.drop (inside.length + 1)))
    else if "$@#:".toList.contains c then
      let (name, after, isOne) := splitParameter false rest
      .inl (found (if isOne then .parameter else .illegal) (c :: name) after)
    else if c = '?' then
      .inl (found .parameter (c :: rest.takeWhile Char.isDigit) (rest.dropWhile Char.isDigit))
    else if isWordChar c then .inl (found .word word afterWord)
    else
      match longSigns.find? fun sign => sign.isPrefixOf cs with
      | some sign => .inl (found .sign sign (cs.drop sign.length))
      | none =>
        .inl (found (if "()+*/%=<>,&~|.;-".toList.contains c then .sign else .illegal) [c] rest)

/-- The tokens of a text, of which at most `steps` pieces are looked at. -/
def tokensOf : Nat → List Char → List Token
  | 0, _ => []
  | steps + 1, cs =>
    match next cs with
    | .inl none => []
    | .inl (some (t, rest)) => t :: tokensOf steps rest
    | .inr rest => tokensOf steps rest

end Token

/-- The tokens of a statement, which ends before the character zero. -/
def tokens (statement : String) : List Token :=
  let cs := statement.toList.takeWhile (· != '\x00')
  Token.tokensOf (cs.length + 1) cs

end ShareStreaks
