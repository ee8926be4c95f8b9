import ShareStreaks.Text.Alphanumeric

/-!
# Patterns

Whether a text is a regular expression, as far as it can be one inside braces: it holds no closing brace
and no comma, so nothing in it can be counted.  `isPattern` goes through the text once and keeps only
how many groups are open and whether there is something that an operator could repeat.

Looking around and referring back are not understood, and neither are the edges of words.
-/

set_option autoImplicit false

namespace ShareStreaks
namespace Pattern

/-! ## Escapes -/

/-- What stands behind a backslash: a character, a class of characters, or an edge of the text. -/
inductive Escape where
  | literal (c : Char)
  | characterClass
  | edge
deriving DecidableEq

def isHexDigit (c : Char) : Bool :=
  c.isDigit || ('a' ≤ c && c ≤ 'f') || ('A' ≤ c && c ≤ 'F')

def hexValue (c : Char) : Nat :=
  if c.isDigit then c.toNat - '0'.toNat else c.toLower.toNat - 'a'.toNat + 10

/-- The character with the given number of hexadecimal digits, and what follows them. -/
def readHex (count : Nat) (cs : List Char) : Option (Escape × List Char) :=
  let ds := cs.take count
  let n := ds.foldl (fun n c => 16 * n + hexValue c) 0
  if ds.length = count ∧ ds.all isHexDigit ∧ (n < 0xD800 ∨ (0xE000 ≤ n ∧ n < 0x110000)) then
    some (.literal (Char.ofNat n), cs.drop count)
  else none

/-- The letters of the kinds of characters. -/
def kindLetters : List Char := ['c', 'l', 'm', 'n', 'p', 's', 'z']

/-- What the text behind a backslash begins with, and what follows it. -/
def readEscape : List Char → Option (Escape × List Char)
  | [] => none
  | c :: cs =>
    match c with
    | 'x' => readHex 2 cs
    | 'u' => readHex 4 cs
    | 'U' => readHex 8 cs
    | 'p' | 'P' =>
      match cs with
      | k :: rest => if kindLetters.contains k.toLower then some (.characterClass, rest) else none
      | [] => none
    | 'd' | 'D' | 's' | 'S' | 'w' | 'W' => some (.characterClass, cs)
    | 'A' | 'z' => some (.edge, cs)
    | 'a' => some (.literal '\x07', cs)
    | 'f' => some (.literal '\x0c', cs)
    | 't' => some (.literal '\t', cs)
    | 'n' => some (.literal '\n', cs)
    | 'r' => some (.literal '\r', cs)
    | 'v' => some (.literal '\x0b', cs)
    | _ =>
      if c.toNat < 0x80 && !c.isAlphanum && c != '<' && c != '>' then some (.literal c, cs) else none

/-! ## Classes -/

/-- One member of a class, and what follows it. -/
def readMember : List Char → Option (Escape × List Char)
  | '\\' :: cs => (readEscape cs).filter fun e => e.1 ≠ .edge
  | c :: cs => some (.literal c, cs)
  | [] => none

/-- A member of a class or a range of them, and what follows. -/
def readRange (cs : List Char) : Option (List Char) := do
  let (first, rest) ← readMember cs
  match rest with
  | [] => none
  | '-' :: ']' :: _ | '-' :: '-' :: _ => return rest
  | '-' :: more =>
    let (last, rest) ← readMember more
    match first, last with
    | .literal a, .literal b => if a ≤ b then return rest else none
    | _, _ => none
  | _ => return rest

/-- The names of classes that can stand between colons. -/
def classNames : List String :=
  ["alnum", "alpha", "ascii", "blank", "cntrl", "digit", "graph", "lower", "print", "punct", "space",
    "upper", "word", "xdigit"]

/-- What follows a class between colons, its bracket and first colon having been taken off. -/
def afterNamedClass (cs : List Char) : Option (List Char) :=
  let cs := if cs.head? = some '^' then cs.tail else cs
  match cs.dropWhile (· != ':') with
  | ':' :: ']' :: rest =>
    if classNames.contains (String.ofList (cs.takeWhile (· != ':'))) then some rest else none
  | _ => none

/-- What follows the signs that a class may open with and that stand for themselves there. -/
def afterOpening (cs : List Char) : List Char :=
  let cs := if cs.head? = some '^' then cs.tail else cs
  match cs with
  | ']' :: rest => rest
  | _ => cs.dropWhile (· == '-')

/-- What follows a class, its bracket having been taken off; `depth` more classes are open around it. -/
def afterClass : Nat → Nat → List Char → Option (List Char)
  | 0, _, _ => none
  | _ + 1, _, [] => none
  | steps + 1, depth, c :: cs =>
    if c = ']' then if depth = 0 then some cs else afterClass steps (depth - 1) cs
    else if c = '[' then
      match if cs.head? = some ':' then afterNamedClass cs.tail else none with
      | some rest => afterClass steps depth rest
      | none => afterClass steps (depth + 1) (afterOpening cs)
    else if (c = '&' ∨ c = '-' ∨ c = '~') ∧ cs.head? = some c then afterClass steps depth cs.tail
    else (readRange (c :: cs)).bind (afterClass steps depth)

/-! ## Groups -/

/-- The letters of the flags that a group can set. -/
def flagLetters : List Char := ['i', 'm', 's', 'U', 'u', 'R', 'x']

/-- The flags are known, none is there twice, and a minus has flags after it. -/
def areFlags (cs : List Char) : Bool :=
  cs.Nodup && cs.all (fun c => c == '-' || flagLetters.contains c) && cs.getLast? != some '-'

/-- The text can name a group. -/
def isGroupName : List Char → Bool
  | [] => false
  | c :: cs =>
    (c == '_' || (isAlphanumeric c && !c.isDigit))
      && cs.all fun c => c == '_' || c == '.' || c == '[' || c == ']' || isAlphanumeric c

/-- What opens a group after its parenthesis, and what follows. -/
inductive Opening where
  | group (rest : List Char)
  | named (name rest : List Char)
  /-- Flags for the rest of the group around. -/
  | flags (rest : List Char)

def readName (cs : List Char) : Option Opening :=
  match cs.dropWhile (· != '>') with
  | _ :: rest =>
    let name := cs.takeWhile (· != '>')
    if isGroupName name then some (.named name rest) else none
  | [] => none

def readOpening : List Char → Option Opening
  | '?' :: 'P' :: '<' :: cs => readName cs
  | '?' :: '<' :: '=' :: _ | '?' :: '<' :: '!' :: _ => none
  | '?' :: '<' :: cs => readName cs
  | '?' :: cs =>
    let flags := cs.takeWhile fun c => c != ':' && c != ')'
    match cs.dropWhile fun c => c != ':' && c != ')' with
    | ':' :: rest => if areFlags flags then some (.group rest) else none
    | ')' :: rest => if areFlags flags && !flags.isEmpty then some (.flags rest) else none
    | _ => none
  | cs => some (.group cs)

/-! ## The whole pattern -/

/-- The rest of a pattern is one, with `depth` groups open; `repeatable` says that something stands
before it to which an operator can belong. -/
def isRest : Nat → Nat → Bool → List (List Char) → List Char → Bool
  | 0, _, _, _, _ => false
  | _ + 1, depth, _, _, [] => depth == 0
  | steps + 1, depth, repeatable, names, c :: cs =>
    match c with
    | '(' =>
      match readOpening cs with
      | some (.group rest) => isRest steps (depth + 1) false names rest
      | some (.named name rest) =>
        !names.contains name && isRest steps (depth + 1) false (name :: names) rest
      | some (.flags rest) => isRest steps depth false names rest
      | none => false
    | ')' => depth != 0 && isRest steps (depth - 1) true names cs
    | '|' => isRest steps depth false names cs
    | '[' => (afterClass (cs.length + 1) 0 (afterOpening cs)).any (isRest steps depth true names)
    | '?' | '*' | '+' =>
      repeatable && isRest steps depth true names (if cs.head? = some '?' then cs.tail else cs)
    | '{' => false
    | '\\' => (readEscape cs).any fun e => isRest steps depth true names e.2
    | _ => isRest steps depth true names cs

end Pattern

/-- The text is a regular expression. -/
def isPattern (cs : List Char) : Bool := Pattern.isRest (cs.length + 1) 0 false [] cs

end ShareStreaks
