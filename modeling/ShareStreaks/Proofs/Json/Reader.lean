import ShareStreaks.Decimal.Literal

/-!
# Reading JSON

`Json.read` reads a JSON text, strictly: strings know every escape and hold no bare control characters,
numbers follow the grammar, and nothing but blanks may stand after the value.  A number is read as the
nearest `Binary64`, and the members of an object stay in the order of the text.

It works in two passes, each from the left with a finite memory of where it is.  `Json.tokens` makes
tokens of the characters; in the middle of a string or a number, the `Place` is what has been read of it.
`Json.parse` makes a value of the tokens; inside brackets, the stack of `Frame`s is what has been read of
the arrays and objects around.
-/

set_option autoImplicit false

namespace ShareStreaks

/-- A JSON value. -/
inductive Json where
  | null
  | bool (b : Bool)
  | number (x : Binary64)
  | string (s : String)
  | array (values : List Json)
  | object (members : List (String × Json))

namespace Json

/-! ## Numbers and words -/

/-- Nothing, or an exponent. -/
def isExponent : List Char → Bool
  | [] => true
  | c :: cs =>
    let ds := (splitSign cs).2
    (c == 'e' || c == 'E') && !ds.isEmpty && ds.all Char.isDigit

/-- Digits after a point or no point at all, and maybe an exponent. -/
def isFraction : List Char → Bool
  | '.' :: cs => !(cs.takeWhile Char.isDigit).isEmpty && isExponent (cs.dropWhile Char.isDigit)
  | cs => isExponent cs

/-- A number without its sign: no zero in front of other digits, and a digit on each side of a point. -/
def isUnsigned (cs : List Char) : Bool :=
  let whole := cs.takeWhile Char.isDigit
  !whole.isEmpty && (whole.head? != some '0' || whole.length == 1)
    && isFraction (cs.dropWhile Char.isDigit)

def isNumber : List Char → Bool
  | '-' :: cs => isUnsigned cs
  | cs => isUnsigned cs

/-- The value of a number or a word. -/
def plain? (cs : List Char) : Option Json :=
  if isNumber cs then (readBinary64 cs).toOption.map .number
  else if cs = ['n', 'u', 'l', 'l'] then some .null
  else if cs = ['t', 'r', 'u', 'e'] then some (.bool true)
  else if cs = ['f', 'a', 'l', 's', 'e'] then some (.bool false)
  else none

/-! ## Tokens -/

inductive Token where
  /-- A bracket, a brace, a comma or a colon. -/
  | mark (c : Char)
  | string (s : String)
  | plain (v : Json)

/-- Where a text has been read to. -/
inductive Place where
  | outside
  /-- In a number or a word, after these characters. -/
  | bare (cs : List Char)
  /-- In a string, after these characters.  After the first half of a surrogate pair, the second half has
  to follow. -/
  | inside (cs : List Char) (half : Option Nat)
  /-- After a backslash. -/
  | escape (cs : List Char) (half : Option Nat)
  /-- After some of the four digits of a code, and their value. -/
  | code (cs : List Char) (half : Option Nat) (count value : Nat)

/-- The character can stand in a number or a word. -/
def isBare (c : Char) : Bool := c.isAlphanum || c == '-' || c == '+' || c == '.'

def isMark (c : Char) : Bool := ['\x7b', '\x7d', '[', ']', ',', ':'].contains c

/-- The character for a letter after a backslash. -/
def escaped? (c : Char) : Option Char :=
  if c = '"' ∨ c = '\\' ∨ c = '/' then some c
  else if c = 'b' then some '\x08'
  else if c = 'f' then some '\x0c'
  else if c = 'n' then some '\n'
  else if c = 'r' then some '\r'
  else if c = 't' then some '\t'
  else none

def hexDigit? (c : Char) : Option Nat :=
  if c.isDigit then some (c.toNat - '0'.toNat)
  else if 'a' ≤ c ∧ c ≤ 'f' then some (c.toNat - 'a'.toNat + 10)
  else if 'A' ≤ c ∧ c ≤ 'F' then some (c.toNat - 'A'.toNat + 10)
  else none

namespace Place

/-- After a code of four digits.  The codes from `0xD800` to `0xDFFF` are halves of surrogate pairs. -/
def afterCode (cs : List Char) (half : Option Nat) (n : Nat) : Option Place :=
  match half with
  | none =>
    if n < 0xD800 ∨ 0xE000 ≤ n then some (.inside (cs ++ [Char.ofNat n]) none)
    else if n < 0xDC00 then some (.inside cs (some n))
    else none
  | some h =>
    if 0xDC00 ≤ n ∧ n < 0xE000 then
      some (.inside (cs ++ [Char.ofNat (0x10000 + (h - 0xD800) * 0x400 + (n - 0xDC00))]) none)
    else none

/-- A character between tokens. -/
def start (c : Char) : Option (List Token × Place) :=
  if isBare c then some ([], .bare [c])
  else if c = '"' then some ([], .inside [] none)
  else if isMark c then some ([.mark c], .outside)
  else if c = ' ' ∨ c = '\t' ∨ c = '\n' ∨ c = '\r' then some ([], .outside)
  else none

/-- The tokens that a character completes, and the place after it. -/
def step : Place → Char → Option (List Token × Place)
  | .outside, c => start c
  | .bare cs, c =>
    if isBare c then some ([], .bare (cs ++ [c]))
    else (plain? cs).bind fun v => (start c).map fun r => (.plain v :: r.1, r.2)
  | .inside cs half, c =>
    if c = '\\' then some ([], .escape cs half)
    else if half.isSome ∨ c.toNat < 0x20 then none
    else if c = '"' then some ([.string (String.ofList cs)], .outside)
    else some ([], .inside (cs ++ [c]) none)
  | .escape cs half, c =>
    if c = 'u' then some ([], .code cs half 0 0)
    else if half.isSome then none
    else (escaped? c).map fun d => ([], .inside (cs ++ [d]) none)
  | .code cs half count n, c => (hexDigit? c).bind fun d =>
    if count < 3 then some ([], .code cs half (count + 1) (16 * n + d))
    else (afterCode cs half (16 * n + d)).map fun p => ([], p)

/-- The token that the end of the text completes. -/
def finish : Place → Option (List Token)
  | .outside => some []
  | .bare cs => (plain? cs).map fun v => [.plain v]
  | _ => none

end Place

/-- The tokens of a text from a place on. -/
def tokens : Place → List Char → Option (List Token)
  | p, [] => p.finish
  | p, c :: cs => (p.step c).bind fun r => (tokens r.2 cs).map (r.1 ++ ·)

/-! ## Values -/

/-- An array or an object of which not all has been read. -/
inductive Frame where
  | array (values : List Json)
  /-- The value of this key is being read. -/
  | object (members : List (String × Json)) (key : String)

/-- What has been read, and what is to follow. -/
inductive Reading where
  | value (stack : List Frame)
  /-- A value of an array, or the end of the array. -/
  | first (stack : List Frame)
  | key (members : List (String × Json)) (stack : List Frame)
  /-- A key of an object, or the end of the object. -/
  | firstKey (stack : List Frame)
  | colon (members : List (String × Json)) (key : String) (stack : List Frame)
  /-- What goes on after a value. -/
  | after (v : Json) (stack : List Frame)

namespace Reading

/-- The beginning of a value. -/
def stepValue (stack : List Frame) : Token → Option Reading
  | .plain v => some (.after v stack)
  | .string s => some (.after (.string s) stack)
  | .mark c =>
    if c = '[' then some (.first stack) else if c = '\x7b' then some (.firstKey stack) else none

def step : Reading → Token → Option Reading
  | .value stack, t => stepValue stack t
  | .first stack, .mark ']' => some (.after (.array []) stack)
  | .first stack, t => stepValue (.array [] :: stack) t
  | .key ms stack, .string k => some (.colon ms k stack)
  | .firstKey stack, .string k => some (.colon [] k stack)
  | .firstKey stack, .mark '\x7d' => some (.after (.object []) stack)
  | .colon ms k stack, .mark ':' => some (.value (.object ms k :: stack))
  | .after v (.array vs :: stack), .mark ',' => some (.value (.array (vs ++ [v]) :: stack))
  | .after v (.array vs :: stack), .mark ']' => some (.after (.array (vs ++ [v])) stack)
  | .after v (.object ms k :: stack), .mark ',' => some (.key (ms ++ [(k, v)]) stack)
  | .after v (.object ms k :: stack), .mark '\x7d' =>
    some (.after (.object (ms ++ [(k, v)])) stack)
  | _, _ => none

end Reading

/-- The value that tokens make up. -/
def parse : Reading → List Token → Option Json
  | .after v [], [] => some v
  | _, [] => none
  | r, t :: ts => (r.step t).bind (parse · ts)

/-- The value of a text. -/
def read (cs : List Char) : Option Json := (tokens .outside cs).bind (parse (.value []))

end Json
end ShareStreaks
