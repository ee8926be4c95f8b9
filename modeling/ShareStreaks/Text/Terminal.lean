/-!
# Texts for a terminal

A terminal is steered by control characters and by *escape sequences*, which begin with the character
27.  `withoutSteering` takes them out of a text, so that it can be shown anywhere.

Most sequences end with a letter.  Those that carry a text of their own end with the character 7, with
the byte `0x9C`, or with neither, according to their kind.  Every sequence ends where another begins, and
at the characters 24 and 26; and those without a text of their own at a line end.
-/

set_option autoImplicit false

namespace ShareStreaks

/-- Where the reader of a text for a terminal is. -/
inductive TerminalState where
  /-- In the text itself. -/
  | ground
  /-- Behind the character that begins a sequence. -/
  | escape
  /-- In a sequence that has to end with a digit or a letter. -/
  | intermediate
  /-- In a sequence of numbers that has to end with a letter. -/
  | numbers
  /-- In what goes before the text of a sequence. -/
  | header
  /-- The same, after its first parameter. -/
  | parameters
  /-- The same, behind its parameters. -/
  | trailer
  /-- In the text of a sequence. -/
  | string
  /-- In the text of a sequence that sets a title. -/
  | title
deriving DecidableEq

/-- Control characters that are kept. -/
def isLayout (c : Char) : Bool := c == '\t' || c == '\n' || c == '\x0c' || c == '\r'

/-- One of the bytes of the character is `0x9C`. -/
def endsString (c : Char) : Bool := (String.singleton c).toUTF8.toList.contains 0x9C

namespace TerminalState

/-- The state behind a character that neither begins a sequence nor breaks one off. -/
def after (state : TerminalState) (c : Char) : TerminalState :=
  let isFinal := '@' ≤ c && c ≤ '~'
  match state with
  | ground => ground
  | escape =>
    if c < ' ' || '~' < c then escape
    else if c < '0' then intermediate
    else if c = '[' then numbers
    else if c = 'P' then header
    else if c = ']' then title
    else if c = 'X' || c = '^' || c = '_' then string
    else ground
  | intermediate => if '0' ≤ c && c ≤ '~' then ground else intermediate
  | numbers => if isFinal then ground else numbers
  | header =>
    if isFinal || c = ':' then string
    else if '0' ≤ c && c ≤ '?' then parameters
    else if ' ' ≤ c && c < '0' then trailer
    else header
  | parameters =>
    if isFinal || c = ':' || ('<' ≤ c && c ≤ '?') then string
    else if ' ' ≤ c && c < '0' then trailer
    else parameters
  | trailer => if '0' ≤ c && c ≤ '~' then string else trailer
  | string => if endsString c then ground else string
  | title => if c = '\x07' then ground else title

/-- The sequence has a text of its own, or is on the way to it. -/
def carriesText : TerminalState → Bool
  | header | parameters | trailer | string | title => true
  | _ => false

end TerminalState

/-- The characters of a text that are for reading. -/
def readable : TerminalState → List Char → List Char
  | _, [] => []
  | state, c :: cs =>
    if c = '\x1b' then readable .escape cs
    else if c = '\x18' || c = '\x1a' then readable .ground cs
    else if isLayout c && !state.carriesText then c :: readable .ground cs
    else if state = .ground && ' ' ≤ c && c != '\x7f' then c :: readable .ground cs
    else readable (state.after c) cs

/-- The text without what would steer a terminal. -/
def withoutSteering (s : String) : String := String.ofList (readable .ground s.toList)

/-- The first line of a text, without the characters that end it. -/
def firstLine (s : String) : String :=
  let line := s.toList.takeWhile (· != '\n')
  String.ofList
    (if line.length < s.toList.length && line.getLast? == some '\r' then line.dropLast else line)

end ShareStreaks
