import ShareStreaks.Decimal.Notation
import ShareStreaks.TermTable

/-!
# The table as a JSON text

The whole table is written as a JSON object from terms to objects from years to shares, two blanks of
indentation for each level, one member to a line, and `{}` for an object without members.  The
order is that of the table.  A share that is not finite is written as `null`.
-/

set_option autoImplicit false

namespace ShareStreaks

/-- Shares are written out from `0.00001` up to sixteen digits before the point, and with a signed
exponent otherwise. -/
def jsonStyle : NumberStyle where
  leastExponent := -5
  greatestExponent := 15
  plusSign := true
  exponentDigits := 1
  tie := .even
  notANumber := "null"
  infinity := "null"
  negativeInfinity := "null"

namespace Dump

/-- A character inside a JSON string: quotes, backslashes and control characters are escaped. -/
def stringChar (c : Char) : List Char :=
  if c = '"' then ['\\', '"']
  else if c = '\\' then ['\\', '\\']
  else if c = '\x08' then ['\\', 'b']
  else if c = '\t' then ['\\', 't']
  else if c = '\n' then ['\\', 'n']
  else if c = '\x0c' then ['\\', 'f']
  else if c = '\r' then ['\\', 'r']
  else if c.toNat < 0x20 then
    ['\\', 'u', '0', '0', Nat.digitChar (c.toNat / 16), Nat.digitChar (c.toNat % 16)]
  else [c]

def string (s : String) : List Char := '"' :: (s.toList.flatMap stringChar ++ ['"'])

def indentation (level : Nat) : List Char := List.replicate (2 * level) ' '

/-- A member of an object, on a line of its own. -/
def member (level : Nat) (m : List Char × List Char) : List Char :=
  indentation (level + 1) ++ m.1 ++ ':' :: ' ' :: m.2

/-- An object whose closing brace stands at the given level. -/
def object (level : Nat) (members : List (List Char × List Char)) : List Char :=
  if members.isEmpty then ['\x7b', '\x7d']
  else
    '\x7b' :: '\n' :: (List.intercalate [',', '\n'] (members.map (member level))
      ++ '\n' :: (indentation level ++ ['\x7d']))

def yearKey (year : Int) : List Char := '"' :: (signedDigits year ++ ['"'])

def yearShares (s : YearShares) : List Char :=
  object 1 (s.entries.map fun (year, share) => (yearKey year, share.written jsonStyle))

/-- The table as a JSON text, with a line end after it. -/
def text (t : TermTable) : String :=
  String.ofList (object 0 (t.entries.map fun (term, s) => (string term, yearShares s)) ++ ['\n'])

end Dump
end ShareStreaks
