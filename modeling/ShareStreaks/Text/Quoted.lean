import ShareStreaks.Text.Shown

/-!
# Quoted texts

A path is shown between double quotes.  Double quotes and backslashes get a backslash before them; tabs,
line ends and the character zero have short names; every other character that would not be seen is shown
by its number, in braces after `\u`.
-/

set_option autoImplicit false

namespace ShareStreaks

/-- A natural number in hexadecimal digits, the letters in lower case. -/
def hexDigits (n : Nat) : List Char := Nat.toDigits 16 n

/-- A character as it is shown inside quotes. -/
def quotedChar (c : Char) : List Char :=
  if c = '\x00' then ['\\', '0']
  else if c = '\t' then ['\\', 't']
  else if c = '\n' then ['\\', 'n']
  else if c = '\r' then ['\\', 'r']
  else if c = '"' ∨ c = '\\' then ['\\', c]
  else if isShown c then [c]
  else ['\\', 'u', '\x7b'] ++ hexDigits c.toNat ++ ['\x7d']

/-- A text between double quotes. -/
def quoted (s : String) : String :=
  String.ofList ('"' :: (s.toList.flatMap quotedChar ++ ['"']))

end ShareStreaks
