-- SUMMARY: Quoted text: a text between double quotes with everything that cannot be shown written as an escape.
import NetAttach.Text.Printable

/-!
# Quoted text

Messages quote values that may hold anything. A double quote, a backslash and the
characters NUL, tab, line feed and carriage return have an escape of two
characters; any other character that is not printable is written with its code
point in hexadecimal.
-/

namespace NetAttach.Text

/-- A number in lower-case hexadecimal digits. -/
def hex (n : Nat) : List Char := Nat.toDigits 16 n

/-- A character as it stands in quoted text. -/
def quotedChar (c : Char) : List Char :=
  if c = '\x00' then ['\\', '0']
  else if c = '\t' then ['\\', 't']
  else if c = '\n' then ['\\', 'n']
  else if c = '\r' then ['\\', 'r']
  else if c = '\x22' then ['\\', '\x22']
  else if c = '\\' then ['\\', '\\']
  else if isPrintable c then [c]
  else ['\\', 'u', '\x7b'] ++ hex c.toNat ++ ['\x7d']

/-- A text between double quotes, with escapes. -/
def quoted (s : String) : String :=
  String.ofList ('\x22' :: s.toList.flatMap quotedChar ++ ['\x22'])

end NetAttach.Text
