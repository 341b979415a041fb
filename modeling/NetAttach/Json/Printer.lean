-- SUMMARY: Writing JSON documents as text without blanks.
import NetAttach.Json.Basic
import NetAttach.Decimal.Shortest

/-!
# Writing JSON

Documents are written without any blanks. Texts escape the double quote, the
backslash and the control characters below U+0020, and nothing else.
-/

namespace NetAttach.Json

-- ---------------------------------------------------------------------------
-- Leaves
-- ---------------------------------------------------------------------------

/-- A digit of a number below sixteen. -/
def hexDigit (n : Nat) : Char := if n < 10 then Char.ofNat (n + 48) else Char.ofNat (n + 87)

/-- A character as it stands inside a text. -/
def escape (c : Char) : List Char :=
  if c = '\x22' then ['\\', '\x22']
  else if c = '\\' then ['\\', '\\']
  else if c = '\x08' then ['\\', 'b']
  else if c = '\x0c' then ['\\', 'f']
  else if c = '\n' then ['\\', 'n']
  else if c = '\r' then ['\\', 'r']
  else if c = '\t' then ['\\', 't']
  else if c.toNat < 0x20 then
    ['\\', 'u', '0', '0', hexDigit (c.toNat / 16), hexDigit (c.toNat % 16)]
  else [c]

/-- A text between double quotes. -/
def renderText (s : String) : List Char := '\x22' :: s.toList.flatMap escape ++ ['\x22']

/-- An integer in decimal digits. -/
def renderInt : Int → List Char
  | .ofNat n => Nat.toDigits 10 n
  | .negSucc n => '-' :: Nat.toDigits 10 (n + 1)

-- ---------------------------------------------------------------------------
-- Documents
-- ---------------------------------------------------------------------------

mutual

/-- A document as characters. What denotes nothing is written as `null`. -/
def renderChars : Json → List Char
  | .null => ['n', 'u', 'l', 'l']
  | .bool true => ['t', 'r', 'u', 'e']
  | .bool false => ['f', 'a', 'l', 's', 'e']
  | .int i => renderInt i
  | .double d => Decimal.renderDouble d
  | .str s => renderText s
  | .arr [] => ['[', ']']
  | .arr (x :: xs) => '[' :: renderChars x ++ renderItems xs ++ [']']
  | .obj [] => ['\x7b', '\x7d']
  | .obj ((k, v) :: ms) =>
    '\x7b' :: renderText k ++ ':' :: renderChars v ++ renderMembers ms ++ ['\x7d']
  | .unusable => ['n', 'u', 'l', 'l']

/-- The items after the first, each behind a comma. -/
def renderItems : List Json → List Char
  | [] => []
  | x :: xs => ',' :: renderChars x ++ renderItems xs

/-- The members after the first, each behind a comma. -/
def renderMembers : List (String × Json) → List Char
  | [] => []
  | (k, v) :: ms => ',' :: renderText k ++ ':' :: renderChars v ++ renderMembers ms

end

/-- A document as text. -/
def render (j : Json) : String := String.ofList j.renderChars

end NetAttach.Json
