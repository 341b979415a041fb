-- SUMMARY: Reading text as a TOML document.
import NetAttach.Config.Toml.Table
import NetAttach.Decimal.Double
import NetAttach.Text.Digits
import NetAttach.Text.Moment
import NetAttach.Text.Scan

/-!
# Reading TOML

The grammar is that of TOML 1.0. Texts and integers are read for their value; truth
values, floats, points in time and lists only for their form. Lists and inline tables
nest less than 80 deep, and no key has 80 parts.
-/

namespace NetAttach.Toml

open NetAttach.Text

/-- What lists and inline tables may not reach in depth, nor keys in parts. -/
def nestingLimit : Nat := 80

-- ---------------------------------------------------------------------------
-- Blanks, comments and the ends of lines
-- ---------------------------------------------------------------------------

/-- A blank inside a line. -/
def isSpace (c : Char) : Bool := c = ' ' || c = '\t'

/-- A character that may stand in a line: anything but control characters, and the tab. -/
def isShown (c : Char) : Bool := c = '\t' || (0x20 ≤ c.toNat && c.toNat ≠ 0x7F)

/-- The blanks at this place of a line. -/
def spaces : Scan Unit := discard (Scan.run isSpace)

/-- The end of a line. -/
def newline : Scan Unit := Scan.char '\n' <|> Scan.word "\r\n"

/-- A comment, up to the end of the line. -/
def comment : Scan Unit := Scan.char '#' *> discard (Scan.run isShown)

/-- What may follow on a line that says nothing more. -/
def lineEnd : Scan Unit := do
  spaces
  discard (Scan.optionally comment)
  newline <|> Scan.ends

/-- Blanks, comments and ends of lines between the items of a list. -/
def gaps : Scan Unit :=
  discard (Scan.many (discard (Scan.run1 isSpace) <|> newline <|> (comment *> newline)))

-- ---------------------------------------------------------------------------
-- Texts
-- ---------------------------------------------------------------------------

/-- A character by its code point in a number of hexadecimal digits. -/
def codePoint (digits : Nat) : Scan Char := do
  let n := valueIn 16 (← Scan.times isHexDigit digits)
  guard n.isValidChar
  return Char.ofNat n

/-- A character behind a backslash. -/
def escaped : Scan Char := do
  Scan.char '\\'
  match ← Scan.any with
  | '\x22' => return '\x22'
  | '\\' => return '\\'
  | 'b' => return '\x08'
  | 'f' => return '\x0c'
  | 'n' => return '\n'
  | 'r' => return '\r'
  | 't' => return '\t'
  | 'u' => codePoint 4
  | 'U' => codePoint 8
  | _ => failure

/-- Characters of a text that has escapes. -/
def plainPart : Scan (List Char) :=
  Scan.run1 (fun c => isShown c && c != '\x22' && c != '\\') <|> (fun c => [c]) <$> escaped

/-- Characters of a text that has no escapes. -/
def literalPart : Scan (List Char) := Scan.run1 fun c => isShown c && c != '\''

/-- An end of a line in a text is a line feed. -/
def lineFeed : Scan (List Char) := newline *> pure ['\n']

/-- A backslash before the end of a line takes away all blanks up to the next character. -/
def folded : Scan (List Char) := do
  Scan.char '\\'
  spaces
  newline
  discard (Scan.many (newline <|> discard (Scan.run1 isSpace)))
  return []

/-- A text between two quotes. -/
def shortText (quote : Char) (part : Scan (List Char)) : Scan (List Char) := do
  Scan.char quote
  let parts ← Scan.many part
  Scan.char quote
  return parts.flatten

/-- A text between three quotes at either end. It may hold one or two quotes in a row, also at its
end, and an end of a line at its start is not part of it. -/
def longText (quote : Char) (part : Scan (List Char)) : Scan (List Char) := do
  Scan.exactly [quote, quote, quote]
  discard (Scan.optionally newline)
  let few : Scan (List Char) := do
    let quotes ← Scan.run1 (· == quote)
    guard (quotes.length < 3)
    return quotes
  let parts ← Scan.many (part <|> few)
  let quotes ← Scan.run (· == quote)
  guard (3 ≤ quotes.length ∧ quotes.length ≤ 5)
  return parts.flatten ++ quotes.drop 3

/-- A text on one line. -/
def lineText : Scan (List Char) := shortText '\x22' plainPart <|> shortText '\'' literalPart

/-- Any text. -/
def anyText : Scan (List Char) :=
  longText '\x22' (folded <|> plainPart <|> lineFeed) <|> longText '\'' (literalPart <|> lineFeed)
    <|> lineText

-- ---------------------------------------------------------------------------
-- Numbers
-- ---------------------------------------------------------------------------

/-- A sign, and whether it is a minus. -/
def sign : Scan Bool := (· == '-') <$> Scan.one fun c => c == '+' || c == '-'

/-- Whether there is a minus sign. -/
def optionalSign : Scan Bool := (·.getD false) <$> Scan.optionally sign

/-- Digits that go on after the first, with single underscores between them. -/
def moreDigits (p : Char → Bool) : Scan (List Char) :=
  Scan.many (Scan.one p <|> (Scan.char '_' *> Scan.one p))

/-- Digits with single underscores between them. -/
def digits (p : Char → Bool) : Scan (List Char) := do
  let d ← Scan.one p
  return d :: (← moreDigits p)

/-- Decimal digits without a leading zero. -/
def decimal : Scan (List Char) :=
  (do
    let d ← Scan.one fun c => c.isDigit && c != '0'
    return d :: (← moreDigits Char.isDigit)) <|> (Scan.char '0' *> pure ['0'])

/-- The digits of a base behind its mark. -/
def based (mark : String) (base : Nat) : Scan Int := do
  Scan.word mark
  return valueIn base (← digits (isDigitOf base))

/-- A decimal integer with its sign. -/
def signed : Scan Int := do
  let negative ← optionalSign
  let n := decimalValue (← decimal)
  return if negative then -n else n

/-- An integer of 64 bits. -/
def integer : Scan Setting := do
  let i ← based "0x" 16 <|> based "0o" 8 <|> based "0b" 2 <|> signed
  guard (-0x8000000000000000 ≤ i ∧ i < 0x8000000000000000)
  return .integer i

/-- An exponent with its sign. -/
def exponent : Scan Int := do
  discard (Scan.one fun c => c == 'e' || c == 'E')
  let negative ← optionalSign
  let n := decimalValue (← digits Char.isDigit)
  return if negative then -n else n

/-- The digits behind a point. -/
def fraction : Scan (List Char) := Scan.char '.' *> digits Char.isDigit

/-- A float with a fraction, an exponent or both, that is not positive and beyond all doubles. -/
def float : Scan Setting := do
  let negative ← optionalSign
  let whole ← decimal
  let part ← Scan.optionally fraction
  let power ← Scan.optionally exponent
  guard (part.isSome ∨ power.isSome)
  let part := part.getD []
  guard (negative ∨
    !Double.roundsToInfinity (decimalValue (whole ++ part)) (power.getD 0 - part.length))
  return .other

/-- The floats that are not finite. -/
def notFinite : Scan Setting :=
  optionalSign *> (Scan.word "inf" <|> Scan.word "nan") *> pure .other

-- ---------------------------------------------------------------------------
-- Points in time
-- ---------------------------------------------------------------------------

/-- A number of a fixed count of digits, within closed bounds. -/
def numeral (count low high : Nat) : Scan Nat := do
  let n := decimalValue (← Scan.times Char.isDigit count)
  guard (low ≤ n ∧ n ≤ high)
  return n

/-- A day. -/
def date : Scan Unit := do
  let year ← numeral 4 0 9999
  Scan.char '-'
  let month ← numeral 2 1 12
  Scan.char '-'
  discard (numeral 2 1 (daysOf year month))

/-- A time of day. -/
def time : Scan Unit := do
  discard (numeral 2 0 23)
  Scan.char ':'
  discard (numeral 2 0 59)
  Scan.char ':'
  discard (numeral 2 0 60)
  discard (Scan.optionally (Scan.char '.' *> Scan.run1 Char.isDigit))

/-- The distance from universal time. -/
def offset : Scan Unit :=
  discard (Scan.one fun c => c == 'Z' || c == 'z') <|> (do
    discard sign
    discard (numeral 2 0 23)
    Scan.char ':'
    discard (numeral 2 0 59))

/-- The only member of a point in time, which is a table. -/
def momentMember : String := "$__toml_private_datetime"

/-- A day, a time of day, or both with or without an offset. -/
def moment : Scan Setting :=
  let timeOfDay : Scan Unit := do
    discard (Scan.one fun c => c == 'T' || c == 't' || c == ' ')
    time
    discard (Scan.optionally offset)
  ((date *> discard (Scan.optionally timeOfDay)) <|> time) *> pure (.table [(momentMember, .other)])

-- ---------------------------------------------------------------------------
-- Keys and values
-- ---------------------------------------------------------------------------

/-- A character of a key without quotes. -/
def isBare (c : Char) : Bool := c.isAlphanum || c == '-' || c == '_'

/-- A key: its path and its last part. -/
def key : Scan (List String × String) := do
  let part : Scan String := spaces *> (String.ofList <$> (lineText <|> Scan.run1 isBare)) <* spaces
  let parts ← Scan.separated part (Scan.char '.')
  guard (parts.length < nestingLimit)
  return (parts.dropLast, parts.getLast?.getD "")

/-- A value that holds no other values. -/
def scalar : Scan Setting :=
  (.text ∘ String.ofList) <$> anyText <|> (Scan.word "true" *> pure .other)
    <|> (Scan.word "false" *> pure .other) <|> moment <|> float <|> notFinite <|> integer

/-- A list; a comma may follow its last item. -/
def list (item : Scan Setting) : Scan Setting := do
  Scan.char '['
  let items ← Scan.optionally (Scan.separated (gaps *> item <* gaps) (Scan.char ','))
  if items.isSome then discard (Scan.optionally (Scan.char ','))
  gaps
  Scan.char ']'
  return .other

/-- A table between braces on one line; no comma follows its last member. -/
def inlineTable (item : Scan Setting) : Scan Setting := do
  Scan.char '\x7b'
  let member : Scan ((List String × String) × Setting) := do
    let k ← key
    Scan.char '='
    return (k, ← spaces *> item <* spaces)
  let members ← Scan.optionally (Scan.separated member (Scan.char ','))
  spaces
  Scan.char '\x7d'
  let table ← StateT.lift ((members.getD []).foldlM (fun ms m => Members.put? m.1.1 m.1.2 m.2 ms) [])
  return (Node.table .header table).setting

/-- A value in which a number of lists and inline tables may still be opened. -/
def value : Nat → Scan Setting
  | 0 => scalar
  | room + 1 => scalar <|> list (value room) <|> inlineTable (value room)

-- ---------------------------------------------------------------------------
-- Documents
-- ---------------------------------------------------------------------------

/-- The header of a table. -/
def header : Scan Line := do
  Scan.char '['
  let k ← key
  Scan.char ']'
  return .header k.1 k.2

/-- The header of a further table of a list. -/
def listHeader : Scan Line := do
  Scan.word "[["
  let k ← key
  Scan.word "]]"
  return .listHeader k.1 k.2

/-- A key and its value. -/
def member : Scan Line := do
  let k ← key
  Scan.char '='
  spaces
  return .member k.1 k.2 (← value (nestingLimit - 1))

/-- A line, with its end. -/
def line : Scan Line := do
  spaces
  (newline *> pure .blank) <|> (comment *> lineEnd *> pure .blank)
    <|> (listHeader <* lineEnd) <|> (header <* lineEnd) <|> (member <* lineEnd)

/-- All lines of a document. -/
def document : Scan (List Line) := do
  discard (Scan.optionally (Scan.char '\uFEFF'))
  let lines ← Scan.many line
  spaces
  return lines

/-- Read a text as the table that it describes. -/
def parse (s : String) : Option Setting := do
  let d ← Document.ofLines? (← Scan.whole document s.toList)
  return (Node.table .header d.members).setting

end NetAttach.Toml
