-- SUMMARY: Settings from environment variables: which variables count, and how their values are read.
import NetAttach.Config.Setting
import NetAttach.Json.Basic
import NetAttach.Text.Blank
import NetAttach.Text.Digits
import NetAttach.Text.Scan
import NetAttach.Text.Split

/-!
# Environment variables

A variable gives a setting if its name starts with a fixed word, in letters of either
case. A value is read as a truth value, a number, a quoted text, a list or a table if
all of it has that form, and else it is a text. A point in the rest of the name leads
into tables.
-/

namespace NetAttach.Environment

open NetAttach.Text

-- ---------------------------------------------------------------------------
-- Values
-- ---------------------------------------------------------------------------

/-- A blank around values. -/
def isSpace (c : Char) : Bool := c = ' ' || c = '\t' || c = '\n' || c = '\x0c' || c = '\r'

/-- The blanks at this place. -/
def spaces : Scan Unit := discard (Scan.run isSpace)

/-- A character that ends a value without quotes. -/
def isSeparator (c : Char) : Bool := c = ',' || c = '\x7b' || c = '\x7d' || c = '[' || c = ']'

/-- Digits with a point among them or at one end, perhaps with a sign before them and an exponent
behind. -/
def float : Scan Unit := do
  let sign : Scan Unit := discard (Scan.optionally (Scan.one fun c => c == '+' || c == '-'))
  sign
  let whole ← Scan.run Char.isDigit
  Scan.char '.'
  let part ← Scan.run Char.isDigit
  guard (whole ≠ [] ∨ part ≠ [])
  discard (Scan.optionally (do
    discard (Scan.one fun c => c == 'e' || c == 'E')
    sign
    discard (Scan.run1 Char.isDigit)))

/-- What a value without quotes says. -/
def ofPlain (s : List Char) : Setting :=
  if (Scan.whole float s).isSome then .other
  else
    match readNat? 0xFFFFFFFFFFFFFFFF s, readNegative? 0x8000000000000000 s with
    | some n, _ => .integer n
    | _, some i => .integer i
    | none, none => .text (String.ofList s)

/-- A value without quotes. -/
def plain : Scan Setting := do
  match ← Scan.peek? with
  | some '\x22' | some '\'' => failure
  | _ => return ofPlain (trimChars (← Scan.run fun c => !isSeparator c))

/-- A character behind a backslash. -/
def escaped : Scan Char := do
  let codePoint (digits : Nat) : Scan Char := do
    let n := valueIn 16 (← Scan.times isHexDigit digits)
    guard n.isValidChar
    return Char.ofNat n
  Scan.char '\\'
  match ← Scan.any with
  | '\x22' => return '\x22'
  | '\\' => return '\\'
  | 'b' => return '\x08'
  | 'f' => return '\x0c'
  | 'n' => return '\n'
  | 'r' => return '\r'
  | 't' => return '\t'
  | 'u' => codePoint 4
  | 'U' => codePoint 8
  | _ => failure

/-- A character that may stand between double quotes: no control character but the tab. -/
def isShown (c : Char) : Bool := c = '\t' || (0x20 ≤ c.toNat && c.toNat ≠ 0x7F)

/-- The characters at the start of a text that take up to a number of bytes. -/
def takeBytes : Nat → List Char → List Char
  | _, [] => []
  | room, c :: cs => if c.utf8Size ≤ room then c :: takeBytes (room - c.utf8Size) cs else []

/-- A text between double quotes. If it has escapes, then of the characters before the first of them
only as many bytes stand as there are characters. -/
def quotedText : Scan String := do
  Scan.char '\x22'
  let shown := Scan.one fun c => isShown c && c != '\x22' && c != '\\'
  let cs ← Scan.many shown
  let rest ← Scan.many (escaped <|> shown)
  Scan.char '\x22'
  let kept := if rest.isEmpty then cs else takeBytes cs.length cs
  return String.ofList (kept ++ rest)

/-- A single character between single quotes. -/
def quotedChar : Scan String := do
  Scan.char '\''
  let c ← Scan.any
  Scan.char '\''
  return String.ofList [c]

/-- Items between brackets; a comma may follow the last. -/
def enclosed {α : Type} (opening closing : Char) (item : Scan α) : Scan (List α) := do
  Scan.char opening
  let items ← Scan.optionally (Scan.separated item (Scan.char ','))
  if items.isSome then discard (Scan.optionally (Scan.char ','))
  Scan.char closing
  return items.getD []

/-- A key of a table. -/
def key : Scan String :=
  let bare : Scan String := String.ofList <$> Scan.run1 fun c => c.isAlphanum || c == '_' || c == '-'
  spaces *> (quotedText <|> bare) <* spaces

/-- A value, in which a number of lists and tables may be opened. -/
def value : Nat → Scan Setting
  | 0 => failure
  | room + 1 =>
    let member : Scan (String × Setting) := do
      let k ← key
      Scan.char '='
      return (k, ← value room)
    let any : Scan Setting :=
      (Scan.word "true" *> pure .other) <|> (Scan.word "false" *> pure .other)
        <|> Setting.ofMembers <$> enclosed '\x7b' '\x7d' member
        <|> enclosed '[' ']' (value room) *> pure .other
        <|> .text <$> quotedText <|> .text <$> quotedChar <|> plain
    spaces *> any <* spaces

/-- What the value of a variable says. -/
def read (s : String) : Setting := (Scan.whole (value (s.length + 1)) s.toList).getD (.text s)

-- ---------------------------------------------------------------------------
-- Names
-- ---------------------------------------------------------------------------

/-- How the names of variables that count begin. -/
def marker : String := "dynamic_networks_"

/-- A text in lower-case ASCII letters. -/
def lowered (s : List Char) : List Char := s.map Char.toLower

/-- The names of the tables and of the setting that a variable belongs to. -/
def path? (name : String) : Option (List String) :=
  let name := lowered (trimChars name.toList)
  let mark := marker.toList
  if name.take mark.length = mark then
    let parts := splitAll '.' (trimChars (name.drop mark.length))
    if parts.any (·.isEmpty) then none else some (parts.map String.ofList)
  else none

/-- The settings that variables give, of which later ones stand over earlier ones. -/
def settings (vars : List (String × String)) : Setting :=
  vars.foldl (fun all v =>
    match path? v.1 with
    | some path => all.overlay (.within path (read v.2))
    | none => all) (.table [])

end NetAttach.Environment
