-- SUMMARY: Reading what comes over a connection as a reply.
import NetAttach.Network.Http
import NetAttach.Text.Digits
import NetAttach.Text.Scan
import NetAttach.Text.Split

/-!
# Reading replies

A reply has a head, which is a line with the status and lines with fields, and a body.
The fields tell how the body ends: in chunks, after a number of bytes, or else with the
connection. Interim replies are passed over. Bytes are looked at as the characters with
their code points.
-/

namespace NetAttach.Network

open NetAttach.Text

-- ---------------------------------------------------------------------------
-- Heads
-- ---------------------------------------------------------------------------

/-- The head of a reply. -/
structure Head where
  /-- It is of version 1.1 and not 1.0. -/
  isCurrent : Bool
  status : Nat
  /-- The fields with their names in lower case. -/
  fields : List (String × List Char)
deriving Repr, DecidableEq

/-- A blank inside a line. -/
def isLineBlank (c : Char) : Bool := c = ' ' || c = '\t'

/-- A character that may stand in a line. -/
def isLineChar (c : Char) : Bool := c = '\t' || (0x20 ≤ c.toNat && c.toNat ≠ 0x7F)

/-- A character of the name of a field. -/
def isNameChar (c : Char) : Bool := c.isAlphanum || "!#$%&'*+-.^_`|~".contains c

/-- The end of a line. -/
def lineEnd : Scan Unit := Scan.word "\r\n" <|> Scan.char '\n'

/-- A text without the blanks at its ends. -/
def withoutBlanks (s : List Char) : List Char :=
  ((s.dropWhile isLineBlank).reverse.dropWhile isLineBlank).reverse

/-- The line with the version and the status. Empty lines may stand before it. -/
def statusLine : Scan (Bool × Nat) := do
  discard (Scan.many lineEnd)
  Scan.word "HTTP/1."
  let minor ← Scan.one fun c => c == '0' || c == '1'
  Scan.char ' '
  let status := decimalValue (← Scan.times Char.isDigit 3)
  guard (100 ≤ status)
  discard (Scan.optionally (Scan.char ' ' *> Scan.run isLineChar))
  lineEnd
  return (minor == '1', status)

/-- A line with a field. -/
def fieldLine : Scan (String × List Char) := do
  let name ← Scan.run1 isNameChar
  Scan.char ':'
  let value ← Scan.run isLineChar
  lineEnd
  return (String.ofList (name.map Char.toLower), withoutBlanks value)

/-- No head has more fields. -/
def maxFields : Nat := 100

/-- The head of a reply. -/
def head : Scan Head := do
  let (isCurrent, status) ← statusLine
  let fields ← Scan.many fieldLine
  lineEnd
  guard (fields.length ≤ maxFields)
  return { isCurrent, status, fields }

/-- The values of the fields with a name. -/
def Head.values (h : Head) (name : String) : List (List Char) :=
  (h.fields.filter (·.1 == name)).map (·.2)

-- ---------------------------------------------------------------------------
-- Bodies
-- ---------------------------------------------------------------------------

/-- The items of values, which commas separate. -/
def items (values : List (List Char)) : List (List Char) :=
  (values.flatMap (splitAll ',')).map withoutBlanks

/-- The largest number of 64 bits. -/
def maxLength : Nat := 0xFFFFFFFFFFFFFFFF

/-- The number that decimal digits write, if it has up to 64 bits. -/
def lengthOf? (ds : List Char) : Option Nat :=
  if ds ≠ [] ∧ ds.all Char.isDigit ∧ decimalValue ds ≤ maxLength then some (decimalValue ds)
  else none

/-- The length that values agree on. -/
def agreedLength? (values : List (List Char)) : Option Nat :=
  match (items values).mapM lengthOf? with
  | some (n :: ns) => if ns.all (· == n) then some n else none
  | _ => none

/-- A number of characters. -/
def exactly (n : Nat) : Scan (List Char) := fun s =>
  if n ≤ s.length then some (s.take n, s.drop n) else none

/-- The line with the size of a chunk. What follows a semicolon is passed over. -/
def sizeLine : Scan Nat := do
  let n := valueIn 16 (← Scan.run1 isHexDigit)
  guard (n ≤ maxLength)
  discard (Scan.run isLineBlank)
  discard (Scan.optionally (Scan.char ';' *> Scan.run fun c => c != '\r' && c != '\n'))
  Scan.word "\r\n"
  return n

/-- A chunk that is not the last. -/
def chunk : Scan (List Char) := do
  let n ← sizeLine
  guard (n ≠ 0)
  let data ← exactly n
  Scan.word "\r\n"
  return data

/-- The last chunk, with fields behind it. -/
def lastChunk : Scan Unit := do
  guard ((← sizeLine) = 0)
  discard (Scan.many fieldLine)
  Scan.word "\r\n"

/-- The body in chunks. -/
def chunks : Scan (List Char) := do
  let parts ← Scan.many chunk
  lastChunk
  return parts.flatten

/-- The bytes of characters that stand for them. -/
def bytesOf (s : List Char) : List UInt8 := s.map fun c => c.toNat.toUInt8

/-- How an exchange ends with a reply that has this head and, up to the end of the connection, these
characters behind it. -/
def Head.exchanged (h : Head) (rest : List Char) : Exchanged :=
  let encodings := h.values "transfer-encoding"
  let lengths := h.values "content-length"
  if hasNoBody h.status then .answered h.status []
  else if encodings ≠ [] then
    if !h.isCurrent then .broken
    else if ((items encodings).getLast?.getD []).map Char.toLower = "chunked".toList then
      match chunks rest with
      | some (body, _) => .answered h.status (bytesOf body)
      | none => .cut
    else .answered h.status (bytesOf rest)
  else if lengths ≠ [] then
    match agreedLength? lengths with
    | none => .broken
    | some n =>
      if maxLength ≤ n + 1 then .broken
      else
        match exactly n rest with
        | some (body, _) => .answered h.status (bytesOf body)
        | none => .cut
  else .answered h.status (bytesOf rest)

-- ---------------------------------------------------------------------------
-- Replies
-- ---------------------------------------------------------------------------

/-- How an exchange ends after these characters, with up to so many heads. -/
def exchangedAfter : (heads : Nat) → List Char → Exchanged
  | 0, _ => .broken
  | heads + 1, s =>
    match head s with
    | none => .broken
    | some (h, rest) => if isInterim h.status then exchangedAfter heads rest else h.exchanged rest

/-- How an exchange ends with a peer that sends these bytes and closes the connection. -/
def Exchanged.ofBytes (bytes : List UInt8) : Exchanged :=
  exchangedAfter (bytes.length + 1) (bytes.map fun b => Char.ofNat b.toNat)

end NetAttach.Network
