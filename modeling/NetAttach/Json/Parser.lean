-- SUMMARY: Reading text as a JSON document, strictly.
import NetAttach.Json.Basic
import NetAttach.Text.Digits
import NetAttach.Text.Utf8

/-!
# Reading JSON

The grammar is the strict one: blanks are the space, tab, line feed and carriage
return; texts hold no raw control characters; nothing follows the document.

A text may escape any 16-bit unit. Units that do not pair up to characters leave
the text without a meaning, and the document holds `unusable` in its place; the
same happens to an object with such a key. The parser is recursive, with a bound on
its depth that the length of the text supplies.
-/

namespace NetAttach.Json

open NetAttach.Text

-- ---------------------------------------------------------------------------
-- Blanks
-- ---------------------------------------------------------------------------

/-- A blank between tokens. -/
def isSpace (c : Char) : Bool := c = ' ' || c = '\t' || c = '\n' || c = '\r'

/-- The text after its leading blanks. -/
def skipSpace (s : List Char) : List Char := s.dropWhile isSpace

-- ---------------------------------------------------------------------------
-- Texts
-- ---------------------------------------------------------------------------

/-- A part of a text: a character, or a 16-bit unit that was written as an escape. -/
inductive Piece where
  | char (c : Char)
  | unit (n : Nat)
deriving Repr, DecidableEq

/-- The character that stands for a letter behind a backslash. -/
def unescape? (c : Char) : Option Char :=
  if c = '\x22' then some '\x22'
  else if c = '\\' then some '\\'
  else if c = '/' then some '/'
  else if c = 'b' then some '\x08'
  else if c = 'f' then some '\x0c'
  else if c = 'n' then some '\n'
  else if c = 'r' then some '\r'
  else if c = 't' then some '\t'
  else none

/-- Read the pieces of a text up to its closing quote. -/
def scanText : List Char → Option (List Piece × List Char)
  | [] => none
  | '\x22' :: r => some ([], r)
  | '\\' :: 'u' :: a :: b :: c :: d :: r => do
    let n ← hexValue? a
    let n := n * 16 + (← hexValue? b)
    let n := n * 16 + (← hexValue? c)
    let n := n * 16 + (← hexValue? d)
    let (ps, rest) ← scanText r
    return (.unit n :: ps, rest)
  | '\\' :: c :: r => do
    let c ← unescape? c
    let (ps, rest) ← scanText r
    return (.char c :: ps, rest)
  | c :: r =>
    if c.toNat < 0x20 then none
    else do
      let (ps, rest) ← scanText r
      return (.char c :: ps, rest)

/-- The first of two units of a character beyond the basic plane. -/
def isHighUnit (n : Nat) : Bool := 0xD800 ≤ n && n < 0xDC00

/-- The second of two units of a character beyond the basic plane. -/
def isLowUnit (n : Nat) : Bool := 0xDC00 ≤ n && n < 0xE000

/-- The characters that the pieces spell, unless a surrogate stands alone. -/
def joinPieces : List Piece → Option (List Char)
  | [] => some []
  | .char c :: ps => (joinPieces ps).map (c :: ·)
  | .unit n :: .unit m :: ps =>
    if isHighUnit n then
      if isLowUnit m then
        (joinPieces ps).map (Char.ofNat (0x10000 + (n - 0xD800) * 0x400 + (m - 0xDC00)) :: ·)
      else none
    else if isLowUnit n then none
    else (joinPieces (.unit m :: ps)).map (Char.ofNat n :: ·)
  | .unit n :: ps =>
    if isHighUnit n || isLowUnit n then none else (joinPieces ps).map (Char.ofNat n :: ·)

/-- Read a text behind its opening quote. The inner `none` is a text without a meaning. -/
def parseText (s : List Char) : Option (Option String × List Char) :=
  (scanText s).map fun p => ((joinPieces p.1).map String.ofList, p.2)

-- ---------------------------------------------------------------------------
-- Numbers
-- ---------------------------------------------------------------------------

/-- The largest natural number that fits 64 bits. -/
def maxWord : Nat := 0xFFFFFFFFFFFFFFFF

/-- The digits of a number as it is written. -/
structure NumberText where
  negative : Bool
  whole : List Char
  fraction : Option (List Char)
  /-- Whether the exponent is negative, and its digits. -/
  exponent : Option (Bool × List Char)
deriving Repr, DecidableEq

/-- Append digits to a significand as long as it fits 64 bits; also how many were left over. -/
def gather : Nat → List Char → Nat × Nat
  | n, [] => (n, 0)
  | n, c :: r =>
    if maxWord < n * 10 + digitValue c then (n, r.length + 1)
    else gather (n * 10 + digitValue c) r

/-- The double that a number reads as: as many leading digits as fit 64 bits, times a power of
ten. Exponents of more than 31 bits give zero or nothing. -/
def NumberText.double? (t : NumberText) : Option Double :=
  let (n, excess) := gather 0 t.whole
  let fraction := t.fraction.getD []
  let (n, left) := gather n fraction
  let start : Int := excess - (fraction.length - left : Nat)
  match t.exponent with
  | none => Double.ofDecimal? t.negative n start
  | some (down, ds) =>
    let e := decimalValue ds
    if 0x7FFFFFFF < e then
      if n ≠ 0 ∧ !down then none else Double.ofDecimal? t.negative 0 0
    else Double.ofDecimal? t.negative n (if down then start - e else start + e)

/-- The value of a number: an integer if it is written as one and fits, else a double. -/
def NumberText.toJson (t : NumberText) : Json :=
  let n := decimalValue t.whole
  if t.fraction.isNone ∧ t.exponent.isNone ∧ !t.negative ∧ n ≤ maxWord then .int n
  else if t.fraction.isNone ∧ t.exponent.isNone ∧ t.negative ∧ 0 < n ∧ n ≤ 0x8000000000000000 then .int (-n)
  else
    match t.double? with
    | some d => .double d
    | none => .unusable

/-- Read a number without its sign. -/
def scanNumber (negative : Bool) (s : List Char) : Option (NumberText × List Char) := do
  let (whole, s) := spanDigits s
  guard (whole ≠ [])
  guard (whole.head? ≠ some '0' ∨ whole.length = 1)
  let (fraction, s) ←
    match s with
    | '.' :: r =>
      let (ds, r) := spanDigits r
      if ds = [] then none else some (some ds, r)
    | _ => some (none, s)
  let (exponent, s) ←
    match s with
    | c :: r =>
      if c = 'e' ∨ c = 'E' then
        let (down, r) :=
          match r with
          | '+' :: r => (false, r)
          | '-' :: r => (true, r)
          | _ => (false, r)
        let (ds, r) := spanDigits r
        if ds = [] then none else some (some (down, ds), r)
      else some (none, s)
    | [] => some (none, s)
  return (⟨negative, whole, fraction, exponent⟩, s)

-- ---------------------------------------------------------------------------
-- Documents
-- ---------------------------------------------------------------------------

/-- The members of an object, unless one of the keys has no meaning. -/
def ofMembers (ms : List (Option String × Json)) : Json :=
  match ms.mapM fun m => m.1.map fun k => (k, m.2) with
  | some ms => .obj ms
  | none => .unusable

mutual

/-- Read one value, blanks before it included. The bound limits the depth of the recursion. -/
def parseValue : Nat → List Char → Option (Json × List Char)
  | 0, _ => none
  | fuel + 1, s =>
    match skipSpace s with
    | 'n' :: 'u' :: 'l' :: 'l' :: r => some (.null, r)
    | 't' :: 'r' :: 'u' :: 'e' :: r => some (.bool true, r)
    | 'f' :: 'a' :: 'l' :: 's' :: 'e' :: r => some (.bool false, r)
    | '\x22' :: r => (parseText r).map fun p => (p.1.elim .unusable .str, p.2)
    | '[' :: r =>
      match skipSpace r with
      | ']' :: r => some (.arr [], r)
      | _ => (parseItems fuel r).map fun p => (.arr p.1, p.2)
    | '\x7b' :: r =>
      match skipSpace r with
      | '\x7d' :: r => some (.obj [], r)
      | _ => (parseMembers fuel r).map fun p => (ofMembers p.1, p.2)
    | '-' :: r => (scanNumber true r).map fun p => (p.1.toJson, p.2)
    | r => (scanNumber false r).map fun p => (p.1.toJson, p.2)

/-- Read the items of an array that is not empty, and its closing bracket. -/
def parseItems : Nat → List Char → Option (List Json × List Char)
  | 0, _ => none
  | fuel + 1, s => do
    let (x, r) ← parseValue fuel s
    match skipSpace r with
    | ']' :: r => return ([x], r)
    | ',' :: r =>
      let (xs, r) ← parseItems fuel r
      return (x :: xs, r)
    | _ => none

/-- Read the members of an object that is not empty, and its closing brace. -/
def parseMembers : Nat → List Char → Option (List (Option String × Json) × List Char)
  | 0, _ => none
  | fuel + 1, s =>
    match skipSpace s with
    | '\x22' :: r => do
      let (k, r) ← parseText r
      match skipSpace r with
      | ':' :: r =>
        let (v, r) ← parseValue fuel r
        match skipSpace r with
        | '\x7d' :: r => return ([(k, v)], r)
        | ',' :: r =>
          let (ms, r) ← parseMembers fuel r
          return ((k, v) :: ms, r)
        | _ => none
      | _ => none
    | _ => none

end

/-- Read characters as one document with nothing behind it. -/
def parseChars (s : List Char) : Option Json :=
  match parseValue (2 * s.length + 2) s with
  | some (j, r) => if skipSpace r = [] then some j else none
  | none => none

/-- Read a text as one document. -/
def parse (s : String) : Option Json := parseChars s.toList

/-- What takes the place of bytes that are ill formed: an unpaired surrogate between spaces. Inside a
text it takes the meaning of the text away; behind a backslash or outside of texts it is no JSON. -/
def illFormed : List Char := " \\uD800 ".toList

/-- Read bytes as one document. Only texts that are never read may hold ill-formed bytes. -/
def parseBytes (bytes : List UInt8) : Option Json :=
  parseChars ((Utf8.scan bytes).flatMap fun c => c.elim illFormed fun c => [c])

end NetAttach.Json
