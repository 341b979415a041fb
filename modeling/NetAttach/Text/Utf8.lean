-- SUMMARY: Reading bytes as UTF-8, strictly or with a replacement character for every ill-formed part.

/-!
# UTF-8

`Utf8.scan` reads bytes from left to right and yields one character for every
well-formed sequence and one fault for every maximal ill-formed part: the longest
start of a well-formed sequence, or else a single byte. Strict reading allows no
fault; lenient reading puts U+FFFD in the place of each.
-/

namespace NetAttach.Text.Utf8

/-- A sequence whose continuation bytes are still to come. The next one lies between
`low` and `high`, the `more` after it anywhere from 0x80 to 0xBF. -/
structure Open where
  code : Nat
  low : Nat
  high : Nat
  more : Nat
deriving Repr, DecidableEq

/-- What a byte is at the start of a sequence. -/
inductive Lead where
  | char (c : Char)
  | opens (o : Open)
  | illFormed
deriving Repr, DecidableEq

/-- Read a byte at the start of a sequence. -/
def lead (b : Nat) : Lead :=
  if b < 0x80 then .char (Char.ofNat b)
  else if b < 0xC2 then .illFormed
  else if b < 0xE0 then .opens ⟨b - 0xC0, 0x80, 0xBF, 0⟩
  else if b = 0xE0 then .opens ⟨0, 0xA0, 0xBF, 1⟩
  else if b = 0xED then .opens ⟨0xD, 0x80, 0x9F, 1⟩
  else if b < 0xF0 then .opens ⟨b - 0xE0, 0x80, 0xBF, 1⟩
  else if b = 0xF0 then .opens ⟨0, 0x90, 0xBF, 2⟩
  else if b < 0xF4 then .opens ⟨b - 0xF0, 0x80, 0xBF, 2⟩
  else if b = 0xF4 then .opens ⟨4, 0x80, 0x8F, 2⟩
  else .illFormed

/-- The characters and faults of a byte sequence, given the sequence that is still open.
A fault is `none`. -/
def scanFrom : Option Open → List UInt8 → List (Option Char)
  | none, [] => []
  | some _, [] => [none]
  | none, b :: r =>
    match lead b.toNat with
    | .char c => some c :: scanFrom none r
    | .opens o => scanFrom (some o) r
    | .illFormed => none :: scanFrom none r
  | some o, b :: r =>
    if o.low ≤ b.toNat ∧ b.toNat ≤ o.high then
      let code := o.code * 64 + (b.toNat - 0x80)
      match o.more with
      | 0 => some (Char.ofNat code) :: scanFrom none r
      | more + 1 => scanFrom (some ⟨code, 0x80, 0xBF, more⟩) r
    else
      match lead b.toNat with
      | .char c => none :: some c :: scanFrom none r
      | .opens o' => none :: scanFrom (some o') r
      | .illFormed => none :: none :: scanFrom none r

/-- The characters and faults of a byte sequence. -/
def scan (bytes : List UInt8) : List (Option Char) := scanFrom none bytes

/-- The text that the bytes encode, if they are well formed throughout. -/
def decode? (bytes : List UInt8) : Option (List Char) := (scan bytes).mapM id

/-- The text that the bytes encode, with U+FFFD for every ill-formed part. -/
def decodeLenient (bytes : List UInt8) : List Char := (scan bytes).map (·.getD '\uFFFD')

/-- The bytes of a text. -/
def encode (s : String) : List UInt8 := s.toUTF8.toList

end NetAttach.Text.Utf8
