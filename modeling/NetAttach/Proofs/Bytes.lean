-- SUMMARY: Texts are read again from their UTF-8 bytes, and bytes from their base64 letters.
import NetAttach.Json.Parser
import NetAttach.Text.Base64

/-!
# Bytes

The reader of UTF-8 finds every character in its bytes, so that a document is read from the
bytes of its text as it is read from the text. A reader of base64 gives back the bytes of
every encoding, whatever its last group lacks.
-/

namespace NetAttach

namespace Text

/-! ## UTF-8 -/

namespace Utf8

theorem toList_loop (bs : ByteArray) (i : Nat) (r : List UInt8) :
    ByteArray.toList.loop bs i r = r.reverse ++ bs.data.toList.drop i := by
  fun_induction ByteArray.toList.loop bs i r with
  | case1 i r inside ih =>
    have within : i < bs.data.toList.length := by simpa using inside
    rw [ih, List.drop_eq_getElem_cons within]
    simp [ByteArray.get!, inside]
  | case2 i r outside =>
    rw [List.drop_eq_nil_of_le (by simpa using outside), List.append_nil]

/-- The bytes of a text are those of its characters. -/
theorem encode_eq (s : String) : encode s = s.toList.flatMap String.utf8EncodeChar := by
  unfold encode ByteArray.toList
  rw [toList_loop, String.toUTF8, ← String.utf8Encode_toList, List.utf8Encode]
  simp

section

variable {o : Open} {n : Nat} (r : List UInt8)

/-- The last byte of a sequence carries the last six bits of the character. -/
theorem scanFrom_last (last : o.more = 0) (low : o.low ≤ n % 64 + 128)
    (high : n % 64 + 128 ≤ o.high) :
    scanFrom (some o) (UInt8.ofNat (n % 64 + 128) :: r)
      = some (Char.ofNat (o.code * 64 + n % 64)) :: scanFrom none r := by
  have fits : (n % 64 + 128) % 256 = n % 64 + 128 := by omega
  simp [scanFrom, fits, low, high, last]

/-- A byte within a sequence carries six bits more. -/
theorem scanFrom_more {more : Nat} (within : o.more = more + 1) (low : o.low ≤ n % 64 + 128)
    (high : n % 64 + 128 ≤ o.high) :
    scanFrom (some o) (UInt8.ofNat (n % 64 + 128) :: r)
      = scanFrom (some ⟨o.code * 64 + n % 64, 0x80, 0xBF, more⟩) r := by
  have fits : (n % 64 + 128) % 256 = n % 64 + 128 := by omega
  simp [scanFrom, fits, low, high, within]

theorem scanFrom_opens {b : Nat} {o : Open} (fits : b < 256) (opens : lead b = .opens o) :
    scanFrom none (UInt8.ofNat b :: r) = scanFrom (some o) r := by
  have fits : b % 256 = b := Nat.mod_eq_of_lt fits
  simp [scanFrom, fits, opens]

end

theorem lead_of_one {b : Nat} (h : b < 0x80) : lead b = .char (Char.ofNat b) := if_pos h

theorem lead_of_two : ∀ q < 32, 2 ≤ q → lead (q + 0xC0) = .opens ⟨q, 0x80, 0xBF, 0⟩ := by decide

theorem lead_of_three : ∀ q < 16, lead (q + 0xE0)
    = .opens ⟨q, if q = 0 then 0xA0 else 0x80, if q = 0xD then 0x9F else 0xBF, 1⟩ := by decide

theorem lead_of_four : ∀ q < 5, lead (q + 0xF0)
    = .opens ⟨q, if q = 0 then 0x90 else 0x80, if q = 4 then 0x8F else 0xBF, 2⟩ := by decide

/-- A character is found in its bytes. -/
theorem scanFrom_utf8EncodeChar (c : Char) (r : List UInt8) :
    scanFrom none (String.utf8EncodeChar c ++ r) = some c :: scanFrom none r := by
  have scalar : c.val.toNat < 0xD800 ∨ 0xDFFF < c.val.toNat ∧ c.val.toNat < 0x110000 := c.valid
  have found : Char.ofNat c.val.toNat = c := Char.ofNat_toNat c
  unfold String.utf8EncodeChar
  dsimp only
  generalize c.val.toNat = v at scalar found ⊢
  split
  · next one =>
    have fits : v % 256 = v := by omega
    simp [scanFrom, fits, lead_of_one (b := v) (by omega), found]
  split
  · next two =>
    rw [List.cons_append, List.cons_append,
      scanFrom_opens _ (by omega) (lead_of_two (v / 64 % 0x20) (by omega) (by omega)),
      scanFrom_last _ rfl (by dsimp only; omega) (by dsimp only; omega)]
    have whole : v / 64 % 0x20 * 64 + v % 64 = v := by omega
    simp [whole, found]
  split
  · next three =>
    rw [List.cons_append, List.cons_append, List.cons_append,
      scanFrom_opens _ (by omega) (lead_of_three (v / 4096 % 0x10) (by omega)),
      scanFrom_more _ rfl (by dsimp only; split <;> omega) (by dsimp only; split <;> omega),
      scanFrom_last _ rfl (by dsimp only; omega) (by dsimp only; omega)]
    have whole : (v / 4096 % 0x10 * 64 + v / 64 % 64) * 64 + v % 64 = v := by omega
    simp [whole, found]
  · rw [List.cons_append, List.cons_append, List.cons_append, List.cons_append,
      scanFrom_opens _ (by omega) (lead_of_four (v / 262144 % 8) (by omega)),
      scanFrom_more _ rfl (by dsimp only; split <;> omega) (by dsimp only; split <;> omega),
      scanFrom_more _ rfl (by dsimp only; omega) (by dsimp only; omega),
      scanFrom_last _ rfl (by dsimp only; omega) (by dsimp only; omega)]
    have whole : ((v / 262144 % 8 * 64 + v / 4096 % 64) * 64 + v / 64 % 64) * 64 + v % 64 = v := by
      omega
    simp [whole, found]

/-- The characters of a text are found in its bytes, and nothing is ill formed. -/
theorem scan_encode (s : String) : scan (encode s) = s.toList.map some := by
  have all : ∀ cs : List Char, scanFrom none (cs.flatMap String.utf8EncodeChar) = cs.map some := by
    intro cs
    induction cs with
    | nil => rfl
    | cons c cs ih => rw [List.flatMap_cons, scanFrom_utf8EncodeChar, ih, List.map_cons]
  rw [scan, encode_eq, all]

end Utf8

/-! ## Base64 -/

namespace Base64

/-- The six-bit number that a letter stands for. -/
def number? (c : Char) : Option Nat :=
  if c.isUpper then some (c.toNat - 65)
  else if c.isLower then some (c.toNat - 97 + 26)
  else if c.isDigit then some (c.toNat - 48 + 52)
  else if c = '+' then some 62
  else if c = '/' then some 63
  else none

/-- Letters as bytes. The bits that fill up the last group are passed over. -/
def decode? : List Char → Option (List UInt8)
  | [] => some []
  | [p, q, '=', '='] => do
    let n := (← number? p) * 64 + (← number? q)
    return [UInt8.ofNat (n / 16)]
  | [p, q, r, '='] => do
    let n := ((← number? p) * 64 + (← number? q)) * 64 + (← number? r)
    return [UInt8.ofNat (n / 1024), UInt8.ofNat (n / 4)]
  | p :: q :: r :: s :: rest => do
    let n := (((← number? p) * 64 + (← number? q)) * 64 + (← number? r)) * 64 + (← number? s)
    return UInt8.ofNat (n / 65536) :: UInt8.ofNat (n / 256) :: UInt8.ofNat n :: (← decode? rest)
  | _ => none

theorem number?_letter : ∀ n < 64, number? (letter n) = some n := by decide

theorem letter_ne_pad : ∀ n < 64, letter n ≠ '=' := by decide

theorem ofNat_eq {b : UInt8} {n : Nat} (h : n % 256 = b.toNat) : UInt8.ofNat n = b := by
  rw [← UInt8.toNat_inj]
  simpa using h

/-- Bytes are what their letters stand for. -/
theorem decode?_encode (bs : List UInt8) : decode? (encode bs) = some bs := by
  fun_induction encode bs with
  | case1 => rfl
  | case2 a n =>
    have := a.toNat_lt
    have hn : n = a.toNat * 16 := rfl
    have p := number?_letter (n / 64) (by omega)
    have q := number?_letter (n % 64) (by omega)
    have first : UInt8.ofNat ((n / 64 * 64 + n % 64) / 16) = a := ofNat_eq (by omega)
    simp [decode?, p, q, first]
  | case3 a b n =>
    have := a.toNat_lt
    have := b.toNat_lt
    have hn : n = (a.toNat * 256 + b.toNat) * 4 := rfl
    have p := number?_letter (n / 4096) (by omega)
    have q := number?_letter (n / 64 % 64) (by omega)
    have r := number?_letter (n % 64) (by omega)
    have whole : (n / 4096 * 64 + n / 64 % 64) * 64 + n % 64 = n := by omega
    have first : UInt8.ofNat (n / 1024) = a := ofNat_eq (by omega)
    have second : UInt8.ofNat (n / 4) = b := ofNat_eq (by omega)
    have filled := letter_ne_pad (n % 64) (by omega)
    simp [decode?, p, q, r, whole, first, second]
  | case4 a b c r n ih =>
    have := a.toNat_lt
    have := b.toNat_lt
    have := c.toNat_lt
    have hn : n = (a.toNat * 256 + b.toNat) * 256 + c.toNat := rfl
    have p := number?_letter (n / 262144) (by omega)
    have q := number?_letter (n / 4096 % 64) (by omega)
    have r := number?_letter (n / 64 % 64) (by omega)
    have s := number?_letter (n % 64) (by omega)
    have whole : ((n / 262144 * 64 + n / 4096 % 64) * 64 + n / 64 % 64) * 64 + n % 64 = n := by
      omega
    have first : UInt8.ofNat (n / 65536) = a := ofNat_eq (by omega)
    have second : UInt8.ofNat (n / 256) = b := ofNat_eq (by omega)
    have third : UInt8.ofNat n = c := ofNat_eq (by omega)
    have filled := letter_ne_pad (n % 64) (by omega)
    simp [decode?, p, q, r, s, whole, first, second, third, filled, ih, -UInt8.ofNat_add]

end Base64

end Text

/-! ## Documents -/

/-- A document is read from the bytes of its text as from the text. -/
theorem Json.parseBytes_encode (s : String) : parseBytes (Text.Utf8.encode s) = parse s := by
  rw [parseBytes, Text.Utf8.scan_encode, List.flatMap_map]
  simp [parse]

end NetAttach
