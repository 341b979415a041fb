-- SUMMARY: Digits, the numbers that they write, and reading whole texts as integers.

/-!
# Digits

Digits are ASCII. A text is read as an integer as a whole: nothing but digits, with
any number of leading zeros, perhaps behind a sign.
-/

namespace NetAttach.Text

-- ---------------------------------------------------------------------------
-- Decimal digits
-- ---------------------------------------------------------------------------

/-- The value of a decimal digit. -/
def digitValue (c : Char) : Nat := c.toNat - 48

/-- The value of decimal digits. -/
def decimalValue (ds : List Char) : Nat := ds.foldl (fun n c => n * 10 + digitValue c) 0

/-- The digits at the start of a text, and what follows them. -/
def spanDigits (s : List Char) : List Char × List Char :=
  (s.takeWhile Char.isDigit, s.dropWhile Char.isDigit)

-- ---------------------------------------------------------------------------
-- Digits of other bases
-- ---------------------------------------------------------------------------

/-- The value of a hexadecimal digit of either case. -/
def hexValue? (c : Char) : Option Nat :=
  if '0' ≤ c ∧ c ≤ '9' then some (c.toNat - 48)
  else if 'a' ≤ c ∧ c ≤ 'f' then some (c.toNat - 87)
  else if 'A' ≤ c ∧ c ≤ 'F' then some (c.toNat - 55)
  else none

/-- A hexadecimal digit of either case. -/
def isHexDigit (c : Char) : Bool := (hexValue? c).isSome

/-- A digit of a base up to sixteen. -/
def isDigitOf (base : Nat) (c : Char) : Bool := (hexValue? c).any (· < base)

/-- The value of digits of a base up to sixteen. -/
def valueIn (base : Nat) (ds : List Char) : Nat :=
  ds.foldl (fun n c => n * base + (hexValue? c).getD 0) 0

-- ---------------------------------------------------------------------------
-- Integers
-- ---------------------------------------------------------------------------

/-- The number that a text writes in decimal digits, perhaps behind a plus sign, if it is within the
bound. -/
def readNat? (bound : Nat) (s : List Char) : Option Nat :=
  let ds :=
    match s with
    | '+' :: r => r
    | _ => s
  if ds ≠ [] ∧ ds.all Char.isDigit ∧ decimalValue ds ≤ bound then some (decimalValue ds) else none

/-- The number that a text writes in decimal digits behind a minus sign, if it is no smaller than the
bound's negative. -/
def readNegative? (bound : Nat) (s : List Char) : Option Int :=
  match s with
  | '-' :: ds =>
    if ds ≠ [] ∧ ds.all Char.isDigit ∧ decimalValue ds ≤ bound then some (-decimalValue ds) else none
  | _ => none

-- ---------------------------------------------------------------------------
-- What a number says about the text
-- ---------------------------------------------------------------------------

/-- A number is read from its digits, or from its digits behind a sign. -/
theorem readNat?_eq_some_iff {bound n : Nat} {s : List Char} :
    readNat? bound s = some n ↔ ∃ ds, (s = ds ∨ s = '+' :: ds)
      ∧ (ds ≠ [] ∧ ds.all Char.isDigit = true ∧ decimalValue ds ≤ bound) ∧ decimalValue ds = n := by
  by_cases sign : ∃ ds, s = '+' :: ds
  · obtain ⟨ds, rfl⟩ := sign
    have read : readNat? bound ('+' :: ds) = some n ↔
        (ds ≠ [] ∧ ds.all Char.isDigit = true ∧ decimalValue ds ≤ bound) ∧ decimalValue ds = n := by
      simp [readNat?]
    rw [read]
    constructor
    · exact fun digits => ⟨ds, .inr rfl, digits⟩
    · rintro ⟨ds', rfl | same, digits⟩
      · simp at digits
      · cases same
        exact digits
  · have read : readNat? bound s = some n ↔
        (s ≠ [] ∧ s.all Char.isDigit = true ∧ decimalValue s ≤ bound) ∧ decimalValue s = n := by
      cases s with
      | nil => simp [readNat?]
      | cons c r =>
        have unsigned : c ≠ '+' := fun same => sign ⟨r, by rw [same]⟩
        simp [readNat?, unsigned]
    rw [read]
    constructor
    · exact fun digits => ⟨s, .inl rfl, digits⟩
    · rintro ⟨ds, rfl | rfl, digits⟩
      · exact digits
      · exact absurd ⟨ds, rfl⟩ sign

end NetAttach.Text
