-- SUMMARY: Texts that name a point in time, and the days that a month has.
import NetAttach.Text.Blank
import NetAttach.Text.Digits
import NetAttach.Text.Scan

/-!
# Points in time

A point in time is a day, a time of day and the distance from universal time, such as
`2024-02-29T23:59:60.5+01:00`. Blanks may stand between the parts, numbers need not be
filled up with zeros, and the colon in the distance may be missing. A second may be a
leap second at any time of day.
-/

namespace NetAttach.Text

/-- How many days a month has. -/
def daysOf (year : Int) (month : Nat) : Nat :=
  if month = 2 then
    if year % 4 = 0 ∧ (year % 100 ≠ 0 ∨ year % 400 = 0) then 29 else 28
  else if month = 4 ∨ month = 6 ∨ month = 9 ∨ month = 11 then 30
  else 31

namespace Moment

-- ---------------------------------------------------------------------------
-- Parts
-- ---------------------------------------------------------------------------

/-- Blanks, if there are any. -/
def blanks : Scan Unit := discard (Scan.run isBlank)

/-- The number that up to so many digits write, of which there is at least one. -/
def number (most : Nat) : Scan Nat := fun s =>
  match (s.take most).takeWhile Char.isDigit with
  | [] => none
  | ds => some (decimalValue ds, s.drop ds.length)

/-- A number of up to two digits within closed bounds, behind blanks. -/
def numeral (low high : Nat) : Scan Nat := do
  blanks
  let n ← number 2
  guard (low ≤ n ∧ n ≤ high)
  return n

/-- A mark between two numbers, behind blanks. -/
def mark (c : Char) : Scan Unit := blanks *> Scan.char c

/-- A year of any number of digits behind a sign, or of up to four without one. -/
def year : Scan Int := do
  blanks
  let digits : Scan Int := (fun ds => (decimalValue ds : Int)) <$> Scan.run1 Char.isDigit
  let y ← (Scan.char '-' *> (Neg.neg <$> digits)) <|> (Scan.char '+' *> digits)
    <|> Int.ofNat <$> number 4
  guard (-262143 ≤ y ∧ y ≤ 262142)
  return y

/-- A day. -/
def date : Scan Unit := do
  let y ← year
  mark '-'
  let month ← numeral 1 12
  mark '-'
  discard (numeral 1 (daysOf y month))

/-- A time of day. -/
def time : Scan Unit := do
  discard (numeral 0 23)
  mark ':'
  discard (numeral 0 59)
  mark ':'
  discard (numeral 0 60)
  discard (Scan.optionally (Scan.char '.' *> Scan.run1 Char.isDigit))

/-- The distance from universal time in hours and minutes. -/
def distance : Scan Unit := do
  discard (Scan.one fun c => c == '+' || c == '-' || c == '−')
  guard (decimalValue (← Scan.times Char.isDigit 2) < 24)
  discard (Scan.run fun c => c == ':' || isBlank c)
  guard (decimalValue (← Scan.times Char.isDigit 2) < 60)

/-- The words for universal time. -/
def universal : Scan Unit :=
  let letter (upper lower : Char) : Scan Unit := discard (Scan.one fun c => c == upper || c == lower)
  letter 'Z' 'z' <|> (letter 'U' 'u' *> letter 'T' 't' *> letter 'C' 'c')

end Moment

-- ---------------------------------------------------------------------------
-- The whole
-- ---------------------------------------------------------------------------

/-- A point in time at the start of a text, with the blanks behind it. -/
def moment : Scan Unit := do
  Moment.date
  discard (Scan.one fun c => c == 'T' || c == 't' || c == ' ')
  Moment.time
  Moment.blanks
  Moment.universal <|> Moment.distance
  Moment.blanks

/-- A text that names a point in time. -/
def isMoment (s : String) : Bool := (Scan.whole moment s.toList).isSome

end NetAttach.Text
