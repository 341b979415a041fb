-- SUMMARY: Finite double-precision numbers as their bits, and the double that a decimal numeral reads as.

/-!
# Doubles

A `Double` is the bit pattern of a binary64 number, so that equality of doubles is
decidable and the two zeros differ. A decimal numeral is read in two roundings:
its significand becomes a double first, which is then multiplied or divided by a
power of ten.
-/

namespace NetAttach

/-- A binary64 number, by its bits. -/
structure Double where
  bits : UInt64
deriving Repr, DecidableEq, Inhabited

namespace Double

def ofFloat (x : Float) : Double := ⟨x.toBits⟩

def toFloat (d : Double) : Float := Float.ofBits d.bits

/-- The sign bit is set. -/
def isNegative (d : Double) : Bool := d.bits >>> 63 == 1

/-- Equality of numbers, for which the two zeros are the same. -/
def sameValue (a b : Double) : Bool := a.toFloat == b.toFloat

-- ---------------------------------------------------------------------------
-- From a decimal numeral
-- ---------------------------------------------------------------------------

/-- The power of ten nearest to `10 ^ n`; exact only for small `n`. -/
private def powerOfTen (n : Nat) : Float := Float.ofScientific 1 false n

/-- Divide by `10 ^ n`, in steps of the largest power of ten that is a double. -/
def scaleDown (x : Float) (n : Nat) : Float :=
  if n ≤ 308 then x / powerOfTen n
  else if x == 0 then x
  else scaleDown (x / powerOfTen 308) (n - 308)
termination_by n

/-- The double read for `significand * 10 ^ exponent`. There is none if it is beyond all doubles. -/
def ofDecimal? (negative : Bool) (significand : Nat) (exponent : Int) : Option Double :=
  let x := Float.ofNat significand
  let scaled : Option Float :=
    match exponent with
    | .ofNat e =>
      if 308 < e then (if x == 0 then some x else none)
      else
        let y := x * powerOfTen e
        if y.isInf then none else some y
    | .negSucc e => some (scaleDown x (e + 1))
  scaled.map fun y => ofFloat (if negative then -y else y)

/-- Whether a decimal number is so large that it rounds to infinity. Numbers that are far from the
limit are told by their number of digits. -/
def roundsToInfinity (significand : Nat) (exponent : Int) : Bool :=
  let limit := Nat.pow 2 1024 - Nat.pow 2 970
  let digits := (Nat.toDigits 10 significand).length + exponent
  significand != 0 && (310 < digits || (300 < digits &&
    match exponent with
    | .ofNat e => limit ≤ significand * Nat.pow 10 e
    | .negSucc e => limit * Nat.pow 10 (e + 1) ≤ significand))

end Double

end NetAttach
