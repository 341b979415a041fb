-- SUMMARY: The shortest decimal that reads back as a given double, and how it is written.
import NetAttach.Decimal.Double

/-!
# Shortest decimals

The decimals that round to a double form an interval around it. Of the decimals in
the interval with the fewest digits, the one nearest to the double is chosen, and
the one with an even last digit if two are equally near. All comparisons are exact
comparisons of natural numbers.
-/

namespace NetAttach.Decimal

/-- The number `m * 2 ^ q`. The gap to the double below it may be half the gap above. -/
structure Magnitude where
  m : Nat
  q : Int
  narrowBelow : Bool
deriving Repr, DecidableEq

/-- The absolute value of a finite double. -/
def Magnitude.ofDouble (d : Double) : Magnitude :=
  let e := ((d.bits >>> 52) &&& 0x7FF).toNat
  let f := (d.bits &&& 0xFFFFFFFFFFFFF).toNat
  if e = 0 then ⟨f, -1074, false⟩
  else ⟨0x10000000000000 + f, (e : Int) - 1075, f == 0 && 1 < e⟩

/-- The number `digits * 10 ^ exponent`. -/
structure Numeral where
  digits : Nat
  exponent : Int
deriving Repr, DecidableEq

-- ---------------------------------------------------------------------------
-- Which decimals read back
-- ---------------------------------------------------------------------------

/-- Compare `a * 10 ^ i` with `b * 2 ^ j`. -/
def compareScaled (a : Nat) (i : Int) (b : Nat) (j : Int) : Ordering :=
  compare (a * Nat.pow 10 i.toNat * Nat.pow 2 (-j).toNat)
    (b * Nat.pow 2 j.toNat * Nat.pow 10 (-i).toNat)

/-- The decimal rounds to the double: it lies between the midpoints to the neighbours, which
count when the significand is even. -/
def Magnitude.isReadFrom (x : Magnitude) (d : Numeral) : Bool :=
  let low := if x.narrowBelow then 4 * x.m - 1 else 4 * x.m - 2
  let high := 4 * x.m + 2
  let atLow := compareScaled d.digits d.exponent low (x.q - 2)
  let atHigh := compareScaled d.digits d.exponent high (x.q - 2)
  let ends := x.m % 2 == 0
  (atLow == .gt || (ends && atLow == .eq)) && (atHigh == .lt || (ends && atHigh == .eq))

-- ---------------------------------------------------------------------------
-- The search
-- ---------------------------------------------------------------------------

/-- The least `k` with `m * 2 ^ q < 10 ^ k`, for a number that is not zero. -/
def Magnitude.scale (x : Magnitude) : Int :=
  let num := x.m * Nat.pow 2 x.q.toNat
  let den := Nat.pow 2 (-x.q).toNat
  if den ≤ num then (Nat.toDigits 10 (num / den)).length
  else
    match (List.range 400).find? fun j => den ≤ num * Nat.pow 10 (j + 1) with
    | some j => -(j : Int)
    | none => -400

/-- The multiple of `10 ^ g` at or below the number, as the factor. -/
def Magnitude.floorAt (x : Magnitude) (g : Int) : Nat :=
  (x.m * Nat.pow 2 x.q.toNat * Nat.pow 10 (-g).toNat)
    / (Nat.pow 2 (-x.q).toNat * Nat.pow 10 g.toNat)

/-- The nearest multiple of `10 ^ g` that reads back, if one of the two neighbours does. -/
def Magnitude.atGrid? (x : Magnitude) (g : Int) : Option Numeral :=
  let below := x.floorAt g
  let hitBelow := below != 0 && x.isReadFrom ⟨below, g⟩
  let hitAbove := x.isReadFrom ⟨below + 1, g⟩
  match hitBelow, hitAbove with
  | false, false => none
  | true, false => some ⟨below, g⟩
  | false, true => some ⟨below + 1, g⟩
  | true, true =>
    match compareScaled (2 * below + 1) g (2 * x.m) x.q with
    | .gt => some ⟨below, g⟩
    | .lt => some ⟨below + 1, g⟩
    | .eq => some ⟨if below % 2 == 0 then below else below + 1, g⟩

/-- Move trailing zeros of the digits into the exponent. -/
def stripZeros : Nat → Numeral → Numeral
  | 0, d => d
  | fuel + 1, d =>
    if d.digits ≠ 0 ∧ d.digits % 10 = 0 then stripZeros fuel ⟨d.digits / 10, d.exponent + 1⟩ else d

/-- The shortest decimal that reads back as the number. Seventeen digits always suffice. -/
def Magnitude.shortest (x : Magnitude) : Numeral :=
  if x.m = 0 then ⟨0, 0⟩
  else
    let k := x.scale
    match (List.range 17).findSome? fun (n : Nat) => x.atGrid? (k - (n + 1 : Nat)) with
    | some d => stripZeros 17 d
    | none => ⟨x.floorAt (k - 17), k - 17⟩

-- ---------------------------------------------------------------------------
-- Layout
-- ---------------------------------------------------------------------------

/-- The least exponent of the leading digit that is written positionally. -/
def plainFrom : Int := -5

/-- From this exponent of the leading digit on, a number is written with an exponent. -/
def plainBelow : Int := 16

/-- Write a decimal with a point or an exponent. -/
def Numeral.render (d : Numeral) : List Char :=
  let ds := Nat.toDigits 10 d.digits
  let e := d.exponent + ds.length - 1
  if plainFrom ≤ e ∧ e < plainBelow then
    if 0 ≤ d.exponent then ds ++ List.replicate d.exponent.toNat '0' ++ ['.', '0']
    else if 0 ≤ e then ds.take (e.toNat + 1) ++ '.' :: ds.drop (e.toNat + 1)
    else '0' :: '.' :: List.replicate (-e - 1).toNat '0' ++ ds
  else
    let mantissa :=
      match ds with
      | [] => []
      | [c] => [c]
      | c :: r => c :: '.' :: r
    mantissa ++ 'e' :: (if 0 ≤ e then '+' else '-') :: Nat.toDigits 10 e.natAbs

/-- A finite double as text: the shortest decimal, always with a point or an exponent. -/
def renderDouble (d : Double) : List Char :=
  let body := (Magnitude.ofDouble d).shortest.render
  if d.isNegative then '-' :: body else body

end NetAttach.Decimal
