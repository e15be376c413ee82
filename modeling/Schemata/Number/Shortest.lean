import Schemata.Number.Binary64

set_option autoImplicit false

/-!
The shortest decimal that reads back as a given binary number. The reals that round to a finite
number form an interval; among the decimals of one digit, of two, and so on, the first that falls
into it is taken, and of two candidates of one length the nearer.
-/

namespace Schemata

/-- The number `digits` times ten to the `power`. -/
structure Decimal where
  digits : Nat
  power : Int
deriving DecidableEq

-- Without trailing zeros in the digits; `fuel` bounds how many are dropped.
def Decimal.trim (fuel : Nat) (d : Decimal) : Decimal :=
  match fuel with
  | 0 => d
  | fuel + 1 =>
    if d.digits ≠ 0 ∧ d.digits % 10 = 0 then Decimal.trim fuel ⟨d.digits / 10, d.power + 1⟩ else d

namespace Binary64

/-- The reals that round to a number; the ends belong to it when its significand is even. -/
structure Rounding where
  low : Rat
  high : Rat
  closed : Bool

def Rounding.contains (r : Rounding) (q : Rat) : Bool :=
  if r.closed then decide (r.low ≤ q ∧ q ≤ r.high) else decide (r.low < q ∧ q < r.high)

-- Below a power of two the neighbouring number is only half a step away.
def rounding (x : Binary64) : Rounding :=
  let quarter : Rat := (2 : Rat) ^ (x.exponent - 2)
  let below : Rat := if x.fraction = 0 ∧ 1 < x.exponentField then quarter else 2 * quarter
  ⟨x.magnitude - below, x.magnitude + 2 * quarter, x.significand % 2 == 0⟩

-- The least power of ten that exceeds a positive number.
def decimalExponent (q : Rat) : Int :=
  let guess : Int := ((Nat.toDigits 10 q.num.toNat).length : Int) - ((Nat.toDigits 10 q.den).length : Int)
  if q < (10 : Rat) ^ guess then guess else guess + 1

-- The decimal with `count` digits nearest to `q` among those that read back, if one does.
def candidate? (r : Rounding) (q : Rat) (count : Nat) : Option Decimal :=
  let power := decimalExponent q - (count : Int)
  let unit : Rat := (10 : Rat) ^ power
  let floor := (q / unit).floor.toNat
  let low := (floor : Rat) * unit
  let high := low + unit
  match r.contains low, r.contains high with
  | false, false => none
  | true, false => some ⟨floor, power⟩
  | false, true => some ⟨floor + 1, power⟩
  | true, true =>
    if q - low < high - q then some ⟨floor, power⟩
    else if high - q < q - low then some ⟨floor + 1, power⟩
    else some ⟨if floor % 2 = 0 then floor else floor + 1, power⟩

/-- The fewest digits that tell a positive finite number from its neighbours; seventeen always do. -/
def shortest (x : Binary64) : Decimal :=
  let r := x.rounding
  let found := ((List.range 17).map (· + 1)).findSome? (candidate? r x.magnitude)
  (found.getD ⟨0, 0⟩).trim 17

end Binary64
end Schemata
